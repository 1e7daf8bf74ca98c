import Bottlecap.Foundations.JsonText
import Bottlecap.Extension.Events

namespace Bottlecap
namespace Telemetry

open Foundations Extension
open JsonText (arrayOf tailOf)

/-!
# Reassembling telemetry payloads

`extension/telemetry/stitch.rs`.  Lambda cuts a long log record into pieces, each
under an envelope of its own, and closes the framing after a cut piece as after a
whole record.  The stitcher splits a payload at its envelopes, joins the pieces of
each record, and holds a payload that ends on a cut piece for its continuation.

An instant is a number of nanoseconds.  The parsers of `serde_json` are fields of
`SerdeJson`.
-/

/-! ## The parsers -/

/-- `serde_json::error::Category`; slices cause no I/O errors. -/
inductive Category where
  | syntactic
  | data
  | eof
  deriving DecidableEq

structure JsonError where
  line : Nat
  column : Nat
  category : Category
  deriving DecidableEq

/-- The one-based line and column of the byte at `index`. -/
def position (bytes : Bytes) (index : Nat) : Nat × Nat :=
  ((bytes.take index).count newline + 1,
    ((bytes.take index).reverse.takeWhile (fun byte => byte != newline)).length + 1)

/-- What `serde_json` and the `Deserialize` of the events do.  JSON is what
`from_slice::<IgnoredAny>` accepts. -/
structure SerdeJson where
  /-- `from_slice::<IgnoredAny>`: the error, if the slice is not JSON. -/
  ignoredAny : Bytes -> Option JsonError
  /-- `from_slice::<TelemetryEvent>` on JSON text. -/
  event : Bytes -> Option TelemetryEvent
  /-- `from_slice::<Vec<TelemetryEvent>>` -/
  fromSlice : Bytes -> Except JsonError (List TelemetryEvent)
  /-- A JSON text that breaks off is reported as running out, or as invalid at
  its last byte. -/
  cutShort : forall (start rest : Bytes) (error : JsonError), rest ≠ [] ->
    ignoredAny (start ++ rest) = none -> ignoredAny start = some error ->
      error.category = .eof ∨
        (error.line, error.column) = position start (start.length - 1)
  /-- An array is read element by element. -/
  elements : forall (texts : List Bytes) (events : List TelemetryEvent),
    (forall text, text ∈ texts -> ignoredAny text = none) -> texts.mapM event = some events ->
      fromSlice (arrayOf texts) = Except.ok events

/-! ## Envelopes -/

/-- The types of event that Lambda cuts. -/
inductive PieceType where
  | function
  | extension
  deriving DecidableEq

/-- How a piece's envelope ends. -/
def PieceType.tail : PieceType -> Bytes
  | function => ascii "\"type\":\"function\",\"record\":"
  | extension => ascii "\"type\":\"extension\",\"record\":"

def pieceTypes : List PieceType := [.function, .extension]

/-- `MAX_FRAGMENT_BYTES` -/
def maxFragmentBytes : Nat := 4 * 1024 * 1024

/-- `FRAGMENT_TTL`, one second. -/
def fragmentTtl : Nat := 1000000000

def recordKey : Bytes := ascii "\"record\":"

def framing : Bytes := [closeBrace, closeBracket]

def eventStart : Bytes := openBrace :: ascii "\"time\":\""

/-- `MAX_ENVELOPE_BYTES` -/
def maxEnvelopeBytes : Nat := 128

/-- `MAX_SEAMS` -/
def maxSeams : Nat := 64

/-- The length of an event's envelope, through `"record":`, and its type if it is
a log piece. -/
def envelope (event : Bytes) : Option (Nat × Option PieceType) :=
  (stripStart eventStart (event.take maxEnvelopeBytes)).bind (fun window =>
    (find recordKey window).bind (fun start =>
      let fields := window.take (start + recordKey.length)
      if fields.any (fun byte => byte == openBrace || byte == closeBrace) then none
      else some (eventStart.length + (start + recordKey.length),
        pieceTypes.find? (fun kind => kind.tail.isSuffixOf fields))))

/-! ## Events of a payload -/

structure Event where
  envelope : Bytes
  value : Bytes
  kind : Option PieceType
  deriving DecidableEq

/-- The split at the first `},` that is followed by an envelope. -/
def splitAtNextEvent : Bytes -> Option (Bytes × Bytes)
  | [] => none
  | byte :: rest =>
    match (stripStart [closeBrace, comma] (byte :: rest)).filter
      (fun next => (envelope next).isSome) with
    | some next => some ([], next)
    | none => (splitAtNextEvent rest).map (fun found => (byte :: found.1, found.2))

/-- The loop of `split_events`.  Each turn leaves a shorter rest, so that as many
turns as there are bytes are enough. -/
def splitRest : Nat -> Bytes -> Option (List Event)
  | 0, _ => none
  | turns + 1, rest =>
    match envelope rest with
    | none => none
    | some (length, kind) =>
      match splitAtNextEvent (rest.drop length) with
      | none => some [⟨rest.take length, rest.drop length, kind⟩]
      | some (value, next) =>
        (splitRest turns next).map (fun events => ⟨rest.take length, value, kind⟩ :: events)

def splitEvents (body : Bytes) : Option (List Event) :=
  (stripStart [openBracket] body).bind (fun opened =>
    (stripEnd framing opened).bind (fun rest => splitRest (rest.length + 1) rest))

/-- Appends an event to a payload that is being rebuilt. -/
def pushEvent (payload envelope value : Bytes) : Bytes :=
  payload ++ [if payload.isEmpty then openBracket else comma] ++ envelope ++ value ++ [closeBrace]

/-! ## Records -/

inductive Record where
  | whole
  | cut
  | broken
  deriving DecidableEq

/-- The byte at which the line and column of an error point. -/
def offset (body : Bytes) (error : JsonError) : Nat :=
  let lineStart :=
    match error.line with
    | 0 => 0
    | 1 => 0
    | line + 2 =>
      match (body.zipIdx.filter (fun entry => entry.1 == newline))[line]? with
      | some entry => entry.2 + 1
      | none => 0
  lineStart + (error.column - 1)

section Parsing

variable (serde : SerdeJson)

def parseRecord (value : Bytes) : Record :=
  match serde.ignoredAny value with
  | none => .whole
  | some error =>
    if error.category = .eof ∨ offset value error + 1 ≥ value.length then .cut
    else .broken

/-- The variables of the loop in `drop_seams`. -/
structure Seams where
  joined : Bytes
  cut : Option (Event × Bytes)
  seamCount : Nat

/-- One turn of the loop, or the early return. -/
def Seams.step (seams : Seams) (event : Event) : Option Seams :=
  match seams.cut with
  | none =>
    match parseRecord serde event.value with
    | .whole =>
      some { seams with joined := pushEvent seams.joined event.envelope event.value }
    | .cut =>
      if event.kind.isSome then some { seams with cut := some (event, event.value) } else none
    | .broken => none
  | some (record, value) =>
    if event.kind ≠ record.kind then
      match parseRecord serde event.value with
      | .whole =>
        some { seams with joined := pushEvent seams.joined event.envelope event.value }
      | _ => none
    else if seams.seamCount = maxSeams then none
    else
      let counted := { seams with seamCount := seams.seamCount + 1 }
      match parseRecord serde (value ++ event.value) with
      | .whole =>
        some { counted with
          joined := pushEvent seams.joined record.envelope (value ++ event.value)
          cut := none }
      | .cut => some { counted with cut := some (record, value ++ event.value) }
      | .broken => none

/-- The payload that is rebuilt when the loop has ended. -/
def Seams.body (seams : Seams) : Bytes :=
  match seams.cut with
  | none => seams.joined ++ [closeBracket]
  | some (record, value) => pushEvent seams.joined record.envelope value ++ [closeBracket]

/-- The body after the call, and whether it ends on a cut piece. -/
def dropSeams (body : Bytes) : Bytes × Bool :=
  match (splitEvents body).bind (fun events => events.foldlM (Seams.step serde) ⟨[], none, 0⟩) with
  | none => (body, false)
  | some seams => (seams.body, seams.cut.isSome)

/-! ## The fragment buffer -/

inductive Stitch where
  | complete (events : List TelemetryEvent)
  | pending
  | discarded

structure Fragment where
  body : Bytes
  received : Nat
  deriving DecidableEq

structure FragmentBuffer where
  held : Option Fragment

/-- The bytes that resume a fragment, if the body is its continuation. -/
def Fragment.resumedBytes (body : Bytes) : Option Bytes :=
  (stripStart [openBracket] body).bind (fun event =>
    match envelope event with
    | some (length, some _) => some (event.drop length)
    | _ => none)

def Fragment.join (head : Fragment) (resumed : Bytes) : Bytes :=
  (stripEnd framing head.body).getD head.body ++ resumed

/-- The result, and what the slot holds after it was found or left empty. -/
def parseOrHold (now : Nat) (body : Bytes) : Stitch × Option Fragment :=
  match serde.fromSlice body with
  | Except.ok events => (.complete events, none)
  | Except.error error =>
    if error.category = .data then (.discarded, none)
    else
      let dropped := dropSeams serde body
      if dropped.2 ∧ dropped.1.length <= maxFragmentBytes then
        (.pending, some ⟨dropped.1, now⟩)
      else
        match serde.fromSlice dropped.1 with
        | Except.ok events => (.complete events, none)
        | Except.error _ => (.discarded, none)

/-- The held fragment, unless it has waited too long. -/
def FragmentBuffer.fresh (now : Nat) (buffer : FragmentBuffer) : Option Fragment :=
  buffer.held.filter (fun held => now - held.received <= fragmentTtl)

def FragmentBuffer.stitch (now : Nat) (body : Bytes) (buffer : FragmentBuffer) :
    Stitch × FragmentBuffer :=
  let alone := parseOrHold serde now body
  let stitched :=
    match buffer.fresh now with
    | none => alone
    | some head =>
      match Fragment.resumedBytes body with
      | none => alone
      | some resumed =>
        match parseOrHold serde now (head.join resumed) with
        | (.discarded, _) => alone
        | joined => joined
  (stitched.1, ⟨stitched.2⟩)

end Parsing

end Telemetry
end Bottlecap
