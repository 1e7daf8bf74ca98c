import Bottlecap.Telemetry.Restoration

namespace Bottlecap
namespace Telemetry

open Foundations Extension
open JsonText (arrayOf tailOf)

/-!
# A parser for concrete payloads

The recogniser of JSON texts as the parsers of `SerdeJson`, with the errors and their
positions as `serde_json` reports them for texts without numbers.  Of the events it
decodes the log lines of one second, if their record is a string without escapes,
and two `platform.runtimeDone`.
-/

/-- The error in the rest of a text, read in a state at a line and column. -/
def errorFrom : JsonText.State -> Nat × Nat -> Bytes -> Option JsonError
  | state, place, [] => if state.done then none else some ⟨place.1, place.2, .eof⟩
  | state, place, byte :: rest =>
    let next := if byte = newline then (place.1 + 1, 0) else (place.1, place.2 + 1)
    match JsonText.step state byte with
    | none => some ⟨next.1, next.2, .syntactic⟩
    | some after => errorFrom after next rest

theorem errorFrom_eq_none_iff {state : JsonText.State} {place : Nat × Nat} {bytes : Bytes} :
    errorFrom state place bytes = none <->
      Exists fun final => JsonText.run state bytes = some final ∧ final.done = true := by
  induction bytes generalizing state place with
  | nil =>
    rw [errorFrom]
    constructor
    · intro noError
      split at noError
      next done => exact ⟨state, rfl, done⟩
      next => cases noError
    · rintro ⟨final, runs, done⟩
      cases runs
      exact if_pos done
  | cons byte _ ih =>
    rw [errorFrom, JsonText.run_cons]
    cases JsonText.step state byte with
    | none =>
      refine iff_of_false (fun noError => by cases noError) ?_
      rintro ⟨final, runs, _⟩
      cases runs
    | some => exact ih

/-- The start of a JSON text runs out. -/
theorem errorFrom_start {state : JsonText.State} {place : Nat × Nat} {start rest : Bytes}
    {error : JsonError} (whole : errorFrom state place (start ++ rest) = none)
    (stops : errorFrom state place start = some error) : error.category = .eof := by
  induction start generalizing state place with
  | nil =>
    rw [errorFrom] at stops
    split at stops
    next => cases stops
    next =>
      cases stops
      rfl
  | cons byte _ ih =>
    rw [List.cons_append, errorFrom] at whole
    rw [errorFrom] at stops
    cases steps : JsonText.step state byte with
    | none =>
      rw [steps] at whole
      cases whole
    | some =>
      rw [steps] at whole stops
      exact ih whole stops

/-- A string without escapes. -/
def plainString : Bytes -> Option Value
  | [] => none
  | first :: rest =>
    if first = quote ∧ rest.getLast? = some quote ∧
        rest.dropLast.all (fun byte => byte != quote && byte != backslash) then
      some (.string (String.ofList (rest.dropLast.map (fun byte => Char.ofNat byte.toNat))))
    else none

/-- The times of the second `2026-09-03T14:29:52Z`. -/
def plainTime (text : Bytes) : Option DateTime :=
  match stripStart (eventStart ++ ascii "2026-09-03T14:29:52.") text with
  | some (hundreds :: tens :: ones :: _) =>
    let millis := [hundreds, tens, ones].foldl (fun number digit =>
      number * 10 + (digit.toNat - 48)) 0
    some ((1788445792000 + millis) * 1000000)
  | _ => none

def plainRecord (text : Bytes) : Option TelemetryRecord :=
  (envelope text).bind (fun (length, kind) =>
    let value := (text.drop length).dropLast
    match kind with
    | some .function => (plainString value).map .function
    | some .extension => (plainString value).map .extension
    | none =>
      if (ascii "\"type\":\"platform.runtimeDone\",\"record\":").isSuffixOf (text.take length) ∧
          value = ascii "\x7b\"requestId\":\"abc123\",\"status\":\"success\"\x7d" then
        some (.platformRuntimeDone "abc123" .success none none)
      else none)

/-- A `platform.runtimeDone` that names its type before its time. -/
def typeFirst : Event :=
  ⟨ascii ("\x7b\"type\":\"platform.runtimeDone\",\"time\":\"2026-09-03T14:29:52.928Z\"," ++
    "\"record\":"), ascii "\x7b\"requestId\":\"abc123\",\"status\":\"success\"\x7d", none⟩

def plainEvent (text : Bytes) : Option TelemetryEvent :=
  if text = typeFirst.text then
    some ⟨1788445792928000000,
      .platformRuntimeDone "abc123" .success none none⟩
  else (plainTime text).bind (fun time => (plainRecord text).map (fun record => ⟨time, record⟩))

def plainEvents (bytes : Bytes) : Except JsonError (List TelemetryEvent) :=
  match errorFrom JsonText.initial (1, 0) bytes with
  | some error => Except.error error
  | none =>
    match (JsonText.elements bytes).bind (fun texts => texts.mapM plainEvent) with
    | some events => Except.ok events
    | none => Except.error ⟨1, 1, .data⟩

def SerdeJson.plain : SerdeJson where
  ignoredAny := errorFrom JsonText.initial (1, 0)
  event := plainEvent
  fromSlice := plainEvents
  cutShort := fun _ _ _ _ whole stops => Or.inl (errorFrom_start whole stops)
  elements := by
    intro texts events json decoded
    have json : forall text, text ∈ texts -> JsonText.Json text :=
      fun text member => errorFrom_eq_none_iff.mp (json text member)
    have noError : errorFrom JsonText.initial (1, 0) (arrayOf texts) = none :=
      errorFrom_eq_none_iff.mpr (JsonText.json_arrayOf json)
    rw [plainEvents, noError, JsonText.elements_arrayOf json, Option.bind_some, decoded]

/-- A text with an error is rejected for it. -/
theorem plain_rejects {bytes : Bytes} {error : JsonError}
    (stops : errorFrom JsonText.initial (1, 0) bytes = some error) :
    SerdeJson.plain.fromSlice bytes = Except.error error := by
  change plainEvents bytes = Except.error error
  rw [plainEvents, stops]

/-! ## Events of that second -/

/-- An envelope at a millisecond, given by its three digits. -/
def plainEnvelope (millis type : String) : Bytes :=
  eventStart ++ ascii ("2026-09-03T14:29:52." ++ millis ++ "Z\",\"type\":\"" ++ type ++
    "\",\"record\":")

/-- A piece of a log record of the function, given by its characters. -/
def functionPiece (millis value : String) : Event :=
  ⟨plainEnvelope millis "function", ascii value, some .function⟩

def runtimeDone (millis : String) : Event :=
  ⟨plainEnvelope millis "platform.runtimeDone",
    ascii "\x7b\"requestId\":\"abc123\",\"status\":\"success\"\x7d", none⟩

example : SerdeJson.plain.ignoredAny (ascii "\x7b\"a\":[1,-2.5e3,\"x\"],\"b\":null\x7d") = none := by
  decide +kernel

example : (SerdeJson.plain.ignoredAny (ascii "lo\"")).map JsonError.column = some 1 := by
  decide +kernel

end Telemetry
end Bottlecap
