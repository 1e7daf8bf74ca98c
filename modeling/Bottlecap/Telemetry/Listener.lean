import Bottlecap.Telemetry.CutBodies

namespace Bottlecap
namespace Telemetry

open Foundations Extension

/-!
# The telemetry listener

`TelemetryListener::handle` (`extension/telemetry/listener.rs`): a body that parses is
forwarded to the logs channel, any other goes to the stitcher.  The results are about
bodies that are posted one after the other.
-/

structure Response where
  status : Nat
  text : String
  deriving DecidableEq

structure HandlerState where
  fragments : FragmentBuffer
  /-- The events that the logs channel has taken. -/
  logsTx : List TelemetryEvent
  /-- The logs agent has stopped receiving. -/
  closed : Bool

/-- The loop that sends the events. -/
def HandlerState.forward : List TelemetryEvent -> HandlerState -> Response × HandlerState
  | [], state => (⟨200, "OK"⟩, state)
  | event :: events, state =>
    if state.closed then (⟨503, "Shutting down"⟩, state)
    else forward events { state with logsTx := state.logsTx ++ [event] }

/-- `handle` for a body that was extracted. -/
def handle (serde : SerdeJson) (now : Nat) (body : Bytes) (state : HandlerState) :
    Response × HandlerState :=
  match serde.fromSlice body with
  | Except.ok events => state.forward events
  | Except.error _ =>
    let stitched := state.fragments.stitch serde now body
    let next := { state with fragments := stitched.2 }
    match stitched.1 with
    | .complete events => next.forward events
    | .pending => (⟨200, "Holding split telemetry payload"⟩, next)
    | .discarded => (⟨200, "Failed to parse telemetry events"⟩, next)

/-- A body with the instant at which it is posted. -/
structure Post where
  now : Nat
  events : List Event

def Post.body (post : Post) : Bytes := payload post.events

/-- The state after the posts. -/
def HandlerState.after (serde : SerdeJson) (state : HandlerState) (posts : List Post) :
    HandlerState :=
  posts.foldl (fun current post => (handle serde post.now post.body current).2) state

def HandlerState.initial : HandlerState := ⟨⟨none⟩, [], false⟩

theorem forward_open (events : List TelemetryEvent) (state : HandlerState)
    (isOpen : state.closed = false) :
    state.forward events = (⟨200, "OK"⟩, { state with logsTx := state.logsTx ++ events }) := by
  induction events generalizing state with
  | nil => rw [HandlerState.forward, List.append_nil]
  | cons event _ ih =>
    rw [HandlerState.forward, if_neg (by rw [isOpen]; exact Bool.false_ne_true),
      ih { state with logsTx := state.logsTx ++ [event] } isOpen, List.append_assoc]
    rfl

/-! ## Joining bodies -/

section Joining

variable {serde : SerdeJson}

/-- The events that the stitcher joins: a body on its own, or the held events and the
held record extended by the first piece of the body. -/
def joinedWith (ahead : List Event) (cut : Option Event) (events : List Event) : List Event :=
  match cut, events with
  | some record, piece :: rest => ahead ++ record.extend piece.value :: rest
  | _, events => ahead ++ events

theorem inner_cons (event : Event) (events : List Event) :
    inner (event :: events) = event.envelope ++ (inner (event :: events)).drop
      event.envelope.length := by
  cases events with
  | nil | cons => rw [inner, List.drop_left]

/-- The piece that opens a body resumes a held fragment. -/
theorem resumedBytes_payload {piece : Event} (enveloped : piece.Enveloped)
    (typed : piece.kind.isSome = true) (rest : List Event) :
    Fragment.resumedBytes (payload (piece :: rest)) =
      some ((inner (piece :: rest)).drop piece.envelope.length ++ framing) := by
  rcases Option.isSome_iff_exists.mp typed with ⟨kind, same⟩
  have opened := stripStart_append [openBracket] (inner (piece :: rest) ++ framing)
  rw [List.cons_append, List.nil_append] at opened
  have accepted : envelope (inner (piece :: rest) ++ framing) =
      some (piece.envelope.length, some kind) := by
    rw [inner_cons, List.append_assoc, <- same]
    exact envelope_append enveloped _
  rw [Fragment.resumedBytes, payload_cons, opened, Option.bind_some, accepted]
  have size : piece.envelope.length <= (inner (piece :: rest)).length := by
    rw [inner_cons, List.length_append]
    omega
  simp only [List.drop_append_of_le_length size]

/-- The bytes of some events before the last one's closing brace, and an event behind
them. -/
theorem inner_append (ahead : List Event) (event : Event) (rest : List Event) :
    inner (ahead ++ event :: rest) =
      ahead.flatMap (fun other => other.text ++ [comma]) ++ inner (event :: rest) := by
  induction ahead with
  | nil => rfl
  | cons _ ahead ih =>
    rw [List.flatMap_cons, List.append_assoc, <- ih]
    cases ahead with
    | nil =>
      simp only [List.nil_append, List.cons_append, inner, Event.text, List.append_assoc]
    | cons =>
      simp only [List.cons_append, inner, Event.text, List.append_assoc, List.nil_append]

theorem payload_of_ne_nil {events : List Event} (nonempty : events ≠ []) :
    payload events = openBracket :: (inner events ++ framing) := by
  cases events with
  | nil => exact absurd rfl nonempty
  | cons event events => exact payload_cons event events

/-- Joining the bytes that resume a held payload is posting the joined events. -/
theorem join_payload (ahead : List Event) (record piece : Event) (rest : List Event) (since : Nat) :
    Fragment.join ⟨payload (ahead ++ [record]), since⟩
        ((inner (piece :: rest)).drop piece.envelope.length ++ framing) =
      payload (ahead ++ record.extend piece.value :: rest) := by
  rw [payload_of_ne_nil (List.append_ne_nil_of_right_ne_nil ahead (List.cons_ne_nil _ _)),
    payload_of_ne_nil (List.append_ne_nil_of_right_ne_nil ahead (List.cons_ne_nil _ _))]
  have stripped := stripEnd_append (openBracket :: inner (ahead ++ [record])) framing
  rw [List.cons_append] at stripped
  rw [Fragment.join, stripped, Option.getD_some, inner_append, inner_append]
  have resumed : inner [record] ++ (inner (piece :: rest)).drop piece.envelope.length =
      inner (record.extend piece.value :: rest) := by
    cases rest with
    | nil | cons => simp only [inner, List.drop_left, Event.extend, List.append_assoc]
  rw [<- resumed]
  simp only [List.cons_append, List.append_assoc]

end Joining

end Telemetry
end Bottlecap
