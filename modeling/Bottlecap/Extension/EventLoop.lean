import Bottlecap.Lifecycle.Handlers

namespace Bottlecap
namespace Extension

open Lifecycle

/-!
# The On-Demand main loop

`bin/bottlecap/main.rs` reads the event bus, hands each event to the invocation
processor and decides when to flush.  Under `FlushDecision::End` it waits for the
end of the runtime, flushes, and asks for the next invocation.  A wake-up of the
`select!` is an event of the bus or a tick of the flush interval.

`wakes` is what the loop is woken with, in order.  The loop keeps waiting as long
as it is not left, so a wait that is not over when the wake-ups are used up has
no remaining list.
-/

inductive Wake where
  | event (event : Event)
  | tick

/-- What the main loop does, apart from waiting. -/
inductive LoopAction where
  | command (command : Command)
  | flushBlocking
  | resetFlushInterval
  | nextEvent

def TelemetryRecord.isRuntimeDone : TelemetryRecord -> Bool
  | platformRuntimeDone _ _ _ _ => true
  | _ => false

def Wake.isRuntimeDone : Wake -> Bool
  | event (.telemetry telemetry) => telemetry.record.isRuntimeDone
  | _ => false

/-- `handle_event_bus_event`: the commands sent to the processor, and the event
it returns to the loop. -/
def handleEventBusEvent : Event -> List Command × Option TelemetryEvent
  | .outOfMemory requestId timestamp =>
    ([.onOutOfMemoryError requestId timestamp], none)
  | .tombstone => ([], none)
  | .telemetry event =>
    match event.record with
    | .platformInitStart _ _ runtimeVersion _ =>
      ([.platformInitStart event.time runtimeVersion], none)
    | .platformInitReport initializationType _ metrics =>
      ([.platformInitReport initializationType metrics.durationMs
        (DateTime.timestamp event.time)], none)
    | .platformRestoreStart => ([.platformRestoreStart event.time], none)
    | .platformRestoreReport _ _ (some metrics) =>
      ([.platformRestoreReport metrics.durationMs (DateTime.timestamp event.time)], none)
    | .platformRestoreReport _ _ none => ([], none)
    | .platformStart requestId _ =>
      ([.platformStart requestId event.time], none)
    -- A record without metrics falls through to the arm that only logs it.
    | .platformRuntimeDone requestId status errorType (some metrics) =>
      ([.platformRuntimeDone requestId metrics status errorType
        (DateTime.timestamp event.time)], some event)
    | .platformReport requestId status errorType metrics spans =>
      ([.platformReport requestId metrics (DateTime.timestamp event.time) status
        errorType spans], some event)
    | _ => ([], none)

/-- The condition that leaves the loop `'flush_end`. -/
def leavesFlushEnd (event : Event) : Bool :=
  match (handleEventBusEvent event).2 with
  | some returned => returned.record.isRuntimeDone
  | none => false

/-- The loop `'flush_end`: what it does, and the wake-ups left once it is over. -/
def waitFlushEnd : List Wake -> List LoopAction × Option (List Wake)
  | [] => ([], none)
  | .tick :: rest =>
    let (actions, remaining) := waitFlushEnd rest
    (.flushBlocking :: .resetFlushInterval :: actions, remaining)
  | .event event :: rest =>
    let commands := (handleEventBusEvent event).1.map .command
    if leavesFlushEnd event then (commands, some rest)
    else
      let (actions, remaining) := waitFlushEnd rest
      (commands ++ actions, remaining)

/-- The branch `FlushDecision::End` up to the call of `/next`. -/
def flushEnd (wakes : List Wake) : List LoopAction × Option (List Wake) :=
  match waitFlushEnd wakes with
  | (actions, none) => (actions, none)
  | (actions, some rest) =>
    (actions ++ [.flushBlocking, .resetFlushInterval, .nextEvent],
      some rest)

/-! ## Where the wait ends -/

/-- The loop is left by a record of the end of the runtime that has metrics, and
by nothing else. -/
theorem leavesFlushEnd_iff (event : Event) :
    leavesFlushEnd event = true <->
      Exists fun telemetry => event = .telemetry telemetry ∧
        Exists fun requestId => Exists fun status => Exists fun errorType => Exists fun metrics =>
            telemetry.record = .platformRuntimeDone requestId status errorType (some metrics) := by
  constructor
  · intro leaves
    cases event with
    | outOfMemory | tombstone => cases leaves
    | telemetry telemetry =>
      refine ⟨telemetry, rfl, ?_⟩
      rcases telemetry with ⟨time, record⟩
      cases record with
      | platformRuntimeDone requestId status errorType metrics =>
        cases metrics with
        | none => cases leaves
        | some metrics => exact ⟨requestId, status, errorType, metrics, rfl⟩
      | platformRestoreReport _ _ metrics => cases metrics <;> cases leaves
      | _ => cases leaves
  · rintro ⟨telemetry, rfl, requestId, status, errorType, metrics, record⟩
    rcases telemetry with ⟨time, _⟩
    subst record
    rfl

theorem leavesFlushEnd_isRuntimeDone {event : Event} (leaves : leavesFlushEnd event = true) :
    (Wake.event event).isRuntimeDone = true := by
  rcases (leavesFlushEnd_iff event).mp leaves with
    ⟨telemetry, rfl, requestId, status, errorType, metrics, record⟩
  change telemetry.record.isRuntimeDone = true
  rw [record]
  rfl

/-- Wake-ups that do not leave the loop are handled and forgotten. -/
theorem waitFlushEnd_append {before : List Wake}
    (none_leaves : forall event, .event event ∈ before -> leavesFlushEnd event = false)
    (rest : List Wake) :
    waitFlushEnd (before ++ rest) =
      ((waitFlushEnd before).1 ++ (waitFlushEnd rest).1, (waitFlushEnd rest).2) := by
  induction before with
  | nil => rfl
  | cons wake _ ih =>
    have tail := ih (fun event member => none_leaves event (List.mem_cons_of_mem wake member))
    cases wake with
    | tick => simp only [List.cons_append, waitFlushEnd, tail]
    | event event =>
      have stays := none_leaves event List.mem_cons_self
      simp only [List.cons_append, waitFlushEnd, stays, Bool.false_eq_true, if_false, tail,
        List.append_assoc]

/-- The wait always uses up the wake-up that ends it. -/
theorem waitFlushEnd_shorter {wakes rest : List Wake}
    (ends : (waitFlushEnd wakes).2 = some rest) : rest.length < wakes.length := by
  induction wakes with
  | nil => cases ends
  | cons wake _ ih =>
    rw [List.length_cons]
    cases wake with
    | tick =>
      have shorter := ih ends
      omega
    | event event =>
      cases leaves : leavesFlushEnd event with
      | true =>
        simp only [waitFlushEnd, leaves, if_true, Option.some.injEq] at ends
        rw [ends]
        exact Nat.lt_succ_self _
      | false =>
        simp only [waitFlushEnd, leaves] at ends
        have shorter := ih ends
        omega

theorem flushEnd_remaining (wakes : List Wake) :
    (flushEnd wakes).2 = (waitFlushEnd wakes).2 := by
  unfold flushEnd
  rcases waitFlushEnd wakes with ⟨actions, remaining⟩
  cases remaining <;> rfl

theorem flushEnd_tick (wakes : List Wake) :
    flushEnd (.tick :: wakes) =
      ([.flushBlocking, .resetFlushInterval] ++ (flushEnd wakes).1,
        (flushEnd wakes).2) := by
  simp only [flushEnd, waitFlushEnd]
  rcases waitFlushEnd wakes with ⟨actions, remaining⟩
  cases remaining <;> rfl

theorem flushEnd_leaves {event : Event} (leaves : leavesFlushEnd event = true)
    (wakes : List Wake) :
    flushEnd (.event event :: wakes) =
      ((handleEventBusEvent event).1.map .command ++
        [.flushBlocking, .resetFlushInterval, .nextEvent],
        some wakes) := by
  simp only [flushEnd, waitFlushEnd, leaves, if_true]

theorem flushEnd_stays {event : Event} (stays : leavesFlushEnd event = false)
    (wakes : List Wake) :
    flushEnd (.event event :: wakes) =
      ((handleEventBusEvent event).1.map .command ++ (flushEnd wakes).1,
        (flushEnd wakes).2) := by
  simp only [flushEnd, waitFlushEnd, stays]
  rcases waitFlushEnd wakes with ⟨actions, remaining⟩
  cases remaining with
  | none => rfl
  | some => exact Prod.ext (List.append_assoc _ _ _) rfl

/-- At the first record of the end of the runtime, the loop goes on to flush and
to ask for the next invocation exactly if the record carries metrics. -/
theorem flushEnd_at_first_runtimeDone (before after : List Wake) (time : DateTime)
    (requestId : String) (status : Status) (errorType : Option String)
    (metrics : Option RuntimeDoneMetrics)
    (first : forall wake, wake ∈ before -> wake.isRuntimeDone = false) :
    let done := .telemetry
      ⟨time, .platformRuntimeDone requestId status errorType metrics⟩
    flushEnd (before ++ .event done :: after) =
        ((waitFlushEnd before).1 ++ (handleEventBusEvent done).1.map .command ++
          [.flushBlocking, .resetFlushInterval, .nextEvent],
          some after) <->
      metrics.isSome = true := by
  intro done
  have stays : forall event, .event event ∈ before -> leavesFlushEnd event = false := by
    intro event member
    cases leaves : leavesFlushEnd event with
    | false => rfl
    | true =>
      have isDone := leavesFlushEnd_isRuntimeDone leaves
      rw [first _ member] at isDone
      cases isDone
  have split := waitFlushEnd_append stays (.event done :: after)
  cases metrics with
  | some =>
    refine ⟨fun _ => rfl, fun _ => ?_⟩
    have wait : waitFlushEnd (.event done :: after) =
        ((handleEventBusEvent done).1.map .command, some after) := rfl
    rw [wait] at split
    unfold flushEnd
    rw [split]
  | none =>
    refine ⟨fun ended => ?_, fun impossible => Bool.noConfusion impossible⟩
    have swallowed : (waitFlushEnd (.event done :: after)).2 = (waitFlushEnd after).2 := rfl
    have ends : (waitFlushEnd after).2 = some after := by
      have remaining := flushEnd_remaining (before ++ .event done :: after)
      rw [ended, split] at remaining
      exact remaining.symm
    exact absurd (waitFlushEnd_shorter ends) (Nat.lt_irrefl _)

/-- A tick and the start of the invocation come first, the record has metrics. -/
theorem flushEnd_at_first_runtimeDone_with_metrics :
    (flushEnd [.tick,
      .event (.telemetry ⟨1, .platformStart "r1" none⟩),
      .event (.telemetry
        ⟨2, .platformRuntimeDone "r1" .success none (some ⟨5, none⟩)⟩),
      .tick]).2 = some [.tick] := by
  have ends := (flushEnd_at_first_runtimeDone
    [.tick, .event (.telemetry ⟨1, .platformStart "r1" none⟩)]
    [.tick] 2 "r1" .success none (some ⟨5, none⟩) (by
      intro wake member
      simp only [List.mem_cons, List.not_mem_nil, or_false] at member
      rcases member with rfl | rfl <;> rfl)).mpr rfl
  exact congrArg Prod.snd ends

/-- Without metrics the first record of the end of the runtime is passed over,
and the loop goes on waiting. -/
theorem flushEnd_passes_over_runtimeDone :
    ¬ forall (before after : List Wake) (done : Wake),
      (forall wake, wake ∈ before -> wake.isRuntimeDone = false) -> done.isRuntimeDone = true ->
        (flushEnd (before ++ done :: after)).2 = some after := by
  intro always
  have ended := always [] [] (.event (.telemetry
    ⟨0, .platformRuntimeDone "r1" .success none none⟩))
    (fun wake member => absurd member List.not_mem_nil) rfl
  cases ended

end Extension
end Bottlecap
