import Bottlecap.Extension.EventLoop
import Bottlecap.Extension.FlushControl
import Bottlecap.Foundations.Machine

namespace Bottlecap
namespace Extension

open Foundations Lifecycle

/-!
# The On-Demand main loop, from one invocation to the next

`extension_loop_active` of `bin/bottlecap/main.rs` in On-Demand mode.  Each iteration
begins when `/next` has returned, takes a flush decision, and ends when `/next` returns
again.  Under `FlushDecision::End` it waits for the end of a runtime, flushes and only
then calls `/next`.  Otherwise it calls `/next` at once and handles the events of the
bus until that returns.  The end of a runtime may therefore be handled when the next
invocation has already begun.

Any `platform.runtimeDone` with metrics ends a wait under `FlushDecision::End`: its
request id is not looked at.  The sequence of a shutdown is not part of this module.
-/

/-- What `/next` returns.  An error is treated as a shutdown. -/
inductive NextEventResponse where
  | invoke (requestId : String)
  | shutdown
  | failed

/-- `handle_next_invocation`: what it tells the processor, and whether the loop is to
end. -/
def handleNextInvocation : NextEventResponse -> List Command × Bool
  | .invoke requestId => ([.invokeEvent requestId], false)
  | .shutdown => ([.onShutdownEvent], true)
  | .failed => ([], true)

inductive MainAction where
  | loop (action : LoopAction)
  | spawnNonBlocking

/-- Where the loop stands: before the first iteration, in the wait for the end of a
runtime, in the call of `/next` after that flush, in the call of `/next` during which
events are handled, or past all iterations. -/
inductive LoopPhase where
  | starting
  | flushEnd
  | calledNext
  | nextInvocation
  | shutdown
  deriving DecidableEq

structure MainLoop where
  control : FlushControl
  phase : LoopPhase
  actions : List MainAction

/-- What the loop is woken with.  A response comes with the clock and the pending
handles that the iteration it begins will see. -/
inductive LoopInput where
  | next (response : NextEventResponse) (now : UInt64) (hasPendingHandles : Bool)
  | wake (wake : Wake)

namespace MainLoop

def start (control : FlushControl) : MainLoop where
  control := control
  phase := .starting
  actions := []

def act (actions : List LoopAction) (loop : MainLoop) : MainLoop :=
  { loop with actions := loop.actions ++ actions.map .loop }

def enter (phase : LoopPhase) (loop : MainLoop) : MainLoop :=
  { loop with phase := phase }

def spawnNonBlocking (loop : MainLoop) : MainLoop :=
  { loop with actions := loop.actions ++ [.spawnNonBlocking] }

/-- What is done at the top of an iteration, before the wait it goes on to. -/
def follow (hasPendingHandles : Bool) (decision : FlushDecision) (loop : MainLoop) : MainLoop :=
  match decision with
  | .atEnd => loop.enter .flushEnd
  | .continuous =>
    let spawned :=
      if hasPendingHandles then loop
      else loop.spawnNonBlocking.act [.resetFlushInterval]
    (spawned.act [.nextEvent]).enter .nextInvocation
  | .periodic =>
    (loop.act [.flushBlocking, .resetFlushInterval,
      .nextEvent]).enter .nextInvocation
  | .dont =>
    (loop.act [.nextEvent]).enter .nextInvocation

def iterate (now : UInt64) (hasPendingHandles : Bool) (loop : MainLoop) : MainLoop :=
  let (decision, control) := loop.control.evaluateFlushDecision now
  { loop with control := control }.follow hasPendingHandles decision

def receive (response : NextEventResponse) (loop : MainLoop) : MainLoop :=
  loop.act ((handleNextInvocation response).1.map .command)

def handleEvent (event : Event) (loop : MainLoop) : MainLoop :=
  loop.act ((handleEventBusEvent event).1.map .command)

/-- `race_flush_interval.tick()` while the loop waits for `/next`. -/
def tickNext (loop : MainLoop) : MainLoop :=
  match loop.control.flushStrategy with
  | .default => loop.act [.flushBlocking, .resetFlushInterval]
  | _ => loop

/-- What the loop does when it is woken.  What it does not wait for does not wake it. -/
def step (loop : MainLoop) : LoopInput -> MainLoop
  | .next response now hasPendingHandles =>
    match loop.phase with
    -- The first response is not looked at for a shutdown.
    | .starting => (loop.receive response).iterate now hasPendingHandles
    | .calledNext | .nextInvocation =>
      if (handleNextInvocation response).2 then
        (loop.receive response).enter .shutdown
      else (loop.receive response).iterate now hasPendingHandles
    | .flushEnd | .shutdown => loop
  | .wake (.event event) =>
    match loop.phase with
    | .flushEnd =>
      if leavesFlushEnd event then
        ((loop.handleEvent event).act [.flushBlocking,
          .resetFlushInterval, .nextEvent]).enter .calledNext
      else loop.handleEvent event
    | .nextInvocation => loop.handleEvent event
    | .starting | .calledNext | .shutdown => loop
  | .wake .tick =>
    match loop.phase with
    | .flushEnd => loop.act [.flushBlocking, .resetFlushInterval]
    | .nextInvocation => loop.tickNext
    | .starting | .calledNext | .shutdown => loop

/-! ## The wait for the end of a runtime -/

section Wait

variable {loop : MainLoop}

theorem step_leaves (waiting : loop.phase = .flushEnd) {event : Event}
    (leaves : leavesFlushEnd event = true) :
    loop.step (.wake (.event event)) =
      ((loop.handleEvent event).act [.flushBlocking, .resetFlushInterval,
        .nextEvent]).enter .calledNext := by
  simp only [step, waiting, leaves, if_true]

theorem step_stays (waiting : loop.phase = .flushEnd) {event : Event}
    (stays : leavesFlushEnd event = false) :
    loop.step (.wake (.event event)) = loop.handleEvent event := by
  simp only [step, waiting, stays, Bool.false_eq_true, if_false]

theorem step_tick (waiting : loop.phase = .flushEnd) :
    loop.step (.wake .tick) =
      loop.act [.flushBlocking, .resetFlushInterval] := by
  simp only [step, waiting]

/-- Once `/next` is called after a flush, only its return wakes the loop. -/
theorem run_calledNext (called : loop.phase = .calledNext) (wakes : List Wake) :
    (wakes.map .wake).foldl step loop = loop := by
  induction wakes with
  | nil => rfl
  | cons wake _ ih =>
    have ignored : loop.step (.wake wake) = loop := by
      cases wake <;> simp only [step, called]
    rw [List.map_cons, List.foldl_cons, ignored, ih]

theorem act_act (first second : List LoopAction) :
    (loop.act first).act second = loop.act (first ++ second) := by
  unfold act
  rw [List.map_append, List.append_assoc]

/-- In the wait the loop does what `flushEnd` does, and it has called `/next` exactly
if that has come to an end. -/
theorem run_flushEnd (waiting : loop.phase = .flushEnd) (wakes : List Wake) :
    (wakes.map .wake).foldl step loop =
      (loop.act (flushEnd wakes).1).enter
        (if (flushEnd wakes).2.isSome then .calledNext else .flushEnd) := by
  induction wakes generalizing loop with
  | nil =>
    rcases loop with ⟨control, phase, actions⟩
    cases waiting
    change MainLoop.mk control _ actions = MainLoop.mk control _ (actions ++ [])
    rw [List.append_nil]
    rfl
  | cons wake rest ih =>
    rw [List.map_cons, List.foldl_cons]
    cases wake with
    | tick =>
      have flushed : flushEnd (.tick :: rest) =
          ([.flushBlocking, .resetFlushInterval] ++ (flushEnd rest).1,
            (flushEnd rest).2) := flushEnd_tick rest
      rw [step_tick waiting, ih (by exact waiting), act_act, flushed]
    | event event =>
      cases leaves : leavesFlushEnd event with
      | true =>
        rw [step_leaves waiting leaves, run_calledNext rfl, flushEnd_leaves leaves]
        rw [handleEvent]
        rw [act_act]
        rfl
      | false =>
        rw [step_stays waiting leaves, ih (by exact waiting), flushEnd_stays leaves]
        rw [handleEvent]
        rw [act_act]

/-- A tick and the start of an invocation, and then the end of its runtime. -/
theorem run_flushEnd_runtimeDone :
    let waiting := MainLoop.mk (FlushControl.new 0 .atEnd 60) .flushEnd []
    let wakes := [.tick,
      .event (.telemetry ⟨1, .platformStart "r1" none⟩),
      .event (.telemetry
        ⟨2, .platformRuntimeDone "r1" .success none (some ⟨100, none⟩)⟩)]
    (flushEnd wakes).2.isSome = true ∧
      (wakes.map .wake).foldl step waiting =
        (waiting.act (flushEnd wakes).1).enter .calledNext := by
  intro waiting wakes
  have ended : (flushEnd wakes).2.isSome = true := rfl
  refine ⟨ended, ?_⟩
  rw [run_flushEnd rfl wakes, if_pos ended]

end Wait

end MainLoop

/-! ## What the actions say of the invocations -/

/-- What the processor has been told: the invocation that `/next` returned last, the
ends of runtimes handled since, and the invocations whose end has not been handled. -/
structure Progress where
  current : Option String
  done : List String
  pending : List String

namespace Progress

def initial : Progress where
  current := none
  done := []
  pending := []

def invoke (requestId : String) (progress : Progress) : Progress where
  current := some requestId
  done := []
  pending := progress.pending ++ [requestId]

def finish (progress : Progress) (requestId : String) : Progress :=
  { progress with
    done := progress.done ++ [requestId]
    pending := progress.pending.erase requestId }

def after (progress : Progress) : MainAction -> Progress
  | .loop (.command (.invokeEvent requestId)) =>
    progress.invoke requestId
  | .loop (.command (.platformRuntimeDone requestId _ _ _ _)) =>
    progress.finish requestId
  | _ => progress

end Progress

def runtimeDoneId : Command -> Option String
  | .platformRuntimeDone requestId _ _ _ _ => some requestId
  | _ => none

/-- The ends of runtimes that an event reports to the processor. -/
def runtimeDoneIds (event : Event) : List String :=
  (handleEventBusEvent event).1.filterMap runtimeDoneId

theorem runtimeDoneIds_of_leaves {event : Event} (leaves : leavesFlushEnd event = true) :
    Exists fun requestId => runtimeDoneIds event = [requestId] := by
  rcases (leavesFlushEnd_iff event).mp leaves with
    ⟨⟨time, record⟩, rfl, requestId, status, errorType, metrics, carried⟩
  cases carried
  exact ⟨requestId, rfl⟩

/-- Only a record that ends the wait reports the end of a runtime. -/
theorem runtimeDoneIds_of_stays {event : Event} (stays : leavesFlushEnd event = false) :
    runtimeDoneIds event = [] := by
  cases event with
  | outOfMemory => rfl
  | tombstone => rfl
  | telemetry telemetry =>
    rcases telemetry with ⟨time, record⟩
    cases record with
    | platformRuntimeDone _ _ _ metrics =>
      cases metrics with
      | none => rfl
      | some => cases stays
    | platformRestoreReport _ _ metrics => cases metrics <;> rfl
    | _ => rfl

namespace MainLoop

def progress (loop : MainLoop) : Progress :=
  loop.actions.foldl Progress.after Progress.initial

section Progress

variable (loop : MainLoop)

theorem progress_act (actions : List LoopAction) :
    (loop.act actions).progress =
      (actions.map .loop).foldl Progress.after loop.progress :=
  List.foldl_append

theorem progress_handleEvent (event : Event) :
    (loop.handleEvent event).progress =
      (runtimeDoneIds event).foldl Progress.finish loop.progress := by
  rw [handleEvent]
  rw [progress_act]
  cases event with
  | outOfMemory => rfl
  | tombstone => rfl
  | telemetry telemetry =>
    rcases telemetry with ⟨time, record⟩
    cases record with
    | platformRuntimeDone _ _ _ metrics => cases metrics <;> rfl
    | platformRestoreReport _ _ metrics => cases metrics <;> rfl
    | _ => rfl

theorem progress_invoke (requestId : String) :
    (loop.receive (.invoke requestId)).progress =
      loop.progress.invoke requestId :=
  progress_act loop _

/-- Only an invocation counts among the responses. -/
theorem progress_receive {response : NextEventResponse}
    (ends : (handleNextInvocation response).2 = true) :
    (loop.receive response).progress = loop.progress := by
  cases response with
  | invoke => cases ends
  | shutdown | failed => exact progress_act loop _

theorem progress_follow (hasPendingHandles : Bool) (decision : FlushDecision) :
    (loop.follow hasPendingHandles decision).progress = loop.progress := by
  cases decision with
  | atEnd => rfl
  | periodic | dont => exact progress_act loop _
  | continuous =>
    cases hasPendingHandles with
    | true => exact progress_act loop _
    | false =>
      calc
        _ = (loop.spawnNonBlocking.act [.resetFlushInterval]).progress :=
          progress_act _ [.nextEvent]
        _ = loop.spawnNonBlocking.progress := progress_act _ _
        _ = loop.progress := List.foldl_append

theorem phase_follow (hasPendingHandles : Bool) (decision : FlushDecision) :
    (loop.follow hasPendingHandles decision).phase =
      if decision = .atEnd then .flushEnd else .nextInvocation := by
  cases decision <;> rfl

theorem progress_iterate (now : UInt64) (hasPendingHandles : Bool) :
    (loop.iterate now hasPendingHandles).progress = loop.progress :=
  progress_follow _ _ _

theorem phase_iterate (now : UInt64) (hasPendingHandles : Bool) :
    (loop.iterate now hasPendingHandles).phase =
      if (loop.control.evaluateFlushDecision now).1 = .atEnd then .flushEnd
      else .nextInvocation :=
  phase_follow _ _ _

theorem progress_tickNext : loop.tickNext.progress = loop.progress := by
  rw [tickNext]
  split
  · exact progress_act loop _
  · rfl

theorem phase_tickNext : loop.tickNext.phase = loop.phase := by
  rw [tickNext]
  split <;> rfl

/-- A tick flushes at most. -/
theorem step_tick_keeps :
    (loop.step (.wake .tick)).phase = loop.phase ∧
      (loop.step (.wake .tick)).progress = loop.progress := by
  cases phase : loop.phase with
  | flushEnd =>
    rw [step_tick phase]
    exact ⟨phase, progress_act loop _⟩
  | nextInvocation =>
    simp only [step, phase]
    exact ⟨loop.phase_tickNext.trans phase, loop.progress_tickNext⟩
  | _ =>
    simp only [step, phase]
    exact ⟨trivial, trivial⟩

end Progress

/-! ## Whose end the flush comes after -/

/-- When a wait is over and the loop flushes before it calls `/next`, the end of the
runtime of the invocation it was for has been handled. -/
def FlushesAfterOwn (loop : MainLoop) (input : LoopInput) : Prop :=
  loop.phase = .flushEnd -> (loop.step input).phase = .calledNext ->
    forall requestId, loop.progress.current = some requestId ->
      requestId ∈ (loop.step input).progress.done

/-- No end of the runtime of another invocation is handled in a wait. -/
def NoneLate (loop : MainLoop) : LoopInput -> Prop
  | .wake (.event event) =>
    loop.phase = .flushEnd ->
      forall done, done ∈ runtimeDoneIds event ->
        forall requestId, loop.progress.current = some requestId -> done = requestId
  | _ => True

/-- Every end of a runtime is that of an invocation returned by `/next` earlier, whose
end has not been handled. -/
def Reported (loop : MainLoop) : LoopInput -> Prop
  | .wake (.event event) =>
    forall done, done ∈ runtimeDoneIds event -> done ∈ loop.progress.pending
  | _ => True

/-- In a wait, nothing has been handled since the invocation began that would have
ended it. -/
def Unended (loop : MainLoop) : Prop :=
  loop.phase = .starting ∨ loop.phase = .flushEnd -> loop.progress.done = []

variable {loop : MainLoop}

theorem unended_next (unended : loop.Unended) (response : NextEventResponse) (now : UInt64)
    (hasPendingHandles : Bool) :
    (loop.step (.next response now hasPendingHandles)).Unended := by
  have begun : forall requestId : String,
      ((loop.receive (.invoke requestId)).iterate now
        hasPendingHandles).Unended := by
    intro requestId _
    rw [progress_iterate, progress_invoke]
    rfl
  cases phase : loop.phase with
  | starting =>
    simp only [step, phase]
    cases response with
    | invoke requestId => exact begun requestId
    | shutdown | failed =>
      intro _
      rw [progress_iterate, progress_receive _ rfl]
      exact unended (Or.inl phase)
  | calledNext | nextInvocation =>
    simp only [step, phase]
    cases response with
    | invoke requestId => exact begun requestId
    | shutdown | failed =>
      rintro (impossible | impossible) <;> cases impossible
  | flushEnd | shutdown =>
    simp only [step, phase]
    exact unended

/-- An event in a wait either ends it or reports no end. -/
theorem unended_event (unended : loop.Unended) (event : Event) :
    (loop.step (.wake (.event event))).Unended := by
  cases phase : loop.phase with
  | flushEnd =>
    cases leaves : leavesFlushEnd event with
    | true =>
      rw [step_leaves phase leaves]
      rintro (impossible | impossible) <;> cases impossible
    | false =>
      rw [step_stays phase leaves]
      intro _
      rw [progress_handleEvent, runtimeDoneIds_of_stays leaves]
      exact unended (Or.inr phase)
  | nextInvocation =>
    simp only [step, phase]
    rintro (impossible | impossible) <;> cases phase.symm.trans impossible
  | starting | calledNext | shutdown =>
    simp only [step, phase]
    exact unended

theorem unended_step (loop : MainLoop) (input : LoopInput) (unended : loop.Unended) :
    (loop.step input).Unended := by
  cases input with
  | next response now hasPendingHandles =>
    exact unended_next unended response now hasPendingHandles
  | wake wake =>
    cases wake with
    | event event => exact unended_event unended event
    | tick =>
      rcases loop.step_tick_keeps with ⟨phase, progress⟩
      rw [Unended, phase, progress]
      exact unended

/-- A wait is ended by one record, so it is the one of the own invocation exactly if
it is of no other. -/
theorem flushesAfterOwn_iff_noneLate (input : LoopInput) (unended : loop.Unended) :
    loop.FlushesAfterOwn input <-> loop.NoneLate input := by
  cases input with
  | next =>
    refine ⟨fun _ => trivial, fun _ waiting called => ?_⟩
    simp only [step, waiting] at called
    cases called
  | wake wake =>
    cases wake with
    | tick =>
      refine ⟨fun _ => trivial, fun _ waiting called => ?_⟩
      cases waiting.symm.trans (loop.step_tick_keeps.1.symm.trans called)
    | event event =>
      refine forall_congr' (fun waiting => ?_)
      cases leaves : leavesFlushEnd event with
      | true =>
        rcases runtimeDoneIds_of_leaves leaves with ⟨done, reported⟩
        have handled : (loop.step (.wake (.event event))).progress.done =
            [done] := by
          rw [step_leaves waiting leaves]
          refine (congrArg Progress.done (progress_act (loop.handleEvent event) _)).trans ?_
          rw [progress_handleEvent, reported]
          change loop.progress.done ++ [done] = [done]
          rw [unended (Or.inr waiting), List.nil_append]
        have called : (loop.step (.wake (.event event))).phase = .calledNext := by
          rw [step_leaves waiting leaves]
          rfl
        rw [handled, reported]
        simp only [called, true_imp_iff, List.mem_singleton, forall_eq]
        exact forall_congr' (fun requestId => imp_congr_right (fun _ => eq_comm))
      | false =>
        rw [step_stays waiting leaves, runtimeDoneIds_of_stays leaves]
        refine ⟨fun _ done member => absurd member List.not_mem_nil, fun _ called => ?_⟩
        cases waiting.symm.trans called

theorem along_own_iff (unended : loop.Unended) (inputs : List LoopInput) :
    Machine.Along step FlushesAfterOwn loop inputs <-> Machine.Along step NoneLate loop inputs :=
  Machine.along_iff_along unended_step
    (fun _ input unended => flushesAfterOwn_iff_noneLate input unended) unended inputs

/-- Throughout every run, each flush under `FlushDecision::End` comes after the end of
the runtime of its own invocation, exactly if no end of another invocation's runtime is
handled in a wait. -/
theorem flushes_after_own_iff (control : FlushControl) (inputs : List LoopInput) :
    Machine.Along step FlushesAfterOwn (start control) inputs <->
      Machine.Along step NoneLate (start control) inputs := by
  have initial : (start control).Unended := fun _ => rfl
  exact along_own_iff initial inputs

def runtimeDone (time : DateTime) (requestId : String) : LoopInput :=
  .wake (.event (.telemetry
    ⟨time, .platformRuntimeDone requestId .success none (some ⟨5, none⟩)⟩))

/-- The first of two invocations is not flushed for, and the second is.  The end of
the first is handled when the second has begun, and the loop flushes and calls `/next`
while the second is still running. -/
theorem late_end_flushes :
    ¬ forall (control : FlushControl) (inputs : List LoopInput),
      Machine.Along step Reported (start control) inputs ->
        Machine.Along step FlushesAfterOwn (start control) inputs := by
  intro always
  let control := FlushControl.new 0 (.endPeriodically ⟨1000⟩) 60
  let second := [.next (.invoke "r1") 0 false,
    .next (.invoke "r2") 2 false].foldl step (start control)
  have pending : "r1" ∈ second.progress.pending := by decide +kernel
  have reported : Machine.Along step Reported (start control)
      [.next (.invoke "r1") 0 false,
        .next (.invoke "r2") 2 false, runtimeDone 3 "r1"] := by
    refine ⟨trivial, trivial, ?_, trivial⟩
    intro done member
    cases List.mem_singleton.mp member
    exact pending
  have waiting : second.phase = .flushEnd := by decide +kernel
  have called : (second.step (runtimeDone 3 "r1")).phase = .calledNext := by
    decide +kernel
  have current : second.progress.current = some "r2" := by decide +kernel
  have running : "r2" ∉ (second.step (runtimeDone 3 "r1")).progress.done := by decide +kernel
  exact running ((always control _ reported).2.2.1 waiting called "r2" current)

/-! ## A loop that flushes at the end of every invocation -/

/-- Between invocations no end is outstanding, and in a wait only the current one. -/
structure InStep (loop : MainLoop) : Prop where
  strategy : loop.control.flushStrategy = .atEnd
  never : loop.phase ≠ .nextInvocation
  starting : loop.phase = .starting -> loop.progress = Progress.initial
  waiting : loop.phase = .flushEnd ->
    loop.progress.pending = loop.progress.current.toList
  called : loop.phase = .calledNext -> loop.progress.pending = []

theorem control_iterate (loop : MainLoop) (now : UInt64) (hasPendingHandles : Bool) :
    (loop.iterate now hasPendingHandles).control = (loop.control.evaluateFlushDecision now).2 := by
  have followed : forall (current : MainLoop) (decision : FlushDecision),
      (current.follow hasPendingHandles decision).control = current.control := by
    intro current decision
    cases decision with
    | continuous => cases hasPendingHandles <;> rfl
    | _ => rfl
  exact followed _ _

/-- Every iteration waits. -/
theorem inStep_iterate (strategy : loop.control.flushStrategy = .atEnd)
    (current : loop.progress.pending = loop.progress.current.toList) (now : UInt64)
    (hasPendingHandles : Bool) : (loop.iterate now hasPendingHandles).InStep := by
  have phase : (loop.iterate now hasPendingHandles).phase = .flushEnd := by
    rw [phase_iterate, FlushControl.evaluate_atEnd strategy, if_pos rfl]
  constructor
  case strategy => rw [control_iterate, FlushControl.flushStrategy_evaluate, strategy]
  case never => rw [phase]; exact nofun
  case starting => rw [phase]; exact nofun
  case waiting => intro _; rw [progress_iterate, current]
  case called => rw [phase]; exact nofun

theorem inStep_invoke (strategy : loop.control.flushStrategy = .atEnd)
    (settled : loop.progress.pending = []) (requestId : String) (now : UInt64)
    (hasPendingHandles : Bool) :
    ((loop.receive (.invoke requestId)).iterate now hasPendingHandles).InStep := by
  refine inStep_iterate (by exact strategy) ?_ now hasPendingHandles
  rw [progress_invoke]
  change loop.progress.pending ++ [requestId] = [requestId]
  rw [settled, List.nil_append]

/-- Handling what changes neither the phase nor the progress. -/
theorem InStep.transfer {later : MainLoop} (inStep : loop.InStep)
    (control : later.control = loop.control) (phase : later.phase = loop.phase)
    (progress : later.progress = loop.progress) : later.InStep := by
  constructor
  case strategy => rw [control, inStep.strategy]
  case never => rw [phase]; exact inStep.never
  case starting => rw [phase, progress]; exact inStep.starting
  case waiting => rw [phase, progress]; exact inStep.waiting
  case called => rw [phase, progress]; exact inStep.called

/-- The loop is in step after the last iteration, whatever it did. -/
theorem inStep_shutdown (strategy : loop.control.flushStrategy = .atEnd) :
    (loop.enter .shutdown).InStep :=
  ⟨strategy, nofun, nofun, nofun, nofun⟩

theorem inStep_event (inStep : loop.InStep) {event : Event}
    (reported : loop.Reported (.wake (.event event))) :
    (loop.step (.wake (.event event))).InStep := by
  cases phase : loop.phase with
  | nextInvocation => exact absurd phase inStep.never
  | starting | calledNext | shutdown =>
    simp only [step, phase]
    exact inStep
  | flushEnd =>
    cases leaves : leavesFlushEnd event with
    | false =>
      have progress : (loop.handleEvent event).progress = loop.progress := by
        rw [progress_handleEvent, runtimeDoneIds_of_stays leaves]
        rfl
      rw [step_stays phase leaves]
      exact inStep.transfer rfl rfl progress
    | true =>
      rcases runtimeDoneIds_of_leaves leaves with ⟨done, ids⟩
      rw [step_leaves phase leaves]
      refine ⟨inStep.strategy, nofun, nofun, nofun, fun _ => ?_⟩
      -- What ends the wait is pending, and only the current invocation is.
      have pending : done ∈ loop.progress.pending := by
        apply reported done
        rw [ids]
        exact List.mem_cons_self
      refine (congrArg Progress.pending (progress_act (loop.handleEvent event) _)).trans ?_
      rw [progress_handleEvent, ids]
      change loop.progress.pending.erase done = []
      rw [inStep.waiting phase] at pending ⊢
      cases current : loop.progress.current with
      | none =>
        rw [current] at pending
        cases pending
      | some =>
        rw [current] at pending
        cases List.mem_singleton.mp pending
        exact List.erase_cons_head done []

theorem inStep_step (loop : MainLoop) (input : LoopInput) (inStep : loop.InStep)
    (reported : loop.Reported input) : (loop.step input).InStep := by
  cases input with
  | wake wake =>
    cases wake with
    | event => exact inStep_event inStep reported
    | tick =>
      cases phase : loop.phase with
      | nextInvocation => exact absurd phase inStep.never
      | starting | calledNext | shutdown =>
        simp only [step, phase]
        exact inStep
      | flushEnd =>
        have progress := loop.step_tick_keeps.2
        rw [step_tick phase] at progress ⊢
        exact inStep.transfer rfl rfl progress
  | next response now hasPendingHandles =>
    cases phase : loop.phase with
    | nextInvocation => exact absurd phase inStep.never
    | flushEnd | shutdown =>
      simp only [step, phase]
      exact inStep
    | starting =>
      simp only [step, phase]
      have initial := inStep.starting phase
      cases response with
      | invoke =>
        exact inStep_invoke inStep.strategy (congrArg Progress.pending initial) _ _ _
      | shutdown | failed =>
        refine inStep_iterate (by exact inStep.strategy) ?_ now hasPendingHandles
        rw [progress_receive _ rfl, initial]
        rfl
    | calledNext =>
      simp only [step, phase]
      cases response with
      | invoke => exact inStep_invoke inStep.strategy (inStep.called phase) _ _ _
      | shutdown | failed => exact inStep_shutdown inStep.strategy

/-- Only the current invocation can end a wait of a loop that is in step. -/
theorem InStep.noneLate (inStep : loop.InStep) {input : LoopInput}
    (reported : loop.Reported input) :
    loop.NoneLate input := by
  cases input with
  | next => trivial
  | wake wake =>
    cases wake with
    | tick => trivial
    | event =>
      intro waiting done member requestId current
      have pending := reported done member
      rw [inStep.waiting waiting, current] at pending
      exact List.mem_singleton.mp pending

/-- Under the strategy `End` no delay of the telemetry matters: each flush comes after
the end of the runtime of its own invocation. -/
theorem flushesAfterOwn_of_atEnd {control : FlushControl}
    (strategy : control.flushStrategy = .atEnd) {inputs : List LoopInput}
    (reported : Machine.Along step Reported (start control) inputs) :
    Machine.Along step FlushesAfterOwn (start control) inputs := by
  have initial : (start control).InStep := ⟨strategy, nofun, fun _ => rfl, nofun, nofun⟩
  have onTime : Machine.Along step NoneLate (start control) inputs :=
    reported.weaken inStep_step (fun _ _ inStep reported => inStep.noneLate reported) initial
  have unended : (start control).Unended := fun _ => rfl
  exact (along_own_iff unended inputs).mpr onTime

theorem flushesAfterOwn_once :
    Machine.Along step FlushesAfterOwn (start (FlushControl.new 0 .atEnd 60))
      [.next (.invoke "r1") 0 false, runtimeDone 1 "r1"] := by
  refine flushesAfterOwn_of_atEnd rfl ⟨trivial, ?_, trivial⟩
  intro done member
  cases List.mem_singleton.mp member
  decide +kernel

end MainLoop
end Extension
end Bottlecap
