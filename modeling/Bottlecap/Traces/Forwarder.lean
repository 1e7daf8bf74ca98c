import Mathlib.Data.List.Infix
import Mathlib.Logic.Function.Basic
import Bottlecap.Foundations.Machine

namespace Bottlecap
namespace Traces

open Foundations

/-!
# The forwarders and the ingest barrier

`run_forwarder` and `IngestBarrier::wait` of `traces/trace_agent.rs`.  A forwarder
moves payloads from a bounded channel to `on_payload`.  In each iteration its `select`
polls the payload channel first and, if that is empty, the barrier channel, whose
requests it acknowledges.  The two polls are two steps: on a multi-threaded runtime
other tasks send payloads and barrier requests in between.

`wait` asks both forwarders, the one for traces and the one for stats, and returns
`Ok` once both have acknowledged.  A payload is passed to `on_payload` in the step that
receives it.  Dropping a `wait` before it returns is not modelled.
-/

/-- Where the loop of `run_forwarder` stands.  `polled` remembers how many sends had
completed when the payload channel was found empty. -/
inductive Phase (Payload : Type) where
  | select
  | polled (seen : Nat)
  | handling (payload : Payload)
  | parked
  | exited

/-- The progress of `wait_for`. -/
inductive Stage where
  | calling
  | requested
  | acknowledged
  | failed
  deriving DecidableEq

/-- A call of `wait`, with the payloads whose send completed before it began. -/
structure Waiter (Payload : Type) where
  before : List Payload
  stage : Stage

structure Forwarder (Payload : Type) where
  phase : Phase Payload
  sent : List Payload
  rx : List Payload
  closed : Bool
  passed : List Payload
  barrierRx : List Nat
  waiters : Nat -> Option (Waiter Payload)

def payloadChannelBufferSize : Nat := 10

def barrierChannelBufferSize : Nat := 1

namespace Phase

variable {Payload : Type}

def isExited : Phase Payload -> Bool
  | exited => true
  | _ => false

end Phase

namespace Forwarder

variable {Payload : Type}

def new : Forwarder Payload where
  phase := .select
  sent := []
  rx := []
  closed := false
  passed := []
  barrierRx := []
  waiters := fun _ => none

/-- The channel operations and polls.  One that cannot complete changes nothing. -/
inductive Action (Payload : Type) where
  | send (payload : Payload)
  | closeSenders
  | call (wait : Nat)
  | request (wait : Nat)
  | fail (wait : Nat)
  | pollPayload
  | payloadDone (forwarded : Bool)
  | pollBarrier
  | wake

def setStage (wait : Nat) (stage : Stage) (forwarder : Forwarder Payload) : Forwarder Payload :=
  { forwarder with
    waiters := Function.update forwarder.waiters wait
      ((forwarder.waiters wait).map (fun waiter => { waiter with stage := stage })) }

def stageOf (wait : Nat) (forwarder : Forwarder Payload) : Option Stage :=
  (forwarder.waiters wait).map Waiter.stage

def step (forwarder : Forwarder Payload) : Action Payload -> Forwarder Payload
  | .send payload =>
    if forwarder.phase.isExited = false ∧ forwarder.closed = false ∧
        forwarder.rx.length < payloadChannelBufferSize then
      { forwarder with
        sent := forwarder.sent ++ [payload]
        rx := forwarder.rx ++ [payload] }
    else forwarder
  | .closeSenders => { forwarder with closed := true }
  | .call wait =>
    match forwarder.waiters wait with
    | some _ => forwarder
    | none =>
      { forwarder with
        waiters := Function.update forwarder.waiters wait
          (some ⟨forwarder.sent, .calling⟩) }
  | .request wait =>
    if forwarder.stageOf wait = some .calling ∧ forwarder.phase.isExited = false ∧
        forwarder.barrierRx.length < barrierChannelBufferSize then
      { forwarder with barrierRx := forwarder.barrierRx ++ [wait] }.setStage wait .requested
    else forwarder
  | .fail wait =>
    -- A closed barrier channel or a dropped acknowledgement.
    if forwarder.phase.isExited = true ∧ (forwarder.stageOf wait = some .calling ∨
        forwarder.stageOf wait = some .requested) then
      forwarder.setStage wait .failed
    else forwarder
  | .pollPayload =>
    match forwarder.phase with
    | .select =>
      match forwarder.rx with
      | payload :: rest =>
        { forwarder with
          phase := .handling payload
          rx := rest
          passed := forwarder.passed ++ [payload] }
      | [] =>
        if forwarder.closed then { forwarder with phase := .exited }
        else { forwarder with phase := .polled forwarder.sent.length }
    | _ => forwarder
  | .payloadDone forwarded =>
    match forwarder.phase with
    | .handling _ =>
      { forwarder with phase := if forwarded then .select else .exited }
    | _ => forwarder
  | .pollBarrier =>
    match forwarder.phase with
    | .polled _ =>
      match forwarder.barrierRx with
      | wait :: rest =>
        { forwarder with phase := .select, barrierRx := rest }.setStage wait
          .acknowledged
      | [] => { forwarder with phase := .parked }
    | _ => forwarder
  | .wake =>
    match forwarder.phase with
    | .parked => { forwarder with phase := .select }
    | _ => forwarder

/-! ## Consistency -/

/-- Payloads are received in the order of their sends, and a channel found empty has
passed on all of them. -/
structure Consistent (forwarder : Forwarder Payload) : Prop where
  accounted : forwarder.sent = forwarder.passed ++ forwarder.rx
  seen : forall seen, forwarder.phase = .polled seen -> seen = forwarder.passed.length
  begun : forall wait waiter, forwarder.waiters wait = some waiter ->
    waiter.before <+: forwarder.sent

variable {forwarder : Forwarder Payload}

theorem consistent_new : (new : Forwarder Payload).Consistent :=
  ⟨rfl, fun _ => nofun, fun _ _ => nofun⟩

/-- What holds of all waits, and of the one that changes, holds after the change. -/
theorem forall_update {property : Waiter Payload -> Prop}
    {waiters : Nat -> Option (Waiter Payload)}
    (all : forall wait waiter, waiters wait = some waiter -> property waiter) {target : Nat}
    {changed : Option (Waiter Payload)}
    (kept : forall waiter, changed = some waiter -> property waiter) :
    forall wait waiter, Function.update waiters target changed wait = some waiter ->
      property waiter := by
  intro wait waiter found
  by_cases same : wait = target
  · rw [same, Function.update_self] at found
    exact kept waiter found
  · rw [Function.update_of_ne same] at found
    exact all wait waiter found

theorem forall_setStage {property : Waiter Payload -> Prop}
    (all : forall wait waiter, forwarder.waiters wait = some waiter -> property waiter)
    {target : Nat} {stage : Stage} (kept : forall waiter, forwarder.waiters target = some waiter ->
      property { waiter with stage := stage }) :
    forall wait waiter, (forwarder.setStage target stage).waiters wait = some waiter ->
      property waiter := by
  apply forall_update all
  intro waiter changed
  rcases Option.map_eq_some_iff.mp changed with ⟨earlier, known, rfl⟩
  exact kept earlier known

theorem Consistent.setStage (consistent : forwarder.Consistent) (wait : Nat) (stage : Stage) :
    (forwarder.setStage wait stage).Consistent where
  accounted := consistent.accounted
  seen := consistent.seen
  begun := forall_setStage consistent.begun (fun waiter found => consistent.begun wait waiter found)

/-- Leaving the two polls. -/
theorem Consistent.phase (consistent : forwarder.Consistent) {phase : Phase Payload}
    (elsewhere : forall seen, phase ≠ .polled seen) :
    { forwarder with phase := phase }.Consistent :=
  ⟨consistent.accounted, fun seen polled => absurd polled (elsewhere seen), consistent.begun⟩

theorem Consistent.step (consistent : forwarder.Consistent) (action : Action Payload) :
    (forwarder.step action).Consistent := by
  cases action with
  | send =>
    unfold Forwarder.step
    simp only
    split
    · refine ⟨?_, consistent.seen, ?_⟩
      · simp only
        rw [consistent.accounted, List.append_assoc]
      · intro wait waiter found
        exact (consistent.begun wait waiter found).trans (List.prefix_append _ _)
    · exact consistent
  | closeSenders => exact ⟨consistent.accounted, consistent.seen, consistent.begun⟩
  | call =>
    unfold Forwarder.step
    simp only
    split
    · exact consistent
    · refine ⟨consistent.accounted, consistent.seen, forall_update consistent.begun ?_⟩
      rintro _ ⟨⟩
      exact List.prefix_rfl
  | request =>
    unfold Forwarder.step
    simp only
    split
    · apply Consistent.setStage
      exact ⟨consistent.accounted, consistent.seen, consistent.begun⟩
    · exact consistent
  | fail target =>
    unfold Forwarder.step
    simp only
    split
    · exact consistent.setStage target .failed
    · exact consistent
  | pollPayload =>
    unfold Forwarder.step
    cases forwarder.phase with
    | select =>
      cases rx : forwarder.rx with
      | nil =>
        have accounted := consistent.accounted
        rw [rx, List.append_nil] at accounted
        simp only
        split
        · exact rx ▸ consistent.phase (fun _ => nofun)
        · refine ⟨rx ▸ consistent.accounted, ?_, consistent.begun⟩
          intro seen polled
          cases polled
          exact congrArg List.length accounted
      | cons =>
        refine ⟨?_, fun _ => nofun, consistent.begun⟩
        rw [consistent.accounted, rx, List.append_assoc, List.singleton_append]
    | _ => exact consistent
  | payloadDone =>
    unfold Forwarder.step
    simp only
    split
    · apply consistent.phase
      split <;> exact nofun
    · exact consistent
  | pollBarrier =>
    unfold Forwarder.step
    simp only
    split
    · split
      · apply Consistent.setStage
        exact ⟨consistent.accounted, fun _ => nofun, consistent.begun⟩
      · exact consistent.phase (fun _ => nofun)
    · exact consistent
  | wake =>
    unfold Forwarder.step
    simp only
    split
    · exact consistent.phase (fun _ => nofun)
    · exact consistent

/-! ## Acknowledgements -/

/-- Whenever a wait has been acknowledged, all payloads sent before it began have been
passed on. -/
def Covers (forwarder : Forwarder Payload) : Prop :=
  forall wait waiter, forwarder.waiters wait = some waiter -> waiter.stage = .acknowledged ->
    waiter.before <+: forwarder.passed

/-- An acknowledgement comes in time if every payload sent before the wait began had
been sent when the payload channel was found empty. -/
def Timely (forwarder : Forwarder Payload) : Action Payload -> Prop
  | .pollBarrier =>
    match forwarder.phase, forwarder.barrierRx with
    | .polled seen, wait :: _ => forall waiter, forwarder.waiters wait = some waiter ->
        waiter.before.length <= seen
    | _, _ => True
  | _ => True

theorem covers_new : (new : Forwarder Payload).Covers := fun _ _ => nofun

theorem Covers.setStage (covers : forwarder.Covers) (wait : Nat) {stage : Stage}
    (waiting : stage ≠ .acknowledged) :
    (forwarder.setStage wait stage).Covers := by
  apply forall_setStage covers
  intro waiter _ acknowledged
  exact absurd acknowledged waiting

/-- Passing on more payloads keeps what was covered. -/
theorem Covers.of_grown {later : Forwarder Payload} (covers : forwarder.Covers)
    (same : later.waiters = forwarder.waiters) (grown : forwarder.passed <+: later.passed) :
    later.Covers := by
  intro wait waiter found acknowledged
  rw [same] at found
  exact (covers wait waiter found acknowledged).trans grown

theorem covers_acknowledge_iff (covers : forwarder.Covers) (wait : Nat) :
    (forwarder.setStage wait .acknowledged).Covers <->
      forall waiter, forwarder.waiters wait = some waiter ->
        waiter.before <+: forwarder.passed := by
  constructor
  · intro later waiter found
    refine later wait { waiter with stage := .acknowledged } ?_ rfl
    rw [Forwarder.setStage]
    simp only [Function.update_self, found, Option.map_some]
  · intro each
    exact forall_setStage covers (fun waiter found _ => each waiter found)

theorem covers_step_iff (consistent : forwarder.Consistent) (covers : forwarder.Covers)
    (action : Action Payload) :
    (forwarder.step action).Covers <-> forwarder.Timely action := by
  have kept : forall {later : Forwarder Payload}, later.Covers -> (later.Covers <-> True) :=
    fun holds => ⟨fun _ => trivial, fun _ => holds⟩
  have still : forall {later : Forwarder Payload}, later.waiters = forwarder.waiters ->
      later.passed = forwarder.passed -> later.Covers :=
    fun same passed => covers.of_grown same (passed ▸ List.prefix_rfl)
  cases action with
  | send | payloadDone | wake =>
    apply kept
    unfold step
    simp only
    split
    · exact still rfl rfl
    · exact covers
  | closeSenders => exact kept (still rfl rfl)
  | call =>
    apply kept
    unfold step
    simp only
    split
    · exact covers
    · apply forall_update covers
      exact nofun
  | request =>
    apply kept
    unfold step
    simp only
    split
    · apply Covers.setStage
      · exact still rfl rfl
      · exact nofun
    · exact covers
  | fail target =>
    apply kept
    unfold step
    simp only
    split
    · exact covers.setStage target nofun
    · exact covers
  | pollPayload =>
    apply kept
    unfold step
    simp only
    split
    · split
      · exact covers.of_grown rfl (List.prefix_append _ _)
      · split <;> exact still rfl rfl
    · exact covers
  | pollBarrier =>
    cases phase : forwarder.phase with
    | polled seen =>
      cases barriers : forwarder.barrierRx with
      | nil =>
        simp only [step, Timely, phase, barriers]
        exact kept (still rfl rfl)
      | cons wait =>
        simp only [step, Timely, phase, barriers]
        refine (covers_acknowledge_iff (still rfl rfl) wait).trans ?_
        -- Up to the poll, exactly the payloads passed on had been sent.
        rw [consistent.seen seen phase]
        apply forall_congr'
        intro waiter
        apply imp_congr_right
        intro found
        have sent := consistent.begun wait waiter found
        rw [consistent.accounted] at sent
        exact ⟨List.IsPrefix.length_le, fun short =>
          List.prefix_of_prefix_length_le sent (List.prefix_append _ _) short⟩
    | _ =>
      simp only [step, Timely, phase]
      exact kept covers

end Forwarder

/-! ## Both forwarders -/

/-- The forwarders of a trace agent. -/
structure Ingest (Trace Stats : Type) where
  trace : Forwarder Trace
  stats : Forwarder Stats

namespace Ingest

variable {Trace Stats : Type}

def new : Ingest Trace Stats := ⟨Forwarder.new, Forwarder.new⟩

/-- A call of `wait` begins for both forwarders at once. -/
inductive Action (Trace Stats : Type) where
  | wait (wait : Nat)
  | trace (action : Forwarder.Action Trace)
  | stats (action : Forwarder.Action Stats)

def step (ingest : Ingest Trace Stats) : Action Trace Stats -> Ingest Trace Stats
  | .wait wait =>
    ⟨ingest.trace.step (.call wait),
      ingest.stats.step (.call wait)⟩
  | .trace action => { ingest with trace := ingest.trace.step action }
  | .stats action => { ingest with stats := ingest.stats.step action }

def Consistent (ingest : Ingest Trace Stats) : Prop :=
  ingest.trace.Consistent ∧ ingest.stats.Consistent

def Covers (ingest : Ingest Trace Stats) : Prop := ingest.trace.Covers ∧ ingest.stats.Covers

/-- Acknowledgements of both forwarders come in time. -/
def Timely (ingest : Ingest Trace Stats) : Action Trace Stats -> Prop
  | .wait _ => True
  | .trace action => ingest.trace.Timely action
  | .stats action => ingest.stats.Timely action

variable {ingest : Ingest Trace Stats}

theorem Consistent.step (consistent : ingest.Consistent) (action : Action Trace Stats) :
    (ingest.step action).Consistent := by
  cases action with
  | wait wait =>
    exact ⟨consistent.1.step (.call wait),
      consistent.2.step (.call wait)⟩
  | trace action => exact ⟨consistent.1.step action, consistent.2⟩
  | stats action => exact ⟨consistent.1, consistent.2.step action⟩

theorem covers_step_iff (consistent : ingest.Consistent) (covers : ingest.Covers)
    (action : Action Trace Stats) :
    (ingest.step action).Covers <-> ingest.Timely action := by
  cases action with
  | wait wait =>
    exact and_congr
      (Forwarder.covers_step_iff consistent.1 covers.1 (.call wait))
      (Forwarder.covers_step_iff consistent.2 covers.2 (.call wait))
      |>.trans (and_self_iff)
  | trace action =>
    exact (and_iff_left covers.2).trans
      (Forwarder.covers_step_iff consistent.1 covers.1 action)
  | stats action =>
    exact (and_iff_right covers.1).trans
      (Forwarder.covers_step_iff consistent.2 covers.2 action)

/-- Acknowledgements cover the payloads of their waits exactly if they come in time. -/
theorem covers_iff_timely (actions : List (Action Trace Stats)) :
    Machine.Always step Covers (new : Ingest Trace Stats) actions <->
      Machine.Along step Timely (new : Ingest Trace Stats) actions := by
  have stays : forall (ingest : Ingest Trace Stats) action, Consistent ingest ->
      Consistent (ingest.step action) := fun _ action consistent => consistent.step action
  have exactly : forall (ingest : Ingest Trace Stats) action, Consistent ingest -> Covers ingest ->
      (Covers (ingest.step action) <-> Timely ingest action) :=
    fun _ action consistent covers => covers_step_iff consistent covers action
  exact Machine.always_iff_along_of_invariant stays exactly
    ⟨Forwarder.consistent_new, Forwarder.consistent_new⟩
    ⟨Forwarder.covers_new, Forwarder.covers_new⟩ actions

/-- `wait` returns `Ok` once both forwarders have acknowledged. -/
def ReturnsOk (wait : Nat) (ingest : Ingest Trace Stats) : Prop :=
  ingest.trace.stageOf wait = some .acknowledged ∧
    ingest.stats.stageOf wait = some .acknowledged

/-- Every payload whose send completed before the wait began has been passed on. -/
def SentBeforePassed (wait : Nat) (ingest : Ingest Trace Stats) : Prop :=
  (forall waiter, ingest.trace.waiters wait = some waiter ->
      waiter.before <+: ingest.trace.passed) ∧
    forall waiter, ingest.stats.waiters wait = some waiter ->
      waiter.before <+: ingest.stats.passed

/-- The guarantee of the barrier. -/
def Drained (ingest : Ingest Trace Stats) : Prop :=
  forall wait, ingest.ReturnsOk wait -> ingest.SentBeforePassed wait

theorem Covers.drained (covers : ingest.Covers) :
    ingest.Drained := by
  intro wait returns
  rcases Option.map_eq_some_iff.mp returns.1 with ⟨traced, foundTrace, acknowledgedTrace⟩
  rcases Option.map_eq_some_iff.mp returns.2 with ⟨counted, foundStats, acknowledgedStats⟩
  constructor
  · intro waiter found
    rw [foundTrace] at found
    cases found
    exact covers.1 wait traced foundTrace acknowledgedTrace
  · intro waiter found
    rw [foundStats] at found
    cases found
    exact covers.2 wait counted foundStats acknowledgedStats

/-- In every interleaving in which no wait begins after a send that falls between the
two polls of the iteration that acknowledges it, `wait` returns `Ok` only after all
payloads sent before it have been passed on. -/
theorem drained_of_timely (actions : List (Action Trace Stats))
    (timely : Machine.Along step Timely (new : Ingest Trace Stats) actions) :
    Machine.Always step Drained (new : Ingest Trace Stats) actions :=
  Machine.Always.mono (fun _ covers => covers.drained) ((covers_iff_timely actions).mpr timely)

/-- A payload is sent, handled, and then waited for. -/
def handledFirst : List (Action Nat Nat) :=
  [.trace (.send 7), .wait 0,
    .trace (.request 0), .trace .pollPayload,
    .trace (.payloadDone true), .trace .pollPayload,
    .trace .pollBarrier, .stats (.request 0),
    .stats .pollPayload, .stats .pollBarrier]

theorem drained_of_timely_handled :
    (handledFirst.foldl step new).ReturnsOk 0 ∧ Machine.Always step Drained new handledFirst := by
  refine ⟨⟨rfl, rfl⟩, drained_of_timely handledFirst ?_⟩
  refine ⟨trivial, trivial, trivial, trivial, trivial, trivial, ?_, trivial, trivial, ?_, trivial⟩
  · intro waiter found
    cases found
    exact Nat.le_refl 1
  · intro waiter found
    cases found
    exact Nat.le_refl 0

/-- The payload channel is found empty, then a payload is sent and a wait begins, and
the barrier poll of the same iteration acknowledges it. -/
def sentBetweenPolls : List (Action Nat Nat) :=
  [.trace .pollPayload, .stats .pollPayload,
    .trace (.send 7), .wait 0,
    .trace (.request 0), .stats (.request 0),
    .stats .pollBarrier, .trace .pollBarrier]

theorem wait_returns_before_payload :
    ¬ forall actions : List (Action Nat Nat), Machine.Always step Drained new actions := by
  intro always
  have drained := (always sentBetweenPolls).last
  have covered := (drained 0 ⟨rfl, rfl⟩).1 ⟨[7], .acknowledged⟩ rfl
  exact absurd covered.length_le (by decide)

end Ingest
end Traces
end Bottlecap
