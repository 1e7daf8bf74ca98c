import Bottlecap.Logs.BufferCalls
import Bottlecap.Logs.LogAccounts

namespace Bottlecap
namespace Logs

open Foundations

/-!
# The ledger of a run

A ledger records next to the buffers what the calls of a run were given and what
has come out: the logs that were queued, those that became ready and the texts
that were taken, the durable contexts that were passed in and those that were
evicted, and for each held request the call from which on it has been held.  The
record never influences a call, and a run of the whole processor is a run of its
ledger.
-/

/-- What happens to the durable contexts. -/
inductive ContextEvent where
  | inserted (requestId : String) (context : DurableExecutionContext)
  | evicted (requestId : String)
  deriving DecidableEq

namespace BufferCall

/-- The log that the call passes to `queue_log_after_rules`. -/
def queues : BufferCall -> List IntakeLog
  | queueLogAfterRules log => [log]
  | _ => []

/-- The context that the call passes to `insert_to_durable_context_map`. -/
def inserts : BufferCall -> List ContextEvent
  | insertToDurableContextMap requestId context => [.inserted requestId context]
  | _ => []

/-- The texts that the call hands to its caller. -/
def takes (logs : HeldLogs) : BufferCall -> List String
  | takeReadyLogs => logs.readyLogs
  | _ => []

end BufferCall

structure BufferLedger where
  buffers : HeldLogs
  queued : List IntakeLog
  released : List Release
  taken : List String
  contextEvents : List ContextEvent
  calls : Nat
  heldSince : String -> Nat

namespace BufferLedger

def new : BufferLedger where
  buffers := HeldLogs.new
  queued := []
  released := []
  taken := []
  contextEvents := []
  calls := 0
  heldSince := fun _ => 0

variable (env : LogsEnv)

/-- The keys that leave the durable context map. -/
def evictions (before after : HeldLogs) : List ContextEvent :=
  (before.durableContextMap.keys.filter (fun id => decide (id ∉ after.durableContextMap))).map
    .evicted

/-- The ledger after a call has left the buffers in the state `after`.  A request
that was held before the call stays held since when it was; any other one would be
held since this call. -/
def record (ledger : BufferLedger) (call : BufferCall) (after : HeldLogs) : BufferLedger where
  buffers := after
  queued := ledger.queued ++ call.queues
  released := ledger.released ++ call.releases env ledger.buffers
  taken := ledger.taken ++ call.takes ledger.buffers
  contextEvents := ledger.contextEvents ++ evictions ledger.buffers after ++ call.inserts
  calls := ledger.calls + 1
  heldSince := fun id => if id ∈ ledger.buffers.heldLogs then ledger.heldSince id else ledger.calls

def step (fuel : Nat) (ledger : BufferLedger) (call : BufferCall) : Option BufferLedger :=
  (call.op.apply env fuel ledger.buffers).map (ledger.record env call)

/-- The ledgers of the runs whose calls all return and are permitted by `allowed`
in the state before them. -/
inductive Reachable (allowed : BufferLedger -> BufferCall -> Prop) : BufferLedger -> Prop where
  | new : Reachable allowed BufferLedger.new
  | step {ledger next : BufferLedger} {call : BufferCall} (fuel : Nat) :
      Reachable allowed ledger -> allowed ledger call -> ledger.step env fuel call = some next ->
      Reachable allowed next

/-- The runs without any condition on their calls. -/
def Reached (ledger : BufferLedger) : Prop := Reachable env (fun _ _ => True) ledger

variable {env} {allowed : BufferLedger -> BufferCall -> Prop} {ledger next : BufferLedger}

theorem Reachable.reached (reachable : Reachable env allowed ledger) : ledger.Reached env := by
  induction reachable with
  | new => exact .new
  | step fuel _ _ returns reached => exact .step fuel reached trivial returns

theorem step_cases {fuel : Nat} {call : BufferCall} (returns : ledger.step env fuel call = some next) :
    call.op.apply env fuel ledger.buffers = some next.buffers ∧
      next = ledger.record env call next.buffers := by
  rcases Option.map_eq_some_iff.mp returns with ⟨after, applied, rfl⟩
  exact ⟨applied, rfl⟩

theorem Reached.withinBuffer (reached : ledger.Reached env) : ledger.buffers.WithinBuffer env := by
  induction reached with
  | new => exact (HeldLogs.withinBuffer_of_empty env rfl rfl).1
  | step _ _ _ returns within =>
    exact (HeldLogs.apply_result env _ within (step_cases returns).1).1

/-- What a call of a run does. -/
theorem Reached.effect (reached : ledger.Reached env) {fuel : Nat} {call : BufferCall}
    (returns : ledger.step env fuel call = some next) :
    ledger.buffers.Effect env call (call.releases env ledger.buffers) next.buffers ∧
      next = ledger.record env call next.buffers :=
  ⟨HeldLogs.apply_effect reached.withinBuffer (step_cases returns).1, (step_cases returns).2⟩

/-- A property of the recorded run that every effect keeps holds of every run. -/
theorem Reached.invariant (keeps : BufferLedger -> Prop) (initial : keeps new)
    (stays : forall (ledger : BufferLedger) (call : BufferCall) (after : HeldLogs),
      ledger.Reached env -> keeps ledger ->
      ledger.buffers.Effect env call (call.releases env ledger.buffers) after ->
      keeps (ledger.record env call after))
    (reached : ledger.Reached env) : keeps ledger := by
  induction reached with
  | new => exact initial
  | step _ earlier _ returns kept =>
    rcases Reached.effect earlier returns with ⟨effect, same⟩
    rw [same]
    exact stays _ _ _ earlier kept effect

/-- The texts that were taken or are ready are those of the released logs, in
this order. -/
theorem Reached.texts (reached : ledger.Reached env) :
    ledger.taken ++ ledger.buffers.readyLogs =
      ledger.released.filterMap (Release.text env) := by
  refine Reached.invariant (fun ledger => ledger.taken ++ ledger.buffers.readyLogs =
    ledger.released.filterMap (Release.text env)) rfl ?_ reached
  intro ledger call after _ texts effect
  -- Every call but `takeReadyLogs` appends the texts of its releases.
  have appended : forall (released : List Release) (state : HeldLogs),
      state.readyLogs = ledger.buffers.readyLogs ->
      ledger.taken ++ [] ++ (state.emit env released).readyLogs =
        (ledger.released ++ released).filterMap (Release.text env) := by
    intro released state same
    rw [List.append_nil, List.filterMap_append, <- texts, List.append_assoc, <- same]
    rfl
  have silent : forall state : HeldLogs, state.readyLogs = ledger.buffers.readyLogs ->
      ledger.taken ++ [] ++ state.readyLogs =
        (ledger.released ++ []).filterMap (Release.text env) := by
    intro state same
    have nothing := appended [] state same
    rw [HeldLogs.emit_nil] at nothing
    exact nothing
  change ledger.taken ++ call.takes ledger.buffers ++ after.readyLogs =
    (ledger.released ++ call.releases env ledger.buffers).filterMap (Release.text env)
  generalize call.releases env ledger.buffers = released at effect ⊢
  cases effect with
  | ready | tagged | evict | resolve | release | drain => exact appended _ _ rfl
  | append => exact silent (ledger.buffers.appendHeld _ _) rfl
  | store => exact silent (HeldLogs.appendHeld _ _ _) rfl
  | known => exact silent ledger.buffers rfl
  | insert => exact appended _ (ledger.buffers.withContext _ _) rfl
  | take =>
    rw [List.append_nil, List.append_nil]
    exact texts

end BufferLedger

/-! ## Runs of the processor -/

namespace LogsProcessor

open BufferLedger

variable {env : ProcessorEnv}

/-- The processor is at the end of a recorded run, and the aggregator has what was
taken. -/
def Recorded (env : ProcessorEnv) (logs : LogsProcessor) : Prop :=
  Exists fun ledger : BufferLedger => ledger.Reached env.toLogsEnv ∧
    ledger.buffers = logs.lambda.buffers ∧ logs.aggregator.flatten = ledger.taken

/-- One call that leaves the aggregator alone. -/
theorem recorded_call {ledger : BufferLedger} (fuel : Nat) (call : BufferCall) {after : HeldLogs}
    (reached : ledger.Reached env.toLogsEnv)
    (applied : call.op.apply env.toLogsEnv fuel ledger.buffers = some after) :
    (ledger.record env.toLogsEnv call after).Reached env.toLogsEnv :=
  .step fuel reached trivial (by rw [step, applied]; rfl)

theorem recorded_queueKept {fuel : Nat} (queued : List IntakeLog) {ledger : BufferLedger}
    {after : HeldLogs} (reached : ledger.Reached env.toLogsEnv)
    (returns : queued.foldlM (LambdaProcessor.queueKept env fuel) ledger.buffers = some after) :
    Exists fun last : BufferLedger => last.Reached env.toLogsEnv ∧ last.buffers = after ∧
      last.taken = ledger.taken := by
  induction queued generalizing ledger with
  | nil => exact ⟨ledger, reached, Option.some.inj returns, rfl⟩
  | cons log _ ih =>
    rcases Option.bind_eq_some_iff.mp returns with ⟨next, first, later⟩
    cases kept : LambdaProcessor.keep env log with
    | none =>
      simp only [LambdaProcessor.queueKept, kept] at first
      obtain rfl := Option.some.inj first
      exact ih reached later
    | some sent =>
      simp only [LambdaProcessor.queueKept, kept] at first
      have queue := recorded_call fuel (.queueLogAfterRules sent) reached first
      rcases ih queue later with ⟨last, lastReached, same, taken⟩
      exact ⟨last, lastReached, same, taken.trans (List.append_nil _)⟩

/-- Handing over takes the ready texts. -/
theorem recorded_handOver {logs : LogsProcessor} (recorded : Recorded env logs) :
    Recorded env logs.handOver := by
  rcases recorded with ⟨ledger, reached, same, taken⟩
  refine ⟨_, recorded_call 0 .takeReadyLogs reached rfl, ?_, ?_⟩
  · rw [handOver, insertBatch_lambda]
    rw [same]
    rfl
  · rw [handOver, insertBatch_flatten]
    change logs.aggregator.flatten ++ logs.lambda.buffers.readyLogs =
      ledger.taken ++ ledger.buffers.readyLogs
    rw [same, taken]

theorem recorded_apply {fuel : Nat} {call : LogsCall} {logs after : LogsProcessor}
    (recorded : Recorded env logs) (returns : call.apply env fuel logs = some after) :
    Recorded env after := by
  cases call with
  | process event =>
    rcases recorded with ⟨ledger, reached, same, taken⟩
    rcases Option.map_eq_some_iff.mp returns with ⟨⟨batch, emptied⟩, processed, inserted⟩
    rcases Option.map_eq_some_iff.mp processed with ⟨queued, queues, splits⟩
    rw [LambdaProcessor.queueEvent_eq] at queues
    rcases Option.map_eq_some_iff.mp queues with ⟨buffers, folded, withBuffers⟩
    -- `get_message` leaves the buffers or resolves them.
    have read : Exists fun start : BufferLedger => start.Reached env.toLogsEnv ∧
        start.buffers = (logs.lambda.getMessage env event).1.buffers ∧
        start.taken = ledger.taken := by
      rcases (LambdaProcessor.getMessage_spec env logs.lambda event).1.buffers with kept | ⟨flag, resolved⟩
      · exact ⟨ledger, reached, same.trans kept.symm, rfl⟩
      · refine ⟨_, recorded_call 0 (.platformInitStart flag) reached rfl, ?_, List.append_nil _⟩
        rw [resolved, <- same]
        rfl
    rcases read with ⟨start, startReached, startSame, startTaken⟩
    rw [<- startSame] at folded
    rcases recorded_queueKept _ startReached folded with
      ⟨last, lastReached, lastSame, lastTaken⟩
    have recordedQueued : Recorded env ⟨queued, logs.aggregator⟩ :=
      ⟨last, lastReached, by rw [lastSame, <- withBuffers]; rfl,
        taken.trans (lastTaken.trans startTaken).symm⟩
    have handed := recorded_handOver recordedQueued
    rw [<- inserted]
    cases splits
    exact handed
  | insertToDurableContextMap update =>
    rcases recorded with ⟨ledger, reached, same, taken⟩
    obtain rfl := Option.some.inj returns
    refine ⟨_, recorded_call 0 (.insertToDurableContextMap update.requestId
      update.context) reached rfl, ?_, taken.trans (List.append_nil _).symm⟩
    rw [insertToDurableMap, <- same]
    rfl
  | drainHeldLogs =>
    rcases recorded with ⟨ledger, reached, same, taken⟩
    obtain rfl := Option.some.inj returns
    refine ⟨_, recorded_call 0 .drainHeldLogs reached rfl, ?_,
      taken.trans (List.append_nil _).symm⟩
    rw [drainToReady, <- same]
    rfl
  | handOver =>
    obtain rfl := Option.some.inj returns
    exact recorded_handOver recorded

/-- Every run of the processor is a run of a ledger. -/
theorem recorded_foldlM {fuel : Nat} (calls : List LogsCall) {logs after : LogsProcessor}
    (recorded : Recorded env logs)
    (returns : calls.foldlM (LogsCall.apply env fuel) logs = some after) :
    Recorded env after := by
  induction calls generalizing logs with
  | nil =>
    obtain rfl := Option.some.inj returns
    exact recorded
  | cons _ _ ih =>
    rcases Option.bind_eq_some_iff.mp returns with ⟨next, first, later⟩
    exact ih (recorded_apply recorded first) later

theorem recorded_new : Recorded env new := ⟨_, .new, rfl, rfl⟩

end LogsProcessor
end Logs
end Bottlecap
