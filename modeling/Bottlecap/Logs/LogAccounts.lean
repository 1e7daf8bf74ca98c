import Bottlecap.Logs.Conservation
import Bottlecap.Logs.Intake

namespace Bottlecap
namespace Logs

open Foundations Extension

/-!
# The accounts of the log processor

A log that `get_intake_log` produces and that is to be sent is among the orphans,
held, ready or with the aggregator: in one of these places, and once.  The law is
stated with the logs that the ready texts and the aggregated texts serialize, and
it holds after every sequence of calls that return.
-/

/-- A log without its request id and durable execution attributes. -/
def IntakeLog.anonymous (log : IntakeLog) : IntakeLog :=
  { log with message := { log.message with
    lambda := ⟨log.message.lambda.arn, none, none, none, none, none⟩ } }

theorem anonymous_unseen (env : LogsEnv) (context : DurableExecutionContext) (log : IntakeLog) :
    (HeldLogs.withDurableContext env context log).anonymous = log.anonymous := by
  simp only [HeldLogs.withDurableContext]
  split <;> split <;> rfl

namespace LambdaProcessor

section Queueing

variable {View : Type} (view : IntakeLog -> View) (env : ProcessorEnv)

/-- The logs of a list that are to be sent, as the rules leave them. -/
def keptBag (logs : List IntakeLog) : Multiset View := bag view (logs.filterMap (keep env))

theorem keptBag_append (first second : List IntakeLog) :
    keptBag view env (first ++ second) = keptBag view env first + keptBag view env second := by
  rw [keptBag, List.filterMap_append, bag_append]
  rfl

theorem keptBag_cons (log : IntakeLog) (logs : List IntakeLog) :
    keptBag view env (log :: logs) = keptBag view env [log] + keptBag view env logs :=
  keptBag_append view env [log] logs

variable {view env} {text : IntakeLog -> String}
  (serializes : forall log, env.serialize log = some (text log))
  (unseen : forall context log,
    view (HeldLogs.withDurableContext env.toLogsEnv context log) = view log)

include serializes unseen

theorem queueKept_transfers {fuel : Nat} {buffers after : HeldLogs} {log : IntakeLog}
    (returns : queueKept env fuel buffers log = some after) :
    HeldLogs.Transfers view text buffers after (keptBag view env [log]) := by
  cases kept : keep env log with
  | none =>
    simp only [queueKept, kept] at returns
    cases returns
    rw [keptBag, List.filterMap_cons, kept]
    exact HeldLogs.Transfers.of_same rfl rfl
  | some =>
    simp only [queueKept, kept] at returns
    rw [keptBag, List.filterMap_cons, kept]
    exact HeldLogs.queueLogAfterRules_transfers serializes unseen returns

theorem foldlM_queueKept_transfers {fuel : Nat} (queued : List IntakeLog)
    {buffers after : HeldLogs}
    (returns : queued.foldlM (queueKept env fuel) buffers = some after) :
    HeldLogs.Transfers view text buffers after (keptBag view env queued) := by
  induction queued generalizing buffers with
  | nil =>
    cases returns
    exact HeldLogs.Transfers.of_same rfl rfl
  | cons _ _ ih =>
    rcases Option.bind_eq_some_iff.mp returns with ⟨next, first, later⟩
    rw [keptBag_cons]
    exact (queueKept_transfers serializes unseen first).trans (ih later)

theorem getMessage_transfers (event : TelemetryEvent) (processor : LambdaProcessor) :
    HeldLogs.Transfers view text processor.buffers (processor.getMessage env event).1.buffers 0 := by
  rcases (getMessage_spec env processor event).1.buffers with same | ⟨isDurable, resolved⟩
  · exact HeldLogs.Transfers.of_same (by rw [same]) (by rw [same])
  · rw [resolved]
    exact HeldLogs.platformInitStart_transfers serializes unseen isDurable processor.buffers

/-- What an event adds to the buffers is what it queues and is kept. -/
theorem queueEvent_transfers {fuel : Nat} {event : TelemetryEvent}
    {processor after : LambdaProcessor}
    (returns : processor.queueEvent env fuel event = some after) :
    HeldLogs.Transfers view text processor.buffers after.buffers
      (keptBag view env (processor.queuedLogs env event)) := by
  rw [queueEvent_eq] at returns
  rcases Option.map_eq_some_iff.mp returns with ⟨buffers, queued, same⟩
  rw [<- same]
  have read : HeldLogs.Transfers view text processor.buffers _ 0 :=
    getMessage_transfers serializes unseen event processor
  exact (read.trans (foldlM_queueKept_transfers serializes unseen _ queued)).congr (zero_add _)

end Queueing

variable (env : ProcessorEnv)

theorem queueEvent_orphanLogs {env : ProcessorEnv} {fuel : Nat} {event : TelemetryEvent}
    {processor after : LambdaProcessor}
    (returns : processor.queueEvent env fuel event = some after) :
    after.orphanLogs = processor.orphansAfter env event := by
  rw [queueEvent_eq] at returns
  rcases Option.map_eq_some_iff.mp returns with ⟨buffers, _, same⟩
  rw [<- same]
  rfl

/-- The rules read the text of a log only. -/
theorem keep_adopt (requestId : String) (log : IntakeLog) :
    keep env (adopt requestId log) = (keep env log).map (adopt requestId) := by
  rw [keep, keep]
  split
  · rw [passRules, passRules, Option.map_map]
    rfl
  · rfl

theorem keptBag_adopt (requestId : String) (logs : List IntakeLog) :
    keptBag IntakeLog.anonymous env (logs.map (adopt requestId)) =
      keptBag IntakeLog.anonymous env logs := by
  induction logs with
  | nil => rfl
  | cons log rest ih =>
    rw [List.map_cons, keptBag_cons, keptBag_cons _ _ log rest]
    congr 1
    rw [keptBag, keptBag, List.filterMap_cons, List.filterMap_cons, keep_adopt]
    cases keep env log with
    | none => rfl
    | some => rfl

/-- The log that an event produces is queued or becomes an orphan, and orphans
leave by being queued. -/
theorem keptBag_queuedLogs (event : TelemetryEvent) (processor : LambdaProcessor) :
    keptBag IntakeLog.anonymous env (processor.orphansAfter env event) +
        keptBag IntakeLog.anonymous env (processor.queuedLogs env event) =
      keptBag IntakeLog.anonymous env processor.orphanLogs +
        keptBag IntakeLog.anonymous env (processor.producedLog env event).toList := by
  rw [orphansAfter, queuedLogs]
  cases processor.producedLog env event with
  | none => rfl
  | some log =>
    by_cases queues : Queues env log
    · simp only [if_pos queues]
      rw [keptBag_cons, keptBag_adopt, add_comm (keptBag _ env [log])]
      exact zero_add _
    · simp only [if_neg queues]
      rw [keptBag_append]
      exact add_zero _

end LambdaProcessor

/-! ## Sequences of calls -/

/-- The calls that move logs, and the hand-over that follows some of them. -/
inductive LogsCall where
  | process (event : TelemetryEvent)
  | insertToDurableContextMap (update : DurableContextUpdate)
  | drainHeldLogs
  | handOver

namespace LogsCall

variable (env : ProcessorEnv)

/-- The state after the call, if its loops return within `fuel` iterations. -/
def apply (fuel : Nat) (logs : LogsProcessor) : LogsCall -> Option LogsProcessor
  | process event => logs.process env fuel event
  | insertToDurableContextMap update => some (logs.insertToDurableMap env update)
  | drainHeldLogs => some (logs.drainToReady env)
  | handOver => some logs.handOver

/-- The log that `get_intake_log` produces in the call. -/
def produced (logs : LogsProcessor) : LogsCall -> Option IntakeLog
  | process event => logs.lambda.producedLog env event
  | _ => none

/-- The logs that `get_intake_log` produces in a sequence of calls. -/
def producedBy (fuel : Nat) : LogsProcessor -> List LogsCall -> List IntakeLog
  | _, [] => []
  | logs, call :: rest =>
    (call.produced env logs).toList ++
      match call.apply env fuel logs with
      | some next => producedBy fuel next rest
      | none => []

end LogsCall

namespace LogsProcessor

variable (env : ProcessorEnv)

/-- The logs of `amount` are exactly the orphans, the held logs, the ready logs
and the aggregated logs, where `keptIn` says which of the orphans count. -/
def Accounted (keptIn : List IntakeLog -> Multiset IntakeLog) (text : IntakeLog -> String)
    (logs : LogsProcessor) (amount : Multiset IntakeLog) : Prop :=
  Exists fun ready => Exists fun handed => logs.lambda.buffers.readyLogs = ready.map text ∧
      logs.aggregator.flatten = handed.map text ∧
      amount = keptIn logs.lambda.orphanLogs +
        logs.lambda.buffers.content IntakeLog.anonymous +
        bag IntakeLog.anonymous ready + bag IntakeLog.anonymous handed

/-- The logs of a list that are to be sent, compared without request ids and
durable execution attributes. -/
def sent (env : ProcessorEnv) (logs : List IntakeLog) : Multiset IntakeLog :=
  LambdaProcessor.keptBag IntakeLog.anonymous env logs

variable {env} {text : IntakeLog -> String} {amount : Multiset IntakeLog}

theorem insertBatch_flatten (batch : List String) (logs : LogsProcessor) :
    (insertBatch batch logs).aggregator.flatten = logs.aggregator.flatten ++ batch := by
  rw [insertBatch]
  split
  next empty => rw [List.isEmpty_iff.mp empty, List.append_nil]
  next => rw [List.flatten_append, List.flatten_singleton]

theorem insertBatch_lambda (batch : List String) (logs : LogsProcessor) :
    (insertBatch batch logs).lambda = logs.lambda := by
  rw [insertBatch]
  split <;> rfl

theorem accounted_handOver {keptIn : List IntakeLog -> Multiset IntakeLog} {logs : LogsProcessor}
    (accounted : Accounted keptIn text logs amount) :
    Accounted keptIn text logs.handOver amount := by
  rcases accounted with ⟨ready, handed, readyTexts, handedTexts, balance⟩
  refine ⟨[], handed ++ ready, ?_, ?_, ?_⟩
  · rw [handOver, insertBatch_lambda]
    rfl
  · rw [handOver, insertBatch_flatten, List.map_append, handedTexts, <- readyTexts]
    rfl
  · rw [handOver, insertBatch_lambda, bag_append, bag_nil, balance, add_zero,
      add_assoc _ (bag _ ready), add_comm (bag _ ready)]
    rfl

/-- A transfer of the buffers with a matching change of the orphans changes the
account by what came in. -/
theorem accounted_transfers {logs : LogsProcessor} {after : LambdaProcessor}
    {moved added : Multiset IntakeLog} (accounted : Accounted (sent env) text logs amount)
    (transfers : HeldLogs.Transfers IntakeLog.anonymous text logs.lambda.buffers after.buffers
      moved)
    (orphans : sent env after.orphanLogs + moved = sent env logs.lambda.orphanLogs + added) :
    Accounted (sent env) text { logs with lambda := after } (amount + added) := by
  rcases accounted with ⟨ready, handed, readyTexts, handedTexts, balance⟩
  rcases transfers with ⟨pushed, pushedTexts, content⟩
  refine ⟨ready ++ pushed, handed, ?_, handedTexts, ?_⟩
  · rw [pushedTexts, readyTexts, List.map_append]
  · rw [bag_append, balance]
    -- Both sides are sums of the same five bags.
    have sums : bag IntakeLog.anonymous pushed + (sent env after.orphanLogs +
        after.buffers.content IntakeLog.anonymous) =
        sent env logs.lambda.orphanLogs + logs.lambda.buffers.content IntakeLog.anonymous +
          added := by
      rw [add_left_comm, content, add_left_comm, orphans, add_left_comm, add_assoc]
    rw [add_right_comm _ (bag _ handed) added, add_right_comm _ (bag _ ready) added, <- sums,
      add_comm (bag _ pushed), add_assoc _ (bag _ pushed), add_comm (bag _ pushed)]

section Runs

variable (serializes : forall log, env.serialize log = some (text log))

include serializes

/-- One call: what `get_intake_log` produced in it is added to the account. -/
theorem accounted_apply {fuel : Nat} {call : LogsCall} {logs after : LogsProcessor}
    (accounted : Accounted (sent env) text logs amount)
    (returns : call.apply env fuel logs = some after) :
    Accounted (sent env) text after
      (amount + sent env (call.produced env logs).toList) := by
  -- A change of the buffers that adds nothing keeps the account.
  have unseen := anonymous_unseen env.toLogsEnv
  have moved : forall buffers : HeldLogs,
      HeldLogs.Transfers IntakeLog.anonymous text logs.lambda.buffers buffers 0 ->
      Accounted (sent env) text
        { logs with lambda := { logs.lambda with buffers := buffers } } (amount + 0) := by
    intro buffers transfers
    exact accounted_transfers accounted transfers rfl
  cases call with
  | process event =>
    rcases Option.map_eq_some_iff.mp returns with ⟨⟨batch, taken⟩, processed, inserted⟩
    rcases Option.map_eq_some_iff.mp processed with ⟨queued, queues, splits⟩
    have balance := LambdaProcessor.keptBag_queuedLogs env event logs.lambda
    rw [<- LambdaProcessor.queueEvent_orphanLogs queues] at balance
    have step := accounted_handOver (accounted_transfers accounted
      (LambdaProcessor.queueEvent_transfers serializes unseen queues) balance)
    cases splits
    rw [<- inserted]
    exact step
  | insertToDurableContextMap =>
    cases returns
    exact moved _ (HeldLogs.insertToDurableContextMap_transfers serializes unseen _ _ _)
  | drainHeldLogs =>
    cases returns
    exact moved _ (HeldLogs.drainHeldLogs_transfers serializes unseen _)
  | handOver =>
    cases returns
    have step := accounted_handOver accounted
    rw [<- add_zero amount] at step
    exact step

theorem accounted_foldlM {fuel : Nat} (calls : List LogsCall) {logs after : LogsProcessor}
    (accounted : Accounted (sent env) text logs amount)
    (returns : calls.foldlM (LogsCall.apply env fuel) logs = some after) :
    Accounted (sent env) text after
      (amount + sent env (LogsCall.producedBy env fuel logs calls)) := by
  induction calls generalizing logs amount with
  | nil =>
    cases returns
    rw [<- add_zero amount] at accounted
    exact accounted
  | cons _ _ ih =>
    rcases Option.bind_eq_some_iff.mp returns with ⟨next, first, later⟩
    have both := ih (accounted_apply serializes accounted first) later
    simp only [LogsCall.producedBy, first]
    rw [sent, LambdaProcessor.keptBag_append, <- add_assoc]
    exact both

omit serializes in
theorem accounted_new : Accounted (sent env) text new 0 :=
  ⟨[], [], rfl, rfl, rfl⟩

/-- After every sequence of calls that return, the logs produced and to be sent
are the orphans to be sent, the held, the ready and the aggregated logs. -/
theorem logs_conserved (fuel : Nat) (calls : List LogsCall) {after : LogsProcessor}
    (returns : calls.foldlM (LogsCall.apply env fuel) new = some after) :
    Accounted (sent env) text after
      (sent env (LogsCall.producedBy env fuel new calls)) := by
  have run := accounted_foldlM serializes calls accounted_new returns
  exact run

end Runs

/-- A line before the first invocation, the invocation, and a durable context. -/
theorem logs_conserved_orphan :
    let calls := [.process (TelemetryEvent.line "hello"),
      .process (TelemetryEvent.start "r1"),
      .insertToDurableContextMap ⟨"r1", "id", "name", none, none⟩,
      .drainHeldLogs]
    Exists fun after => calls.foldlM (LogsCall.apply (ProcessorEnv.plain true) 1) new = some after ∧
        Accounted (sent (ProcessorEnv.plain true)) IntakeLog.plainText after
          (sent (ProcessorEnv.plain true)
            (LogsCall.producedBy (ProcessorEnv.plain true) 1 new calls)) := by
  intro calls
  have returns : (calls.foldlM (LogsCall.apply (ProcessorEnv.plain true) 1) new).isSome = true := by
    decide +kernel
  rcases Option.isSome_iff_exists.mp returns with ⟨after, same⟩
  exact ⟨after, same, logs_conserved (fun _ => rfl) 1 calls same⟩

/-- The logs of a list that the rules pass, whether or not logs are enabled. -/
def passedBag (env : ProcessorEnv) (logs : List IntakeLog) : Multiset IntakeLog :=
  bag IntakeLog.anonymous (logs.filterMap (LambdaProcessor.passRules env))

/-- With logs disabled, a log that passes the rules is in none of the places. -/
theorem disabled_log_dropped :
    ¬ forall (env : ProcessorEnv) (text : IntakeLog -> String),
      (forall log, env.serialize log = some (text log)) ->
      forall (fuel : Nat) (calls : List LogsCall) (after : LogsProcessor),
        calls.foldlM (LogsCall.apply env fuel) new = some after ->
          Accounted (passedBag env) text after
            (passedBag env (LogsCall.producedBy env fuel new calls)) := by
  intro always
  let calls := [LogsCall.process (TelemetryEvent.start "r1")]
  have accounted := always (ProcessorEnv.plain false) IntakeLog.plainText (fun _ => rfl) 1 calls
    ⟨{ LambdaProcessor.new with
        requestId := "r1"
        eventBus := [Event.telemetry (TelemetryEvent.start "r1")] }, []⟩ rfl
  rcases accounted with ⟨ready, handed, readyTexts, handedTexts, balance⟩
  have noReady : ready = [] := List.map_eq_nil_iff.mp readyTexts.symm
  have noHanded : handed = [] := List.map_eq_nil_iff.mp handedTexts.symm
  rw [noReady, noHanded] at balance
  exact absurd (congrArg Multiset.card balance) (by decide)

end LogsProcessor
end Logs
end Bottlecap
