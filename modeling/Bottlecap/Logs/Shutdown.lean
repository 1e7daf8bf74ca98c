import Bottlecap.Logs.HeldLogRuns
import Bottlecap.Logs.OrphanRuns

namespace Bottlecap
namespace Logs

open Foundations Extension

/-!
# The shutdown of the logs agent

After the cancellation, `LogsAgent::spin` processes what is left in its two
channels, drains the held logs and sends its tombstone.  The held and the ready
logs are then with the aggregator.  The orphans are not drained: in On-Demand mode
an orphan is left exactly if no event after it carries a request id.
-/

/-- An event found no request id for its message, and no later event carries one. -/
def Waits (libraries : LogLibraries) (events : List TelemetryEvent) : Prop :=
  Exists fun before => Exists fun event => Exists fun after => events = before ++ event :: after ∧
      Unnamed libraries event ∧ before.foldl activeAfter "" = "" ∧
      forall other, other ∈ after -> ¬ Names libraries other

theorem not_waits_nil (libraries : LogLibraries) : ¬ Waits libraries [] := by
  rintro ⟨before, event, after, split, _⟩
  exact absurd split.symm (List.append_ne_nil_of_right_ne_nil before (List.cons_ne_nil event after))

theorem foldl_activeAfter_of_not_names (libraries : LogLibraries) (events : List TelemetryEvent)
    (quiet : forall event, event ∈ events -> ¬ Names libraries event) (active : String) :
    events.foldl activeAfter active = active := by
  induction events with
  | nil => rfl
  | cons event _ ih =>
    rw [List.forall_mem_cons] at quiet
    rw [List.foldl_cons, activeAfter_of_not_names quiet.1]
    exact ih quiet.2

/-- No invocation is active while an event waits. -/
theorem Waits.idle {libraries : LogLibraries} {events : List TelemetryEvent}
    (waits : Waits libraries events) : events.foldl activeAfter "" = "" := by
  rcases waits with ⟨before, event, after, split, unnamed, idle, quiet⟩
  rw [split, List.foldl_append, idle]
  refine foldl_activeAfter_of_not_names libraries (event :: after) ?_ ""
  exact List.forall_mem_cons.mpr ⟨unnamed.not_names, quiet⟩

theorem waits_snoc {libraries : LogLibraries} {events : List TelemetryEvent}
    {event : TelemetryEvent} :
    Waits libraries (events ++ [event]) <-> ¬ Names libraries event ∧
      (Waits libraries events ∨
        (Unnamed libraries event ∧ events.foldl activeAfter "" = "")) := by
  constructor
  · rintro ⟨before, origin, after, split, unnamed, idle, quiet⟩
    rcases concat_eq_split split with ⟨rfl, rfl, _⟩ | ⟨rest, rfl, same⟩
    · exact ⟨unnamed.not_names, Or.inr ⟨unnamed, idle⟩⟩
    · rw [List.forall_mem_append, List.forall_mem_singleton] at quiet
      exact ⟨quiet.2, Or.inl ⟨before, origin, rest, same, unnamed, idle, quiet.1⟩⟩
  · rintro ⟨silent, waits | ⟨unnamed, idle⟩⟩
    · rcases waits with ⟨before, origin, after, split, unnamed, idle, quiet⟩
      refine ⟨before, origin, after ++ [event], ?_, unnamed, idle, ?_⟩
      · rw [split, List.append_assoc, List.cons_append]
      · exact List.forall_mem_append.mpr ⟨quiet, List.forall_mem_singleton.mpr silent⟩
    · exact ⟨events, event, [], rfl, unnamed, idle, fun other member => by cases member⟩

/-! ## The orphans that are left -/

namespace LogsProcessor

/-- The active request id and the orphans of a processor that has received the
events, whatever else it did. -/
def Received (env : ProcessorEnv) (events : List TelemetryEvent) (logs : LogsProcessor) : Prop :=
  logs.lambda.requestId = events.foldl activeAfter "" ∧
    (logs.lambda.orphanLogs ≠ [] <->
      env.isManagedInstanceMode = false ∧ Waits env.libraries events)

variable {env : ProcessorEnv} {fuel : Nat} {events : List TelemetryEvent}

theorem received_new : Received env [] new := by
  refine ⟨rfl, ?_⟩
  constructor
  · intro left
    exact absurd rfl left
  · intro waiting
    exact absurd waiting.2 (not_waits_nil env.libraries)

/-- In Managed Instance mode every log is queued. -/
theorem orphansAfter_of_managed (managed : env.isManagedInstanceMode = true)
    (event : TelemetryEvent) (processor : LambdaProcessor)
    (empty : processor.orphanLogs = []) : processor.orphansAfter env event = [] := by
  rw [LambdaProcessor.orphansAfter]
  cases processor.producedLog env event with
  | none => exact empty
  | some => exact if_pos (Or.inr managed)

theorem received_process {event : TelemetryEvent} {logs after : LogsProcessor}
    (received : Received env events logs)
    (returns : logs.process env fuel event = some after) :
    Received env (events ++ [event]) after := by
  have front := process_front returns
  constructor
  · rw [front.1, received.1, List.foldl_append]
    rfl
  · rw [front.2]
    cases mode : env.isManagedInstanceMode with
    | true =>
      have empty : logs.lambda.orphanLogs = [] := by
        by_contra left
        rw [(received.2.mp left).1] at mode
        cases mode
      rw [orphansAfter_of_managed mode event logs.lambda empty]
      exact iff_of_false (fun left => left rfl) (fun waiting => by cases waiting.1)
    | false =>
      have before : logs.lambda.orphanLogs ≠ [] <-> Waits env.libraries events :=
        received.2.trans (and_iff_right mode)
      rw [waits_snoc, <- before, <- received.1, and_iff_right rfl]
      cases carried : carriedId env.libraries event with
      | none =>
        have silent : ¬ Names env.libraries event := by
          rintro ⟨requestId, named⟩
          rw [carried] at named
          cases named
        have loud : ¬ Unnamed env.libraries event := by
          intro unnamed
          rw [Unnamed, carried] at unnamed
          cases unnamed
        rw [(LambdaProcessor.queuedLogs_of_silent carried logs.lambda).2, and_iff_right silent]
        exact (or_iff_left (fun unnamed => loud unnamed.1)).symm
      | some requestId =>
        cases requestId with
        | some =>
          rw [(LambdaProcessor.queuedLogs_of_names mode carried logs.lambda).1]
          exact iff_of_false (fun left => left rfl) (fun silent => silent.1 ⟨_, carried⟩)
        | none =>
          have unnamed : Unnamed env.libraries event := carried
          rw [and_iff_right unnamed.not_names, and_iff_right unnamed]
          by_cases idle : logs.lambda.requestId = ""
          · rcases (LambdaProcessor.queuedLogs_of_unnamed mode unnamed idle).2 with
              ⟨fresh, _, _, orphans⟩
            rw [orphans]
            exact iff_of_true (List.append_ne_nil_of_right_ne_nil _ (List.cons_ne_nil _ _))
              (Or.inr idle)
          · rw [(LambdaProcessor.queuedLogs_of_active mode unnamed idle).1]
            refine iff_of_false (fun left => left rfl) ?_
            rintro (left | empty)
            · exact idle (received.1.trans (before.mp left).idle)
            · exact idle empty

end LogsProcessor

/-! ## The calls of the agent -/

namespace LogsCall

/-- The events that a sequence of calls processes. -/
def eventsOf (calls : List LogsCall) : List TelemetryEvent :=
  calls.filterMap (fun call =>
    match call with
    | process event => some event
    | _ => none)

variable {env : ProcessorEnv} {fuel : Nat}

theorem received_apply {call : LogsCall} {events : List TelemetryEvent}
    {logs after : LogsProcessor} (received : LogsProcessor.Received env events logs)
    (returns : call.apply env fuel logs = some after) :
    LogsProcessor.Received env (events ++ eventsOf [call]) after := by
  cases call with
  | process => exact LogsProcessor.received_process received returns
  | insertToDurableContextMap | drainHeldLogs =>
    cases returns
    rw [eventsOf, List.filterMap_cons, List.filterMap_nil, List.append_nil]
    exact received
  | handOver =>
    cases returns
    rw [eventsOf, List.filterMap_cons, List.filterMap_nil, List.append_nil]
    rw [LogsProcessor.Received, LogsProcessor.handOver, LogsProcessor.insertBatch_lambda]
    exact received

theorem received_foldlM (calls : List LogsCall) {events : List TelemetryEvent}
    {logs after : LogsProcessor} (received : LogsProcessor.Received env events logs)
    (returns : calls.foldlM (apply env fuel) logs = some after) :
    LogsProcessor.Received env (events ++ eventsOf calls) after := by
  induction calls generalizing logs events with
  | nil =>
    cases returns
    rw [eventsOf, List.filterMap_nil, List.append_nil]
    exact received
  | cons _ _ ih =>
    rcases Option.bind_eq_some_iff.mp returns with ⟨next, first, later⟩
    have both := ih (received_apply received first) later
    rw [List.append_assoc, eventsOf, eventsOf, <- List.filterMap_append] at both
    exact both

end LogsCall

/-- The calls that an input leads to. -/
def AgentInput.calls : AgentInput -> List LogsCall
  | event received => [.process received]
  | update received => [.insertToDurableContextMap received, .handOver]

namespace LogsAgent

variable (env : ProcessorEnv) (fuel : Nat)

/-- Everything the agent receives, in the order in which it is served. -/
def inputs (selected : List AgentInput) (drained : List TelemetryEvent)
    (pending : List DurableContextUpdate) : List AgentInput :=
  selected ++ drained.map .event ++ pending.map .update

/-- The calls of a whole run. -/
def calls (inputs : List AgentInput) : List LogsCall :=
  inputs.flatMap AgentInput.calls ++ [.drainHeldLogs, .handOver]

/-- The logs that `get_intake_log` produces in a whole run. -/
def produced (inputs : List AgentInput) : List IntakeLog :=
  LogsCall.producedBy env fuel LogsProcessor.new (calls inputs)

/-- The events of the inputs. -/
def events (inputs : List AgentInput) : List TelemetryEvent :=
  inputs.filterMap (fun input =>
    match input with
    | .event event => some event
    | .update _ => none)

variable {env fuel}

variable (logs : LogsProcessor)

theorem step_eq (input : AgentInput) :
    step env fuel logs input = input.calls.foldlM (LogsCall.apply env fuel) logs := by
  cases input with
  | event =>
    exact (bind_pure _).symm
  | update => rfl

theorem foldlM_step_eq (inputs : List AgentInput) :
    inputs.foldlM (step env fuel) logs =
      (inputs.flatMap AgentInput.calls).foldlM (LogsCall.apply env fuel) logs := by
  induction inputs generalizing logs with
  | nil => rfl
  | cons _ _ ih =>
    rw [List.foldlM_cons, List.flatMap_cons, List.foldlM_append, step_eq]
    exact congrArg _ (funext ih)

theorem foldlM_updates (updates : List DurableContextUpdate) :
    (updates.map .update).foldlM (step env fuel) logs =
      some (updates.foldl (fun (current : LogsProcessor) update =>
        current.processDurableContextUpdate env update) logs) := by
  induction updates generalizing logs with
  | nil => rfl
  | cons _ _ ih =>
    exact ih _

/-- A run of the agent is its calls followed by the tombstone. -/
theorem spin_eq (selected : List AgentInput) (drained : List TelemetryEvent)
    (pending : List DurableContextUpdate) :
    spin env fuel selected drained pending logs =
      ((calls (inputs selected drained pending)).foldlM (LogsCall.apply env fuel) logs).map
        sendTombstone := by
  rw [calls, List.foldlM_append, <- foldlM_step_eq, inputs, List.foldlM_append,
    List.foldlM_append, spin]
  cases selected.foldlM (step env fuel) logs with
  | none => rfl
  | some served =>
    have same : drained.foldlM
        (fun (current : LogsProcessor) event => current.process env fuel event) served =
        (drained.map .event).foldlM (step env fuel) served := by
      rw [List.foldlM_map]
      rfl
    simp only [Option.bind_some, Option.bind_eq_bind, same]
    cases (drained.map .event).foldlM (step env fuel) served with
    | none => rfl
    | some =>
      simp only [foldlM_updates]
      rfl

theorem eventsOf_calls (inputs : List AgentInput) :
    LogsCall.eventsOf (calls inputs) = events inputs := by
  rw [calls, LogsCall.eventsOf, List.filterMap_append]
  refine (List.append_nil _).trans ?_
  induction inputs with
  | nil => rfl
  | cons input _ ih =>
    rw [List.flatMap_cons, List.filterMap_append, ih]
    cases input with
    | event => rfl
    | update => rfl

/-- Every log that passed the rules has been handed to the aggregator once, and
none is left in the processor. -/
def Delivered (env : ProcessorEnv) (text : IntakeLog -> String) (produced : List IntakeLog)
    (final : LogsProcessor) : Prop :=
  (Exists fun handed => final.aggregator.flatten = handed.map text ∧
      bag IntakeLog.anonymous handed = LogsProcessor.passedBag env produced) ∧
    final.lambda.orphanLogs = [] ∧ final.lambda.buffers.heldLogs = ∅ ∧
    final.lambda.buffers.readyLogs = []

/-- With logs enabled, the logs to be sent are those that pass the rules. -/
theorem sent_eq_passedBag (enabled : env.logsEnabled = true) (logs : List IntakeLog) :
    LogsProcessor.sent env logs = LogsProcessor.passedBag env logs := by
  have same : LambdaProcessor.keep env = LambdaProcessor.passRules env := by
    funext log
    rw [LambdaProcessor.keep, if_pos enabled]
  rw [LogsProcessor.sent, LambdaProcessor.keptBag, same]
  rfl

/-- The last two calls leave nothing held and nothing ready. -/
theorem drained_empty :
    ((logs.drainToReady env).handOver).lambda.buffers.heldLogs = ∅ ∧
      ((logs.drainToReady env).handOver).lambda.buffers.readyLogs = [] := by
  rw [LogsProcessor.handOver, LogsProcessor.insertBatch_lambda]
  refine ⟨?_, rfl⟩
  change (logs.lambda.buffers.drainHeldLogs env.toLogsEnv).heldLogs = ∅
  rw [HeldLogs.drainHeldLogs_eq]
  rfl

/-- The last thing a run does, apart from its tombstone, is the drain. -/
theorem spin_drains {selected : List AgentInput} {drained : List TelemetryEvent}
    {pending : List DurableContextUpdate} {logs final : LogsProcessor}
    (returns : spin env fuel selected drained pending logs = some final) :
    Exists fun before : LogsProcessor => final = sendTombstone (before.drainHeldLogs env) := by
  rcases Option.bind_eq_some_iff.mp returns with ⟨served, _, drains⟩
  rcases Option.map_eq_some_iff.mp drains with ⟨closed, _, result⟩
  exact ⟨_, result.symm⟩

/-- What is held when the drain begins is handed to the aggregator. -/
theorem drained_handed {before : LogsProcessor} {entry : Sigma fun _ : String => List IntakeLog}
    (held : entry ∈ before.lambda.buffers.heldLogs.entries) {log : IntakeLog}
    (member : log ∈ entry.2) {text : String} (serializes : env.serialize log = some text) :
    text ∈ (sendTombstone (before.drainHeldLogs env)).aggregator.flatten := by
  change text ∈ (before.drainToReady env).handOver.aggregator.flatten
  rw [LogsProcessor.handOver, LogsProcessor.insertBatch_flatten]
  apply List.mem_append_right
  change text ∈ (before.lambda.buffers.drainHeldLogs env.toLogsEnv).readyLogs
  rw [HeldLogs.drainHeldLogs_eq]
  apply List.mem_append_right
  refine List.mem_filterMap.mpr ⟨Release.untagged log, ?_, serializes⟩
  exact List.mem_flatMap.mpr ⟨entry, (env.iterate.perm _).mem_iff.mpr held,
    List.mem_map_of_mem member⟩

/-- When the agent has sent its tombstone, every log has been delivered exactly if
the mode is Managed Instance, or no event waits for a request id. -/
theorem spin_delivers_iff {text : IntakeLog -> String} (enabled : env.logsEnabled = true)
    (serializes : forall log, env.serialize log = some (text log))
    {selected : List AgentInput} {drained : List TelemetryEvent}
    {pending : List DurableContextUpdate} {final : LogsProcessor}
    (returns : spin env fuel selected drained pending LogsProcessor.new = some final) :
    Delivered env text (produced env fuel (inputs selected drained pending)) final <->
      env.isManagedInstanceMode = true ∨
        ¬ Waits env.libraries (events (inputs selected drained pending)) := by
  rw [spin_eq] at returns
  rcases Option.map_eq_some_iff.mp returns with ⟨closed, called, tombstone⟩
  have received := LogsCall.received_foldlM _ LogsProcessor.received_new called
  rw [eventsOf_calls] at received
  have accounted := LogsProcessor.accounted_foldlM serializes _ LogsProcessor.accounted_new called
  have emptied : closed.lambda.buffers.heldLogs = ∅ ∧ closed.lambda.buffers.readyLogs = [] := by
    rw [calls, List.foldlM_append] at called
    rcases Option.bind_eq_some_iff.mp called with ⟨served, _, last⟩
    cases last
    exact drained_empty served
  rw [<- tombstone]
  constructor
  · rintro ⟨_, noOrphans, _⟩
    cases mode : env.isManagedInstanceMode with
    | true => exact Or.inl rfl
    | false =>
      refine Or.inr (fun waits => ?_)
      exact received.2.mpr ⟨mode, waits⟩ noOrphans
  · intro condition
    have noOrphans : closed.lambda.orphanLogs = [] := by
      by_contra left
      rcases received.2.mp left with ⟨mode, waits⟩
      rcases condition with managed | quiet
      · rw [mode] at managed
        cases managed
      · exact quiet waits
    refine ⟨?_, noOrphans, emptied.1, emptied.2⟩
    rcases accounted with ⟨ready, handed, readyTexts, handedTexts, balance⟩
    refine ⟨handed, handedTexts, ?_⟩
    rw [emptied.2] at readyTexts
    have noReady : ready = [] := List.map_eq_nil_iff.mp readyTexts.symm
    have noHeld : closed.lambda.buffers.content IntakeLog.anonymous = 0 := by
      rw [HeldLogs.content, emptied.1]
      rfl
    rw [noOrphans, noReady, noHeld, bag_nil, zero_add] at balance
    rw [produced, <- sent_eq_passedBag enabled, balance]
    exact (zero_add _).symm

/-- A line of the init phase, the first invocation and its durable context. -/
theorem spin_delivers_iff_init :
    let selected := [.event (TelemetryEvent.line "hello"),
      .event (TelemetryEvent.start "r1")]
    let pending := [⟨"r1", "id", "name", none, none⟩]
    Exists fun final =>
      spin (ProcessorEnv.plain true) 1 selected [] pending LogsProcessor.new = some final ∧
        Delivered (ProcessorEnv.plain true) IntakeLog.plainText
          (produced (ProcessorEnv.plain true) 1 (inputs selected [] pending)) final := by
  intro selected pending
  have returns : (spin (ProcessorEnv.plain true) 1 selected [] pending
      LogsProcessor.new).isSome = true := by
    decide +kernel
  rcases Option.isSome_iff_exists.mp returns with ⟨final, same⟩
  refine ⟨final, same, (spin_delivers_iff rfl (fun _ => rfl) same).mpr (Or.inr (fun waits => ?_))⟩
  have split : events (inputs selected [] pending) =
      [TelemetryEvent.line "hello"] ++ [TelemetryEvent.start "r1"] := rfl
  rw [split] at waits
  exact (waits_snoc.mp waits).1 ⟨"r1", rfl⟩

/-- A line before the first invocation is lost by the shutdown. -/
theorem orphan_lost_at_shutdown :
    ¬ forall (env : ProcessorEnv) (text : IntakeLog -> String), env.logsEnabled = true ->
      (forall log, env.serialize log = some (text log)) ->
      forall (fuel : Nat) (selected : List AgentInput) (drained : List TelemetryEvent)
        (pending : List DurableContextUpdate) (final : LogsProcessor),
        spin env fuel selected drained pending LogsProcessor.new = some final ->
          Delivered env text (produced env fuel (inputs selected drained pending)) final := by
  intro always
  let selected := [AgentInput.event (TelemetryEvent.line "hello")]
  have returns : (spin (ProcessorEnv.plain true) 1 selected [] [] LogsProcessor.new).any
      (fun final => final.lambda.orphanLogs.length == 1) = true := by
    decide +kernel
  rcases (Option.any_eq_true _ _).mp returns with ⟨final, same, left⟩
  have delivered := always (ProcessorEnv.plain true) IntakeLog.plainText rfl (fun _ => rfl) 1
    selected [] [] final same
  rw [delivered.2.1] at left
  cases left

end LogsAgent
end Logs
end Bottlecap
