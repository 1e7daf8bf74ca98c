import Bottlecap.Lifecycle.Release

namespace Bottlecap
namespace Lifecycle

open Foundations Extension

/-!
# Pairing in order

Events without a request id are paired in the order of arrival: a start event with
the oldest invocation that waits for one, an end event with the oldest end of a
runtime.  The queues are not pruned when a request is reported.  An invocation
without a start event therefore stays at the head of its queue, and the start
event of the next invocation is paired with it.

The pairing is right in every run whose reports find their requests out of both
queues.  The invariant is that the requests in the queues have a context.
-/

/-- An event of the command carries no request id. -/
def Command.unnamed : Command -> Bool
  | universalInstrumentationStart _ requestId => requestId.isNone
  | universalInstrumentationEnd _ requestId => requestId.isNone
  | _ => true

def Command.isInvocation : Command -> Bool
  | invokeEvent _ => true
  | _ => false

def Command.isEnd : Command -> Bool
  | universalInstrumentationEnd _ _ => true
  | _ => false

namespace Tracker

/-- The report of a request finds it in neither queue, and does not file it. -/
structure Dequeued (requestId : String) (metrics : ReportMetrics) (tracker : Tracker) : Prop where
  starts : requestId ∉ tracker.starts.waiting
  ends : requestId ∉ tracker.ends.waiting
  taken : match metrics with
    | .managedInstance _ => requestId ∈ tracker.ids ->
        requestId ∈ tracker.ends.keyed ∨ tracker.ends.queued ≠ []
    | .onDemand _ => True

/-- No context is dropped from a full buffer, and the end of the runtime of a
request is reported while it has a context. -/
def InStep (tracker : Tracker) : Command -> Prop
  | .invokeEvent _ => tracker.ids.length ≠ tracker.capacity
  | .platformRuntimeDone id _ _ _ _ => id ∈ tracker.ids
  | .platformReport id metrics _ _ _ _ => tracker.Dequeued id metrics
  | _ => True

/-- The requests that wait for an event have a context. -/
structure Queued (tracker : Tracker) : Prop where
  ids : tracker.ids.Nodup
  starts : forall requestId, requestId ∈ tracker.starts.waiting -> requestId ∈ tracker.ids
  ends : forall requestId, requestId ∈ tracker.ends.waiting -> requestId ∈ tracker.ids

theorem InStep.hasSpace {tracker : Tracker} {command : Command}
    (inStep : tracker.InStep command) : tracker.HasSpace command := by
  intro id invokes
  subst invokes
  exact inStep

section OnDemand

variable {env : Env} (ambient : Ambient) {tracker : Tracker} {requestId : String} {command : Command}
  (onDemand : env.isManagedInstanceMode = false)

include onDemand

theorem Queued.starts_handle (queued : tracker.Queued) (inStep : tracker.InStep command)
    (waits : requestId ∈ (tracker.handle env ambient command).starts.waiting) :
    requestId ∈ (tracker.handle env ambient command).ids := by
  rcases mem_waiting_handle ambient onDemand waits with waited | invoked
  · refine mem_ids_of_unreported ambient onDemand inStep.hasSpace (queued.starts requestId waited) ?_
    cases command with
    | platformReport =>
      refine beq_eq_false_iff_ne.mpr ?_
      intro own
      subst own
      exact inStep.starts waited
    | _ => rfl
  · subst invoked
    rw [ids_handle ambient tracker onDemand]
    exact List.mem_append_right _ List.mem_cons_self

/-- A request that waits for an end event waited before, or the end of its runtime
is reported. -/
theorem mem_ends_waiting_handle (inStep : tracker.InStep command)
    (waits : requestId ∈ (tracker.handle env ambient command).ends.waiting) :
    command.reports requestId = false ∧
      (requestId ∈ tracker.ends.waiting ∨ requestId ∈ tracker.ids) := by
  rw [ends_handle] at waits
  cases command with
  | platformRuntimeDone id =>
    refine ⟨rfl, ?_⟩
    rcases List.mem_append.mp ((Rendezvous.waiting_opens_sublist _ id _).subset waits) with
      waited | new
    · exact Or.inl waited
    · rw [List.mem_singleton.mp new]
      exact Or.inr inStep
  | platformReport id metrics timestamp status errorType spans =>
    have waited : requestId ≠ id ∧ requestId ∈ tracker.ends.waiting := by
      by_cases own : requestId = id
      · subst own
        refine absurd waits ?_
        cases metrics with
        | onDemand => exact inStep.ends
        | managedInstance metrics =>
          simp only [endsAfter, onDemand, <- mem_ids]
          split
          · rename_i buffered
            exact ((Rendezvous.free_opens_self true requestId _).mpr
              ⟨inStep.ends, Or.inr (inStep.taken buffered)⟩).1
          · exact inStep.ends
      · refine ⟨own, ?_⟩
        cases metrics with
        | onDemand => exact waits
        | managedInstance =>
          simp only [endsAfter] at waits
          split at waits
          · rcases List.mem_append.mp ((Rendezvous.waiting_opens_sublist _ id _).subset waits)
              with waited | new
            · exact waited
            · exact absurd (List.mem_singleton.mp new) own
          · exact waits
    exact ⟨beq_eq_false_iff_ne.mpr (Ne.symm waited.1), Or.inl waited.2⟩
  | universalInstrumentationEnd event id =>
    exact ⟨rfl, Or.inl ((Rendezvous.waiting_arrives_sublist id event _).subset waits)⟩
  | _ => exact ⟨rfl, Or.inl waits⟩

theorem Queued.handle (queued : tracker.Queued) (inStep : tracker.InStep command) :
    (tracker.handle env ambient command).Queued where
  ids := nodup_ids_handle ambient onDemand inStep.hasSpace queued.ids
  starts := fun _ waits => queued.starts_handle ambient onDemand inStep waits
  ends := by
    intro requestId waits
    rcases mem_ends_waiting_handle ambient onDemand inStep waits with ⟨unreported, waited | buffered⟩
    · exact mem_ids_of_unreported ambient onDemand inStep.hasSpace (queued.ends requestId waited)
        unreported
    · exact mem_ids_of_unreported ambient onDemand inStep.hasSpace buffered unreported

/-- An event is processed for a request that has a context, or that is invoked. -/
theorem Queued.startProcessed (queued : tracker.Queued) {processed : Processed}
    (met : tracker.startProcessed env command = some processed) :
    processed.found = true ∧ (processed.requestId ∈ tracker.ids ∨
      command = .invokeEvent processed.requestId) := by
  cases command with
  | invokeEvent =>
    rcases Option.map_eq_some_iff.mp met with ⟨event, _, same⟩
    subst same
    exact ⟨rfl, Or.inr rfl⟩
  | platformStart =>
    simp only [Tracker.startProcessed, onDemand] at met
    cases met
  | universalInstrumentationStart =>
    rcases Option.map_eq_some_iff.mp met with ⟨target, paired, same⟩
    simp only [Tracker.paired, startsAtOnce_onDemand tracker onDemand] at paired
    subst same
    have buffered := queued.starts target (Rendezvous.mem_waiting_of_arrives paired)
    exact ⟨(mem_ids tracker target).mp buffered, Or.inl buffered⟩
  | _ => cases met

omit onDemand in
theorem Queued.endProcessed (queued : tracker.Queued) (inStep : tracker.InStep command)
    {processed : Processed} (met : tracker.endProcessed env command = some processed) :
    processed.found = true ∧ processed.requestId ∈ tracker.ids := by
  cases command with
  | platformRuntimeDone id =>
    rcases Option.map_eq_some_iff.mp met with ⟨event, _, same⟩
    subst same
    exact ⟨(mem_ids tracker id).mp inStep, inStep⟩
  | platformReport id metrics timestamp status errorType spans =>
    cases metrics with
    | onDemand => cases met
    | managedInstance metrics =>
      simp only [Tracker.endProcessed] at met
      split at met
      · rename_i buffered
        rcases Option.map_eq_some_iff.mp met with ⟨event, _, same⟩
        subst same
        exact ⟨rfl, (mem_ids tracker id).mpr buffered⟩
      · cases met
  | universalInstrumentationEnd =>
    rcases Option.map_eq_some_iff.mp met with ⟨target, paired, same⟩
    subst same
    have buffered := queued.ends target (Rendezvous.mem_waiting_of_arrives paired)
    exact ⟨(mem_ids tracker target).mp buffered, buffered⟩
  | _ => cases met

/-- A report takes the context of its request out of the buffer. -/
theorem Queued.released (queued : tracker.Queued) (reports : command.reports requestId = true) :
    requestId ∉ (tracker.handle env ambient command).ids := by
  cases command with
  | platformReport =>
    cases beq_iff_eq.mp reports
    rw [ids_handle ambient tracker onDemand]
    exact queued.ids.not_mem_erase
  | _ => cases reports

/-- Only an invocation brings it back. -/
theorem not_mem_ids_run (inputs : List Processor.Input) (released : requestId ∉ tracker.ids)
    (uninvoked : forall input, input ∈ inputs -> input.command ≠ .invokeEvent requestId) :
    requestId ∉ (inputs.foldl (Tracker.step env) tracker).ids := by
  apply foldl_invariant (fun current : Tracker => requestId ∉ current.ids)
  · intro current input member absent buffered
    rcases mem_ids_handle input.ambient onDemand buffered with old | invoked
    · exact absent old
    · exact uninvoked input member invoked
  · exact released

end OnDemand

end Tracker

/-! ## The processor -/

namespace Processor

variable (env : Env)

/-- The step processes this event. -/
def Pairs (processor : Processor) (input : Input) (processed : Processed) : Prop :=
  (processor.step env input).started = processor.started ++ [processed] ∨
    (processor.step env input).ended = processor.ended ++ [processed]

theorem Pairs.cases {env : Env} {processor : Processor} {input : Input} {processed : Processed}
    (pairs : processor.Pairs env input processed) :
    processor.view.startProcessed env input.command = some processed ∨
      processor.view.endProcessed env input.command = some processed := by
  rcases pairs with started | ended
  · rw [started_step] at started
    exact Or.inl (Option.toList_eq_singleton_iff.mp (List.append_cancel_left started))
  · rw [ended_step] at ended
    exact Or.inr (Option.toList_eq_singleton_iff.mp (List.append_cancel_left ended))

theorem queued_new : Processor.new.view.Queued where
  ids := List.nodup_nil
  starts := fun _ waits => absurd waits List.not_mem_nil
  ends := fun _ waits => absurd waits List.not_mem_nil

variable {env}

theorem queued_run (onDemand : env.isManagedInstanceMode = false) {inputs : List Input}
    (inStep : Machine.Along (Processor.step env)
      (fun processor input => processor.view.InStep input.command) Processor.new inputs) :
    (Processor.new.run env inputs).view.Queued := by
  have stays : forall (processor : Processor) (input : Input), processor.view.Queued ->
      processor.view.InStep input.command -> (processor.step env input).view.Queued := by
    intro processor input queued met
    rw [view_step]
    exact queued.handle input.ambient onDemand met
  have kept := inStep.invariant stays queued_new
  exact kept

/-- In every run whose reports find their requests out of both queues, a start or
end event is processed for a request that has a context, and if the request was
reported before then it was invoked again since. -/
theorem pairs_with_buffered (onDemand : env.isManagedInstanceMode = false) (history : List Input)
    (input : Input)
    (inStep : Machine.Along (Processor.step env)
      (fun processor input => processor.view.InStep input.command) Processor.new
      (history ++ [input]))
    (processed : Processed) (pairs : (Processor.new.run env history).Pairs env input processed) :
    processed.found = true ∧
      forall (before between : List Input) (reporting : Input),
        history = before ++ reporting :: between ->
        reporting.command.reports processed.requestId = true ->
        Exists fun later => later ∈ between ++ [input] ∧
          later.command = .invokeEvent processed.requestId := by
  rcases Machine.along_append.mp inStep with ⟨alongHistory, met, _⟩
  have queued := queued_run onDemand alongHistory
  have paired : processed.found = true ∧
      (processed.requestId ∈ (Processor.new.run env history).view.ids ∨
        input.command = .invokeEvent processed.requestId) := by
    rcases pairs.cases with started | ended
    · exact queued.startProcessed onDemand started
    · rcases queued.endProcessed met ended with ⟨found, buffered⟩
      exact ⟨found, Or.inl buffered⟩
  refine ⟨paired.1, ?_⟩
  intro before between reporting split reports
  rcases paired.2 with buffered | invoked
  · by_contra uninvoked
    subst split
    have earlier := queued_run onDemand (Machine.along_append.mp alongHistory).1
    have released := earlier.released reporting.ambient onDemand reports
    refine absurd buffered ?_
    rw [view_run, List.foldl_append, <- view_run]
    refine Tracker.not_mem_ids_run onDemand between released ?_
    intro later member same
    exact uninvoked ⟨later, List.mem_append_left _ member, same⟩
  · exact ⟨input, List.mem_append_right _ List.mem_cons_self, invoked⟩

/-- A start event without an id is processed for the oldest invocation that waits. -/
theorem pairs_oldest (onDemand : env.isManagedInstanceMode = false) {processor : Processor}
    {requestId : String} {rest : List String} (ambient : Ambient)
    (event : UniversalInstrumentationData)
    (waiting : processor.contextBuffer.invokeEventsRequestIds = requestId :: rest) :
    processor.Pairs env ⟨ambient, .universalInstrumentationStart event none⟩
      ⟨requestId, event, (processor.contextBuffer.get requestId).isSome⟩ := by
  have oldest : (processor.view.starts.arrives none event).1 = some requestId := by
    have head : processor.view.starts.waiting = requestId :: rest := waiting
    simp only [Rendezvous.arrives, Rendezvous.arriveNext, head]
  refine Or.inl ?_
  rw [started_step, get_isSome]
  simp only [Tracker.startProcessed, Tracker.paired,
    Tracker.startsAtOnce_onDemand processor.view onDemand, Option.none_or, oldest, Option.map_some,
    Option.toList_some]

/-- Two traced invocations, one after the other. -/
def tracedInvocations : List Input :=
  [(Command.invokeEvent "r1").still, Command.tracerStart.still, (Command.endOf "5" "6").still,
    (Command.runtimeDoneOf "r1" .success).still, (Command.reportOf "r1").still,
    (Command.invokeEvent "r2").still]

/-- The second start event is processed for the second request. -/
theorem pairs_with_buffered_second :
    ((Processor.new.run (Env.plain false) tracedInvocations).contextBuffer.get
        "r2").isSome = true ∧
      forall (before between : List Input) (reporting : Input),
        tracedInvocations = before ++ reporting :: between ->
        reporting.command.reports "r2" = true ->
        Exists fun later => later ∈ between ++ [Command.tracerStart.still] ∧
          later.command = Command.invokeEvent "r2" := by
  have waiting : (Processor.new.run (Env.plain false)
      tracedInvocations).contextBuffer.invokeEventsRequestIds = ["r2"] := by decide
  refine pairs_with_buffered rfl tracedInvocations Command.tracerStart.still
    ⟨?_, trivial, trivial, ?_, ⟨by decide, by decide, trivial⟩, ?_, trivial, trivial⟩
    _ (pairs_oldest rfl Ambient.still ⟨∅, Value.null⟩ waiting)
  · show List.length _ ≠ _
    decide
  · show "r1" ∈ Tracker.ids _
    decide
  · show List.length _ ≠ _
    decide

/-- The first invocation has no start event.  The start event of the second one is
processed for the first, although that was reported. -/
theorem stale_invocation_paired :
    ¬ forall (env : Env) (history : List Input) (input : Input) (processed : Processed),
      env.isManagedInstanceMode = false ->
      (forall each, each ∈ history ++ [input] -> each.command.unnamed = true) ->
      (history ++ [input]).countP (fun each => each.command.isStart) <=
        history.countP (fun each => each.command.isInvocation) ->
      (history ++ [input]).countP (fun each => each.command.isEnd) <=
        history.countP (fun each => each.command.isInvocation) ->
      (Processor.new.run env history).Pairs env input processed ->
      processed.found = true ∧
        forall (before between : List Input) (reporting : Input),
          history = before ++ reporting :: between ->
          reporting.command.reports processed.requestId = true ->
          Exists fun later => later ∈ between ++ [input] ∧
            later.command = .invokeEvent processed.requestId := by
  intro always
  let history := untracedInvocation "r1" ++ [(Command.invokeEvent "r2").still]
  have waiting : (Processor.new.run (Env.plain false)
      history).contextBuffer.invokeEventsRequestIds = ["r1", "r2"] := by decide
  have paired := always (Env.plain false) history Command.tracerStart.still _ rfl (by decide)
    (by decide) (by decide) (pairs_oldest rfl Ambient.still ⟨∅, .null⟩ waiting)
  exact absurd paired.1 (by decide)

end Processor
end Lifecycle
end Bottlecap
