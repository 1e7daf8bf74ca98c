import Bottlecap.Lifecycle.Routine

namespace Bottlecap
namespace Lifecycle

open Foundations Extension

/-!
# The processor simulates the tracker

`Processor.picture` forgets everything of a processor that the tracker and the gauge
do not record.  The theorems follow the handlers from the inside out: each says what
its function does to the picture, and the last one that a command acts on it as the
tracker handles the command and as the gauge follows.  Results about runs of the two
are results about runs of the processor.
-/

/-! ## What the updates of a context do to its entry -/

namespace Context

variable (env : Env) (ambient : Ambient)

theorem entry_named (requestId : String) (context : Context) :
    Entry.named requestId context.entry = ContextBuffer.named requestId context := rfl

theorem entry_onStart (event : UniversalInstrumentationData) (context : Context) :
    (context.onUniversalInstrumentationStart env ambient event).entry =
      context.entry.onStart env event := by
  unfold onUniversalInstrumentationStart Entry.onStart
  cases extractSpanContext env.libraries env.triggers event.headers event.payloadValue with
  | none =>
    simp only [entry]
    split <;> split <;> rfl
  | some =>
    simp only [entry]
    split <;> split <;> split <;> rfl

theorem entry_onStatusCode (payload : Value) (context : Context) :
    (context.onStatusCode payload).entry = context.entry := by
  unfold onStatusCode
  cases (payload.get "statusCode").bind Value.asI64 <;> rfl

theorem endTraceContext_fst (headers : Tags) (context : Context) :
    (context.endTraceContext headers).1 = context.entry.endTraceId headers := by
  unfold endTraceContext Entry.endTraceId entry
  cases context.extractedSpanContext with
  | none => rfl
  | some spanContext =>
    simp only [Option.map_some, Option.getD_some]
    split
    · rename_i zero
      rw [zero]
    · rfl

theorem entry_onEndHeaders (headers : Tags) (context : Context) :
    (context.onEndHeaders env headers).entry = context.entry.onEnd headers := by
  rcases onSamplingPriority_eq env context headers with ⟨metrics, sampled⟩
  unfold onEndHeaders Entry.onEnd
  rw [<- endTraceContext_fst, sampled]
  simp only [entry]
  split <;> split <;> rfl

theorem entry_onEnd (event : UniversalInstrumentationData) (context : Context) :
    (context.onUniversalInstrumentationEnd env event).entry = context.entry.onEnd event.headers := by
  rcases captureResponse_eq env context event.payloadValue with ⟨tags, captured⟩
  unfold onUniversalInstrumentationEnd
  rw [entry_onEndHeaders, entry_onStatusCode, captured]
  rfl

theorem entry_atPlatformDone (tracerDetected : Bool) (dynamicTags : Tags) (status : Status)
    (context : Context) :
    (context.atPlatformDone env ambient tracerDetected dynamicTags status).entry =
      context.entry.onDone ambient status := by
  unfold atPlatformDone onTimeout Entry.onDone
  by_cases timeout : status = .timeout
  · simp only [timeout, if_true, true_and, entry]
  · simp only [timeout, if_false, false_and, entry]

theorem entry_reparent (info : ReparentingInfo) (context : Context) :
    (context.reparent info).entry = context.entry.reparent info := rfl

theorem entry_complete (context : Context) : context.entry.complete = context.idsComplete := rfl

end Context

namespace Processor

variable (env : Env) (ambient : Ambient)

variable (processor : Processor)

variable (requestId : String)

theorem get_entry :
    (processor.contextBuffer.get requestId).map Context.entry = processor.view.find requestId := by
  unfold ContextBuffer.get Tracker.find view
  rw [List.find?_map]
  rfl

theorem get_isSome :
    (processor.contextBuffer.get requestId).isSome = (processor.view.find requestId).isSome := by
  rw [<- get_entry, Option.isSome_map]

theorem requestId_of_get {requestId : String} {contexts : ContextBuffer} {context : Context}
    (found : contexts.get requestId = some context) : context.requestId = requestId := by
  have matched : ContextBuffer.named requestId context = true := List.find?_some found
  exact eq_of_beq matched

/-! ## Errors -/

/-- An end event of the request would find its context and leave it marked. -/
def endMarks (requestId : String) (event : UniversalInstrumentationData) (processor : Processor) :
    Bool :=
  (processor.contextBuffer.get requestId).any
    (fun context => context.marked || event.reportsError env)

/-- The command reports the end of a runtime that did not succeed. -/
def countsFailure (processor : Processor) : Command -> Bool
  | .platformRuntimeDone _ _ status _ _ => status != .success
  | .platformReport requestId (.managedInstance _) _ status _ _ =>
    (processor.contextBuffer.get requestId).isSome && status != .success
  | _ => false

/-- The command processes an end event that leaves the span of its invocation
marked. -/
def countsMark (processor : Processor) (command : Command) : Bool :=
  (processor.view.endProcessed env command).any
    (fun processed => processor.endMarks env processed.requestId processed.event)

def errorsOf (processor : Processor) (command : Command) : Nat :=
  (processor.countsFailure command).toNat + (processor.countsMark env command).toNat

theorem endMarks_of_contexts {processor later : Processor}
    (same : later.core.contexts = processor.core.contexts) (requestId : String)
    (event : UniversalInstrumentationData) :
    later.endMarks env requestId event = processor.endMarks env requestId event := by
  have seen : forall current : Processor, current.endMarks env requestId event =
      (current.core.contexts.find? (fun context => context.1.named requestId)).any
        (fun context => context.2.2 || event.reportsError env) := by
    intro current
    unfold endMarks core ContextBuffer.get
    rw [List.find?_map, Option.any_map]
    rfl
  rw [seen later, seen processor, same]

theorem errorsOf_of_gauge {processor later : Processor} {change : Gauge -> Gauge}
    (same : later.core = processor.core.onGauge change) (command : Command) :
    later.errorsOf env command = processor.errorsOf env command := by
  have view : later.view = processor.view := congrArg Prod.fst (picture_of_gauge same)
  have contexts : later.core.contexts = processor.core.contexts := by
    rw [same]
    rfl
  have marks := endMarks_of_contexts env contexts
  have failure : later.countsFailure command = processor.countsFailure command := by
    cases command with
    | platformReport requestId metrics =>
      cases metrics with
      | managedInstance => simp only [countsFailure, get_isSome, view]
      | onDemand => rfl
    | _ => rfl
  unfold errorsOf countsMark
  simp only [failure, view, marks]

/-! ## Effects and buffer operations -/

variable {change : Context -> Context}

/-- The log notes a milestone. -/
theorem picture_emit {effect : Effect} {milestone : Milestone}
    (seen : effect.milestone = some milestone) (uncounted : effect.counts = none) :
    (processor.emit effect).picture =
      (processor.picture.1.note milestone, processor.picture.2) := by
  unfold picture
  rw [gauge_emit _ uncounted]
  unfold emit view Tracker.note
  simp only [List.filterMap_append, List.filterMap_cons, seen, List.filterMap_nil]

/-- An update of a context seen through its entry. -/
theorem picture_update {seen : Entry -> Entry}
    (follows : forall context, (change context).entry = seen context.entry) :
    (processor.onContexts (ContextBuffer.update requestId change)).picture =
      (processor.picture.1.update requestId seen, processor.picture.2) := by
  unfold picture onContexts ContextBuffer.update Tracker.update view
  rw [map_modifyFirst_comm Context.entry (Context.entry_named requestId) follows]
  rfl

theorem picture_updateClosest {timestamp : Int}
    (keeps : forall context, (change context).entry = context.entry) :
    (processor.onContexts (ContextBuffer.updateClosest timestamp change)).picture =
      processor.picture := by
  unfold onContexts ContextBuffer.updateClosest
  cases processor.contextBuffer.closestIndex timestamp with
  | none => rfl
  | some => exact picture_buffer (map_modify Context.entry keeps _ _)

theorem map_entry_eraseP (contexts : List Context) :
    (contexts.eraseP (ContextBuffer.named requestId)).map Context.entry =
      (contexts.map Context.entry).eraseP (Entry.named requestId) := by
  rw [List.eraseP_map]
  rfl

theorem picture_insert (context : Context) :
    (processor.onContexts (ContextBuffer.insert context)).picture =
      (processor.picture.1.insert context.entry, processor.picture.2) := by
  have erased := map_entry_eraseP context.requestId processor.contextBuffer.buffer
  unfold picture onContexts ContextBuffer.insert Tracker.insert ContextBuffer.size view
  simp only [List.length_map]
  split
  · simp only [List.map_append, List.map_tail, List.map_cons, List.map_nil]
    rfl
  · cases found : processor.contextBuffer.get context.requestId with
    | some =>
      simp only [Option.isSome_some, if_true, ContextBuffer.remove, List.map_append, erased]
      rfl
    | none =>
      have absent : processor.contextBuffer.buffer.eraseP
          (ContextBuffer.named context.requestId) = processor.contextBuffer.buffer := by
        apply List.eraseP_of_forall_not
        intro other member
        exact List.find?_eq_none.mp found other member
      rw [absent] at erased
      have named : context.entry.requestId = context.requestId := rfl
      simp only [List.map_append, named, <- erased]
      rfl

/-! ## Start and end events -/

theorem picture_recordDsm (payload : Value) :
    (processor.recordDsmConsumeFromPayload env requestId payload).picture =
      (processor.picture.1.recordDsm env requestId, processor.picture.2) := by
  unfold recordDsmConsumeFromPayload Tracker.recordDsm
  cases env.dsmEnabled with
  | false => rfl
  | true =>
    by_cases seen : requestId ∈ processor.dsmProcessedRequestIds
    · rw [if_pos seen]
      change processor.picture = ({ processor.view with
        dsm := Insert.insert requestId processor.dsmProcessedRequestIds }, processor.gauge)
      rw [Finset.insert_eq_of_mem seen]
      rfl
    · rw [if_neg seen]
      exact picture_of_core (core_recordCheckpoints _ _)

variable (event : UniversalInstrumentationData)

theorem picture_processStart :
    (processor.processOnUniversalInstrumentationStart env ambient requestId event).picture =
      (processor.view.processStart env requestId event, processor.gauge) := by
  unfold processOnUniversalInstrumentationStart Tracker.processStart
  rw [<- get_entry]
  cases processor.contextBuffer.get requestId with
  | none => exact picture_emit processor rfl rfl
  | some =>
    rw [picture_recordDsm, picture_emit _ rfl rfl,
      picture_update _ requestId (Context.entry_onStart env ambient event)]
    rfl

theorem picture_processEnd :
    (processor.processOnUniversalInstrumentationEnd env ambient requestId event).picture =
      (processor.view.processEnd requestId event,
        processor.gauge.addErrors (processor.endMarks env requestId event).toNat) := by
  unfold processOnUniversalInstrumentationEnd Tracker.processEnd endMarks
  rw [<- get_entry]
  cases processor.contextBuffer.get requestId with
  | none => exact picture_emit processor rfl rfl
  | some context =>
    have processed := picture_emit (processor.onContexts (ContextBuffer.update requestId
        (Context.onUniversalInstrumentationEnd env event)))
      (rfl : (Effect.processedEnd requestId event true).milestone = _) rfl
    rw [picture_update _ requestId (Context.entry_onEnd env event)] at processed
    simp only [Option.any_some]
    rw [<- Context.marked_onUniversalInstrumentationEnd]
    by_cases failed : (context.onUniversalInstrumentationEnd env event).invocationSpan.error = 1
    · rw [if_pos failed, Context.marked, beq_iff_eq.mpr failed,
        picture_of_gauge (core_emit_error _ _), processed]
      rfl
    · rw [if_neg failed, Context.marked, beq_eq_false_iff_ne.mpr failed]
      exact processed

theorem view_starts :
    processor.view.starts = processor.contextBuffer.starts := rfl

theorem view_ends :
    processor.view.ends = processor.contextBuffer.ends := rfl

theorem view_startsAtOnce (id : String) :
    processor.view.startsAtOnce env (some id) =
      if env.isManagedInstanceMode = true ∧ (processor.contextBuffer.get id).isSome = true
      then some id else none := by
  unfold Tracker.startsAtOnce
  rw [Option.filter_some, <- get_isSome]
  simp only [Bool.and_eq_true]

/-- A start event is processed for the request that it is paired with, if any. -/
theorem onUniversalInstrumentationStart_eq (requestId : Option String) :
    processor.onUniversalInstrumentationStart env ambient event requestId =
      let command := .universalInstrumentationStart event requestId
      let met := { processor with
        tracerDetected := true
        contextBuffer :=
          processor.contextBuffer.setStarts (processor.view.startsAfter env command) }
      (processor.view.paired env command).elim met (fun id =>
        met.processOnUniversalInstrumentationStart env ambient id event) := by
  unfold onUniversalInstrumentationStart Tracker.paired Tracker.startsAfter
  cases requestId with
  | none =>
    simp only [Rendezvous.arrives, view_starts,
      ContextBuffer.pairUniversalInstrumentationStartEvent]
    cases (processor.contextBuffer.starts.arriveNext event).1 <;> rfl
  | some id =>
    simp only [view_startsAtOnce]
    by_cases direct : env.isManagedInstanceMode = true ∧
        (processor.contextBuffer.get id).isSome = true
    · simp only [if_pos direct]
      rfl
    · simp only [if_neg direct, Option.none_or, Option.isSome_none, Bool.false_eq_true, if_false,
        Rendezvous.arrives, view_starts,
        ContextBuffer.pairUniversalInstrumentationStartWithRequestId]
      by_cases met : (processor.contextBuffer.starts.arriveFor id event).1 = true
      · simp only [met, if_true]
        rfl
      · simp only [met, Bool.false_eq_true, if_false]
        rfl

/-- So is an end event. -/
theorem onUniversalInstrumentationEnd_eq (requestId : Option String) :
    processor.onUniversalInstrumentationEnd env ambient event requestId =
      let command := .universalInstrumentationEnd event requestId
      let met := { processor with
        contextBuffer := processor.contextBuffer.setEnds (processor.view.endsAfter env command) }
      (processor.view.paired env command).elim met (fun id =>
        met.processOnUniversalInstrumentationEnd env ambient id event) := by
  unfold onUniversalInstrumentationEnd Tracker.paired Tracker.endsAfter
  cases requestId with
  | none =>
    simp only [Rendezvous.arrives, view_ends, ContextBuffer.pairUniversalInstrumentationEndEvent]
    cases (processor.contextBuffer.ends.arriveNext event).1 <;> rfl
  | some id =>
    simp only [Rendezvous.arrives, view_ends,
      ContextBuffer.pairUniversalInstrumentationEndWithRequestId]
    by_cases met : (processor.contextBuffer.ends.arriveFor id event).1 = true
    · simp only [met, if_true]
      rfl
    · simp only [met, Bool.false_eq_true, if_false]
      rfl

theorem picture_onUniversalInstrumentationStart (requestId : Option String) :
    (processor.onUniversalInstrumentationStart env ambient event requestId).picture =
      (processor.view.start env event requestId, processor.gauge) := by
  rw [onUniversalInstrumentationStart_eq, Tracker.start_eq]
  simp only
  cases processor.view.paired env (.universalInstrumentationStart event requestId) with
  | none => rfl
  | some id => exact picture_processStart env ambient _ id event

theorem picture_onUniversalInstrumentationEnd (requestId : Option String) :
    (processor.onUniversalInstrumentationEnd env ambient event requestId).picture =
      (processor.view.finish event requestId, processor.gauge.addErrors (processor.errorsOf env
        (.universalInstrumentationEnd event requestId))) := by
  rw [onUniversalInstrumentationEnd_eq, Tracker.finish_eq env]
  unfold errorsOf countsFailure countsMark Tracker.endProcessed
  simp only [Bool.toNat_false, Nat.zero_add]
  cases processor.view.paired env (.universalInstrumentationEnd event requestId) with
  | none => rfl
  | some id => exact picture_processEnd env ambient _ id event

/-! ## Invocations -/

theorem picture_startInvocation :
    (processor.startInvocation env ambient requestId).picture =
      (processor.picture.1.insert { requestId := requestId }, processor.picture.2) := by
  unfold startInvocation ContextBuffer.startContext
  rw [picture_insert, picture_of_core (core_setInitTags env ambient processor)]
  rfl

theorem picture_enterInvocation :
    (processor.enterInvocation env ambient requestId).picture =
      (processor.view.enter env requestId, processor.gauge) := by
  unfold enterInvocation Tracker.enter
  by_cases awaiting : env.isManagedInstanceMode = true ∧ processor.awaitingFirstInvocation = true
  · have awaitingView : env.isManagedInstanceMode = true ∧
        processor.view.awaitingFirstInvocation = true := awaiting
    have entered : forall {current : Processor} {seen : Tracker × Gauge}, current.picture = seen ->
        ({ current with awaitingFirstInvocation := false } : Processor).picture =
          ({ seen.1 with awaitingFirstInvocation := false }, seen.2) :=
      fun same => congrArg (fun seen : Tracker × Gauge =>
        ({ seen.1 with awaitingFirstInvocation := false }, seen.2)) same
    rw [if_pos awaiting, if_pos awaitingView]
    simp only [ContextBuffer.updateEmptyContextRequestId, get_isSome]
    split
    · let rename := fun context : Context => { context with
        requestId := requestId
        invocationSpan := ContextBuffer.setRequestIdTag requestId context.invocationSpan }
      have follows : forall context, (rename context).entry =
          { context.entry with requestId := requestId } := fun context => rfl
      exact entered (picture_update processor "" follows)
    · exact entered (picture_startInvocation env ambient processor requestId)
  · have awaitingView : ¬ (env.isManagedInstanceMode = true ∧
        processor.view.awaitingFirstInvocation = true) := awaiting
    rw [if_neg awaiting, if_neg awaitingView]
    exact picture_startInvocation env ambient processor requestId

/-- An invocation takes the start event that was filed for it, or else the first one
in the queue, and processes it. -/
theorem pairInvocation_eq :
    processor.pairInvocation env ambient requestId =
      let opened := processor.contextBuffer.starts.opens (!env.isManagedInstanceMode) requestId
      let met := { processor with contextBuffer := processor.contextBuffer.setStarts opened.2 }
      opened.1.elim met (fun event =>
        met.processOnUniversalInstrumentationStart env ambient requestId event) := by
  unfold pairInvocation
  simp only [ContextBuffer.takeUniversalInstrumentationStartForRequestId,
    ContextBuffer.pairInvokeEvent]
  rcases Option.eq_none_or_eq_some (processor.contextBuffer.starts.takeFor requestId).1 with
    unnamed | ⟨event, named⟩
  · simp only [unnamed]
    by_cases managed : env.isManagedInstanceMode = true
    · simp only [managed, if_true, Bool.not_true, Rendezvous.opens_false, unnamed]
      rfl
    · simp only [managed, Bool.false_eq_true, if_false, Bool.not_false,
        Rendezvous.opens_inOrder_of_unnamed unnamed, ContextBuffer.starts_setStarts]
      cases ((processor.contextBuffer.starts.takeFor requestId).2.openNext requestId).1 <;> rfl
  · simp only [Rendezvous.opens_of_named named, named]
    rfl

theorem picture_pairInvocation :
    (processor.pairInvocation env ambient requestId).picture =
      (processor.picture.1.pairStart env requestId, processor.picture.2) := by
  change _ = (processor.view.pairStart env requestId, processor.gauge)
  rw [pairInvocation_eq]
  unfold Tracker.pairStart
  simp only [view_starts]
  cases (processor.contextBuffer.starts.opens (!env.isManagedInstanceMode) requestId).1 with
  | none => rfl
  | some event => exact picture_processStart env ambient _ requestId event

theorem picture_onInvokeEvent :
    (processor.onInvokeEvent env ambient requestId).picture =
      (processor.view.invoke env requestId,
        { processor.gauge with usage := processor.gauge.usage.invoke env }.countInvocation
          env.isManagedInstanceMode ambient.unixSeconds) := by
  unfold onInvokeEvent Tracker.invoke
  rw [picture_pairInvocation, picture_of_gauge (core_countInvocation env ambient _),
    picture_of_gauge (core_monitorUsage env ambient _ requestId), picture_enterInvocation]

theorem picture_onPlatformInitStart (time : DateTime) (runtimeVersion : Option String) :
    (processor.onPlatformInitStart env ambient time runtimeVersion).picture =
      (processor.view.handle env ambient (.platformInitStart time runtimeVersion),
        processor.gauge.seeInitStart.flushPending) := by
  unfold onPlatformInitStart Tracker.handle
  have begun := picture_of_gauge (core_beginInit processor runtimeVersion)
  by_cases managed : env.isManagedInstanceMode = true
  · simp only [managed, if_true]
    exact congrArg (fun seen : Tracker × Gauge => ({ seen.1 with
      awaitingFirstInvocation := true }, seen.2)) ((picture_startInvocation env ambient _ "").trans
        (congrArg (fun seen => (seen.1.insert { requestId := "" }, seen.2)) begun))
  · simp only [managed, Bool.false_eq_true, if_false]
    refine (picture_updateClosest _ ?_).trans begun
    intro context
    rfl

theorem picture_onPlatformRestoreStart (time : DateTime) :
    (processor.onPlatformRestoreStart env ambient time).picture = processor.picture := by
  refine (picture_updateClosest _ ?_).trans rfl
  intro context
  rfl

theorem picture_onPlatformStart (time : DateTime) :
    (processor.onPlatformStart env ambient requestId time).picture =
      (processor.view.handle env ambient (.platformStart requestId time),
        processor.gauge.after env ambient 0 (.platformStart requestId time)) := by
  unfold onPlatformStart Tracker.handle Gauge.after Usage.after
  simp only
  rw [picture_of_core (core_addStartTime _ requestId (startTimeOf time))]
  by_cases managed : env.isManagedInstanceMode = true
  · simp only [if_pos managed]
    rw [picture_onInvokeEvent, managed]
  · simp only [if_neg managed]
    rfl

/-! ## The end of a runtime -/

/-- The end of a runtime does so with the end events. -/
theorem pairRuntimeDone_eq :
    processor.pairRuntimeDone env ambient requestId =
      let opened := processor.contextBuffer.ends.opens (!env.isManagedInstanceMode) requestId
      let met := { processor with contextBuffer := processor.contextBuffer.setEnds opened.2 }
      opened.1.elim met (fun event =>
        met.processOnUniversalInstrumentationEnd env ambient requestId event) := by
  unfold pairRuntimeDone
  simp only [ContextBuffer.takeUniversalInstrumentationEndForRequestId,
    ContextBuffer.pairPlatformRuntimeDoneEvent]
  rcases Option.eq_none_or_eq_some (processor.contextBuffer.ends.takeFor requestId).1 with
    unnamed | ⟨event, named⟩
  · simp only [unnamed]
    by_cases managed : env.isManagedInstanceMode = true
    · simp only [managed, if_true, Bool.not_true, Rendezvous.opens_false, unnamed]
      rfl
    · simp only [managed, Bool.false_eq_true, if_false, Bool.not_false,
        Rendezvous.opens_inOrder_of_unnamed unnamed, ContextBuffer.ends_setEnds]
      cases ((processor.contextBuffer.ends.takeFor requestId).2.openNext requestId).1 <;> rfl
  · simp only [Rendezvous.opens_of_named named, named]
    rfl

theorem picture_pairRuntimeDone :
    (processor.pairRuntimeDone env ambient requestId).picture =
      (processor.picture.1.pairEnd env requestId, processor.picture.2.addErrors
        ((processor.picture.1.ends.opens (!env.isManagedInstanceMode) requestId).1.any
          (fun event => processor.endMarks env requestId event)).toNat) := by
  change _ = (processor.view.pairEnd env requestId, processor.gauge.addErrors
    ((processor.contextBuffer.ends.opens (!env.isManagedInstanceMode) requestId).1.any
      (fun event => processor.endMarks env requestId event)).toNat)
  rw [pairRuntimeDone_eq]
  unfold Tracker.pairEnd
  simp only [view_ends]
  cases (processor.contextBuffer.ends.opens (!env.isManagedInstanceMode) requestId).1 with
  | none => rfl
  | some event => exact picture_processEnd env ambient _ requestId event

theorem enrich_fst (status : Status) :
    (processor.enrichCtxAtPlatformDone env ambient requestId status).1 =
      (processor.contextBuffer.get requestId).map (Context.atPlatformDone env ambient
        processor.tracerDetected processor.dynamicTags status) := by
  unfold enrichCtxAtPlatformDone
  cases processor.contextBuffer.get requestId <;> rfl

theorem picture_enrich (status : Status) :
    (processor.enrichCtxAtPlatformDone env ambient requestId status).2.picture =
      (processor.view.update requestId (Entry.onDone ambient status), processor.gauge) := by
  unfold enrichCtxAtPlatformDone
  cases found : processor.contextBuffer.get requestId with
  | none =>
    have missing : processor.view.find requestId = none := by
      rw [<- get_entry, found, Option.map_none]
    rw [Tracker.update_of_missing _ missing]
    rfl
  | some context =>
    exact (picture_of_core (core_reportCpuUtilization _ _)).trans
      (picture_update processor requestId (Context.entry_atPlatformDone env ambient processor.tracerDetected
        processor.dynamicTags status))

theorem picture_processOnPlatformRuntimeDone (status : Status) :
    (processor.processOnPlatformRuntimeDone env ambient requestId status).picture =
      (processor.picture.1.settle ambient requestId status, processor.picture.2) := by
  change _ = (processor.view.settle ambient requestId status, processor.gauge)
  have enriched := picture_enrich env ambient processor requestId status
  have detected : (processor.enrichCtxAtPlatformDone env ambient requestId status
      ).2.tracerDetected = processor.tracerDetected :=
    congrArg (fun seen => seen.1.tracerDetected) enriched
  have traced : processor.view.tracerDetected = processor.tracerDetected := rfl
  rw [Tracker.settle_eq, traced]
  unfold processOnPlatformRuntimeDone Tracker.handOver
  simp only [detected, enrich_fst]
  rw [<- get_entry]
  cases found : processor.contextBuffer.get requestId with
  | none =>
    simp only [Option.map_none, Option.any_none, Bool.false_eq_true, if_false, List.append_nil]
    split
    · exact enriched
    · exact (picture_of_core (core_sendColdStartSpan _)).trans enriched
  | some context =>
    have follows := Context.entry_atPlatformDone env ambient processor.tracerDetected
      processor.dynamicTags status context
    have complete : (context.atPlatformDone env ambient processor.tracerDetected
        processor.dynamicTags status).idsComplete =
        (context.entry.onDone ambient status).complete := by
      rw [<- Context.entry_complete, follows]
    have named : (context.atPlatformDone env ambient processor.tracerDetected
        processor.dynamicTags status).requestId = requestId := by
      rw [<- requestId_of_get found]
      exact congrArg Entry.requestId follows
    simp only [Option.map_some, Option.any_some, complete]
    generalize context.atPlatformDone env ambient processor.tracerDetected processor.dynamicTags
      status = handed at named ⊢
    cases processor.tracerDetected with
    | false =>
      simp only [Bool.false_eq_true, if_false, Bool.false_and, List.append_nil]
      exact (picture_of_core (core_sendColdStartSpan _)).trans enriched
    | true =>
      simp only [if_true, Bool.true_and]
      split
      · unfold sendCtxSpans sendSpans
        rw [picture_emit _ rfl rfl, picture_emit _ rfl rfl, enriched, named]
        simp only [Tracker.note, List.append_assoc]
        rfl
      · rw [List.append_nil]
        exact enriched

theorem picture_onPlatformRuntimeDone (metrics : RuntimeDoneMetrics)
    (status : Status) (errorType : Option String) (timestamp : Int) :
    (processor.onPlatformRuntimeDone env ambient requestId metrics status errorType
      timestamp).picture = (processor.view.runtimeDone env ambient requestId status,
        processor.gauge.addErrors (processor.errorsOf env
          (.platformRuntimeDone requestId metrics status errorType timestamp))) := by
  have measured := core_measureRuntimeDone env processor requestId metrics status errorType timestamp
  have contexts : (processor.measureRuntimeDone env requestId metrics status errorType timestamp
      ).core.contexts = processor.core.contexts := by
    rw [measured]
    rfl
  unfold onPlatformRuntimeDone Tracker.runtimeDone errorsOf countsFailure countsMark
    Tracker.endProcessed
  rw [picture_processOnPlatformRuntimeDone, picture_pairRuntimeDone, picture_of_gauge measured]
  simp only [endMarks_of_contexts env contexts, Option.any_map, Gauge.addErrors, <- Nat.add_assoc]
  rfl

theorem picture_releaseInvocationContext :
    (processor.releaseInvocationContext requestId).picture =
      (processor.picture.1.release requestId, processor.picture.2.release requestId) := by
  unfold picture releaseInvocationContext ContextBuffer.remove Tracker.release view
  simp only [map_entry_eraseP, List.filter_map]
  rfl

/-- Before it looks for the context, the handler pauses the usage monitoring. -/
theorem handleManagedInstanceReport_eq (metrics : ManagedInstanceReportMetrics)
    (timestamp : Int) (status : Status) (errorType : Option String)
    (spans : Option (List TelemetrySpan)) :
    Exists fun paused : Processor => paused.core = processor.core.onGauge (fun gauge =>
        { gauge with usage := gauge.usage.report (.managedInstance metrics) }) ∧
      processor.handleManagedInstanceReport env ambient requestId metrics timestamp status errorType
        spans =
        if (paused.contextBuffer.get requestId).isSome then
          paused.onPlatformRuntimeDone env ambient requestId (synthesizedMetrics metrics spans)
            status errorType timestamp
        else paused := by
  refine ⟨_, ?_, rfl⟩
  rcases processor with ⟨_, _, _, _, active⟩
  rcases active with _ | _ | _
  · exact core_emit_silent rfl _
  · exact core_emit_silent rfl _
  · rfl

theorem picture_handleManagedInstanceReport (metrics : ManagedInstanceReportMetrics)
    (timestamp : Int) (status : Status)
    (errorType : Option String) (spans : Option (List TelemetrySpan)) :
    (processor.handleManagedInstanceReport env ambient requestId metrics timestamp status errorType
      spans).picture =
      (if (processor.picture.1.find requestId).isSome then
        processor.picture.1.runtimeDone env ambient requestId status else processor.picture.1,
        { processor.picture.2 with usage := processor.picture.2.usage.report (.managedInstance
          metrics) }.addErrors (processor.errorsOf env (.platformReport requestId
            (.managedInstance metrics) timestamp status errorType spans))) := by
  rcases handleManagedInstanceReport_eq env ambient processor requestId metrics timestamp status
    errorType spans with ⟨paused, same, handled⟩
  have seen : (paused.view, paused.gauge) = (processor.view, { processor.gauge with
      usage := processor.gauge.usage.report (.managedInstance metrics) }) := picture_of_gauge same
  rw [Prod.mk.injEq] at seen
  rw [handled, <- errorsOf_of_gauge env same]
  unfold errorsOf countsFailure countsMark Tracker.endProcessed
  simp only [get_isSome, picture, <- seen.1, <- seen.2]
  by_cases found : (paused.view.find requestId).isSome = true
  · simp only [found, if_true, Bool.true_and]
    refine (picture_onPlatformRuntimeDone env ambient paused requestId _ status errorType
      timestamp).trans ?_
    unfold errorsOf countsFailure countsMark Tracker.endProcessed
    simp only [Option.any_map]
  · simp only [found, Bool.false_and]
    rfl

theorem picture_onPlatformReport (metrics : ReportMetrics) (timestamp : Int)
    (status : Status) (errorType : Option String) (spans : Option (List TelemetrySpan)) :
    (processor.onPlatformReport env ambient requestId metrics timestamp status errorType
      spans).picture = (processor.view.report env ambient requestId metrics status,
        processor.gauge.after env ambient (processor.errorsOf env (.platformReport requestId
          metrics timestamp status errorType spans)) (.platformReport requestId metrics timestamp
            status errorType spans)) := by
  have measured := core_emit (⟨rfl, rfl⟩ : (Effect.setReportLogMetrics metrics timestamp).Quiet)
    processor
  unfold onPlatformReport Tracker.report
  rw [picture_releaseInvocationContext, picture_of_core (core_reportUsage _ requestId)]
  cases metrics with
  | onDemand metrics =>
    rw [picture_of_core (core_handleOndemandReport _ requestId metrics timestamp),
      picture_of_core measured]
    rfl
  | managedInstance =>
    rw [picture_handleManagedInstanceReport, picture_of_core measured]
    rfl

/-! ## Reparenting -/

theorem picture_addReparenting (spanId parentId : UInt64) :
    (processor.addReparenting requestId spanId parentId).picture =
      (processor.view.addReparenting requestId,
        processor.gauge.addInfo (Gauge.waitingInfo requestId spanId parentId)) := by
  have listed : processor.contextBuffer.sortedReparentingInfo.any
      (fun info => info.requestId == requestId) = true <->
        requestId ∈ processor.view.reparenting := Gauge.mem_of_listed
  have same : Gauge.listed (Gauge.waitingInfo requestId spanId parentId).requestId
      processor.gauge.infos = processor.contextBuffer.sortedReparentingInfo.any
        (fun info => info.requestId == requestId) := rfl
  unfold addReparenting onContexts Tracker.addReparenting Gauge.addInfo
  rw [same]
  by_cases known : requestId ∈ processor.view.reparenting
  · simp only [if_pos (listed.mpr known), if_pos known]
    rfl
  · simp only [if_neg (fun any => known (listed.mp any)), if_neg known]
    unfold picture view gauge
    simp only [List.length_map]
    split <;> simp only [List.map_append, List.map_cons, List.map_nil, List.map_tail] <;> rfl

theorem picture_updateReparentingEntry (info : ReparentingInfo) :
    (processor.updateReparentingEntry info).picture =
      (processor.picture.1.reparent info, processor.picture.2.refresh info) := by
  unfold updateReparentingEntry
  rw [picture_of_gauge (core_refreshInfo _ info)]
  refine congrArg (fun seen : Tracker × Gauge => (seen.1, seen.2.refresh info))
    (show _ = (processor.view.reparent info, processor.gauge) from ?_)
  unfold Tracker.reparent
  rw [<- get_entry]
  cases found : processor.contextBuffer.get info.requestId with
  | none => rfl
  | some context =>
    have updated := picture_update processor info.requestId (Context.entry_reparent info)
    have named : (context.reparent info).requestId = info.requestId := by
      change context.requestId = info.requestId
      exact requestId_of_get found
    simp only [Option.map_some]
    by_cases ready : context.entry.complete = false ∧
        (context.entry.reparent info).complete = true ∧ context.entry.runtimeDone = true
    · rw [if_pos ready]
      refine (congrArg picture (if_pos ready)).trans ?_
      rw [picture_emit _ rfl rfl, updated, named]
      rfl
    · rw [if_neg ready]
      exact (congrArg picture (if_neg ready)).trans updated

theorem gauge_updateReparentingEntry (info : ReparentingInfo) :
    (processor.updateReparentingEntry info).gauge = processor.gauge.refresh info :=
  congrArg Prod.snd (picture_updateReparentingEntry processor info)

/-- Every command acts on the view as the tracker handles it, and the gauge follows. -/
theorem picture_handle (command : Command) :
    (processor.handle env ambient command).picture = (processor.view.handle env ambient command,
      processor.gauge.after env ambient (processor.errorsOf env command) command) := by
  cases command with
  | invokeEvent requestId => exact picture_onInvokeEvent env ambient processor requestId
  | platformInitStart time version =>
    exact picture_onPlatformInitStart env ambient processor time version
  | platformInitReport initType durationMs timestamp =>
    exact picture_of_core (core_onPlatformInitReport env processor initType durationMs timestamp)
  | platformRestoreStart time => exact picture_onPlatformRestoreStart env ambient processor time
  | platformRestoreReport durationMs timestamp =>
    exact picture_of_core (core_onPlatformRestoreReport processor durationMs timestamp)
  | platformStart requestId time =>
    exact picture_onPlatformStart env ambient processor requestId time
  | platformRuntimeDone requestId metrics status errorType timestamp =>
    exact picture_onPlatformRuntimeDone env ambient processor requestId metrics status errorType timestamp
  | platformReport requestId metrics timestamp status errorType spans =>
    exact picture_onPlatformReport env ambient processor requestId metrics timestamp status errorType spans
  | universalInstrumentationStart event requestId =>
    exact picture_onUniversalInstrumentationStart env ambient processor event requestId
  | recordDsmConsumeFromPayload requestId payload =>
    exact picture_recordDsm env processor requestId payload
  | universalInstrumentationEnd event requestId =>
    exact picture_onUniversalInstrumentationEnd env ambient processor event requestId
  | addReparenting requestId spanId parentId =>
    exact picture_addReparenting processor requestId spanId parentId
  | updateReparenting infos =>
    have viewed : forall (current : Processor) (info : ReparentingInfo),
        (current.updateReparentingEntry info).view = current.view.reparent info :=
      fun current info => congrArg Prod.fst (picture_updateReparentingEntry current info)
    exact Prod.ext (Machine.view_foldl viewed processor infos)
      (Machine.view_foldl gauge_updateReparentingEntry processor infos)
  | setColdStartSpanTraceId =>
    refine (picture_of_core (core_emit ⟨rfl, rfl⟩ _)).trans
      (picture_buffer (map_modifyFirst Context.entry ?_ _))
    intro context _
    rfl
  | addTracerSpan span clientComputedStats =>
    exact picture_of_core (core_addTracerSpan processor span clientComputedStats)
  | onOutOfMemoryError requestId timestamp =>
    exact picture_of_core (core_tryIncrementOomMetric processor requestId timestamp)
  | sendCtxSpans => exact picture_emit processor rfl rfl
  | onShutdownEvent => exact picture_of_gauge (core_onShutdownEvent env ambient processor)
  | _ => exact picture_of_core (core_emit ⟨rfl, rfl⟩ processor)

theorem view_step (input : Input) :
    (processor.step env input).view =
      processor.view.handle env input.ambient input.command :=
  congrArg Prod.fst (picture_handle env input.ambient processor input.command)

theorem gauge_step (input : Input) :
    (processor.step env input).gauge =
      processor.gauge.after env input.ambient (processor.errorsOf env input.command)
        input.command :=
  congrArg Prod.snd (picture_handle env input.ambient processor input.command)

theorem view_run (inputs : List Input) :
    (processor.run env inputs).view = inputs.foldl (Tracker.step env) processor.view :=
  Machine.view_foldl (view_step env) processor inputs

/-- The milestones of a whole run are those of the tracker. -/
theorem milestones_run (inputs : List Input) :
    (Processor.new.run env inputs).effects.filterMap Effect.milestone =
      (inputs.foldl (Tracker.step env) Processor.new.view).log :=
  congrArg Tracker.log (view_run env Processor.new inputs)

end Processor
end Lifecycle
end Bottlecap
