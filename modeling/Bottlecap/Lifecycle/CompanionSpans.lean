import Bottlecap.Lifecycle.RequestLife

namespace Bottlecap
namespace Lifecycle

open Foundations Extension

/-!
# The trace of the companion spans

Together with the invocation span a context sends its companions: the inferred
span, the span wrapped in it, and the span of the SnapStart restore or else of the
cold start.  They take the trace id of the invocation span when the end of the
runtime is reported, and at no other time.

A context is aligned if its companions are in the trace of the invocation span
whenever the runtime is over and that trace is known.  The steps that keep all
contexts aligned are those that leave a finished context alone, and under them
every context handed over is in a single trace.
-/

namespace TraceView

def companions (view : TraceView) : List UInt64 :=
  view.inferred.toList ++ view.wrapped.toList ++ (view.snapstartRestore.or view.coldStart).toList

theorem mem_companions {view : TraceView} {id : UInt64} :
    id ∈ view.companions <->
      view.inferred = some id ∨ view.wrapped = some id ∨
        view.snapstartRestore.or view.coldStart = some id := by
  unfold companions
  rw [List.mem_append, List.mem_append, Option.mem_toList, Option.mem_toList, Option.mem_toList,
    or_assoc]

structure Aligned (view : TraceView) : Prop where
  wraps : view.inferred = none -> view.wrapped = none
  shared : view.runtimeDone = true -> view.invocation ≠ 0 ->
    forall id, id ∈ view.companions -> id = view.invocation

theorem aligned_of_unfinished {view : TraceView} (wraps : view.inferred = none -> view.wrapped = none)
    (unfinished : view.runtimeDone = false) : view.Aligned := by
  refine ⟨wraps, ?_⟩
  intro done
  rw [unfinished] at done
  cases done

end TraceView

namespace Context

variable (env : Env) (ambient : Ambient)

/-- All spans of the context are in one trace. -/
structure SameTrace (context : Context) : Prop where
  known : context.invocationSpan.traceId ≠ 0
  shared : forall span, span ∈ context.getCtxSpans ->
    span.traceId = context.invocationSpan.traceId

variable {config : InferrerConfig} {data : InferredSpanData}

theorem traceIds_getCtxSpans (context : Context) :
    context.getCtxSpans.map Span.traceId =
      context.traceView.invocation :: context.traceView.companions := by
  unfold getCtxSpans traceView TraceView.companions
  cases context.inferred.inferredSpan <;> cases context.inferred.wrappedInferredSpan <;>
    cases context.snapstartRestoreSpan <;> cases context.coldStartSpan <;> rfl

theorem sameTrace_of_companions {context : Context} (known : context.invocationSpan.traceId ≠ 0)
    (shared : forall id, id ∈ context.traceView.companions -> id = context.traceView.invocation) :
    context.SameTrace := by
  refine ⟨known, ?_⟩
  intro span member
  have listed : span.traceId ∈ context.getCtxSpans.map Span.traceId :=
    List.mem_map.mpr ⟨span, member, rfl⟩
  rw [traceIds_getCtxSpans] at listed
  rcases List.mem_cons.mp listed with same | companion
  · exact same
  · exact shared span.traceId companion

/-- A wrapped span comes with an inferred one. -/
def Wraps (context : Context) : Prop :=
  context.inferred.inferredSpan = none -> context.inferred.wrappedInferredSpan = none

theorem wraps_traceView (context : Context) :
    (context.traceView.inferred = none -> context.traceView.wrapped = none) <-> context.Wraps := by
  unfold traceView Wraps
  simp only [Option.map_eq_none_iff]

theorem wrappedTrigger_of_skip {identified : IdentifiedTrigger}
    (skipped : identified.shouldSkipInferredSpan = true) (triggers : Triggers) :
    identified.wrappedTrigger triggers = none := by
  cases identified with
  | sqsRecord | snsRecord => cases skipped
  | _ => rfl

theorem inferSpan_wraps (inferredSpanId wrappedSpanId : UInt64) (payload : Value)
    (absent : (inferSpan env.libraries env.triggers env.inferrer inferredSpanId wrappedSpanId
      payload).inferredSpan = none) :
    (inferSpan env.libraries env.triggers env.inferrer inferredSpanId wrappedSpanId payload
      ).wrappedInferredSpan = none := by
  unfold inferSpan at absent ⊢
  generalize env.triggers.fromValue payload = identified at absent ⊢
  cases kind : identified.getTriggerType with
  | none => simp only [kind]
  | some =>
    simp only [kind] at absent ⊢
    by_cases skipped : identified.shouldSkipInferredSpan = true
    · simp only [getWrappedInferredSpan, wrappedTrigger_of_skip skipped]
    · rw [if_neg skipped] at absent
      cases absent

variable (event : UniversalInstrumentationData)

theorem wraps_onStart (context : Context) :
    (context.onUniversalInstrumentationStart env ambient event).Wraps := by
  have inferred := inferSpan_wraps env (ambient.generateSpanId .inferred)
    (ambient.generateSpanId .wrapped) event.payloadValue
  unfold Wraps onUniversalInstrumentationStart
  cases extractSpanContext env.libraries env.triggers event.headers event.payloadValue with
  | none => exact inferred
  | some spanContext =>
    simp only
    split
    · rename_i present
      intro absent
      simp only [InferredSpanData.setParentId, InferredSpanData.extendMeta,
        InferredSpanData.updateInferred, Option.map_eq_none_iff] at absent
      rw [absent] at present
      cases present
    · exact inferred

/-- An end event leaves the cold start span alone, and does not part the wrapped span from
the inferred one. -/
theorem keeps_onEnd (context : Context) :
    (context.onUniversalInstrumentationEnd env event).coldStartSpan = context.coldStartSpan ∧
      (context.Wraps -> (context.onUniversalInstrumentationEnd env event).Wraps) := by
  rcases captureResponse_eq env context event.payloadValue with ⟨tags, captured⟩
  have coded : forall current, current = (context.captureResponse env event.payloadValue
      ).onStatusCode event.payloadValue ->
      current.coldStartSpan = context.coldStartSpan ∧ (context.Wraps -> current.Wraps) := by
    rintro current rfl
    rw [captured]
    unfold onStatusCode
    split
    · exact ⟨rfl, id⟩
    · refine ⟨rfl, fun wraps absent => ?_⟩
      simp only [InferredSpanData.setStatusCode, InferredSpanData.updateInferred,
        Option.map_eq_none_iff] at absent ⊢
      exact wraps absent
  unfold onUniversalInstrumentationEnd onEndHeaders
  generalize same : (context.captureResponse env event.payloadValue).onStatusCode
    event.payloadValue = current
  rcases onSamplingPriority_eq env current event.headers with ⟨metrics, sampled⟩
  rcases coded current same.symm with ⟨coldStart, wraps⟩
  simp only [sampled]
  refine ⟨coldStart, fun before => ?_⟩
  by_cases present : current.inferred.inferredSpan.isSome = true
  · simp only [if_pos present]
    intro absent
    have empty : current.inferred.inferredSpan = none := Option.map_eq_none_iff.mp absent
    rw [empty] at present
    cases present
  · simp only [if_neg present]
    exact wraps before

theorem done_onEnd (context : Context) :
    (context.onUniversalInstrumentationEnd env event).runtimeDoneReceived =
      context.runtimeDoneReceived :=
  congrArg Entry.runtimeDone (entry_onEnd env event context)

theorem traceId_propagateAppsec (config : InferrerConfig) (invocation target : Span) :
    (propagateAppsec config invocation target).traceId = target.traceId := by
  unfold propagateAppsec
  simp only
  split <;> split <;> rfl

theorem traceId_completeWrapped (config : InferrerConfig) (isAsync : Bool)
    (invocation inferred wrapped : Span) :
    (completeWrapped config isAsync invocation inferred wrapped).traceId = invocation.traceId := by
  unfold completeWrapped
  simp only
  split <;> exact traceId_propagateAppsec config invocation _

/-- Both inferred spans are in the trace of the invocation span, as the wrapped one comes
with the other. -/
theorem completed_spans {invocation : Span}
    (wraps : data.inferredSpan = none -> data.wrappedInferredSpan = none) :
    ((completeInferredSpans config invocation data).inferredSpan = none ->
      (completeInferredSpans config invocation data).wrappedInferredSpan = none) ∧
    (forall id, (completeInferredSpans config invocation data).inferredSpan.map Span.traceId =
      some id -> id = invocation.traceId) ∧
    forall id, (completeInferredSpans config invocation data).wrappedInferredSpan.map Span.traceId =
      some id -> id = invocation.traceId := by
  unfold completeInferredSpans
  cases present : data.inferredSpan with
  | none =>
    simp only [present, wraps present]
    exact ⟨id, nofun, nofun⟩
  | some =>
    refine ⟨nofun, fun id listed => ?_, fun id listed => ?_⟩
    · rw [<- Option.some.inj listed]
      split <;> exact traceId_propagateAppsec config invocation _
    · rw [Option.map_map] at listed
      rcases Option.map_eq_some_iff.mp listed with ⟨wrapped, _, same⟩
      rw [<- same]
      exact traceId_completeWrapped config data.isAsyncSpan invocation _ wrapped

section Done

variable (tracerDetected : Bool) (dynamicTags : Tags) (status : Status) {context : Context}

/-- The companions of a finished context, given its invocation span. -/
theorem atPlatformDone_eq (context : Context) :
    Exists fun invocation => context.atPlatformDone env ambient tracerDetected dynamicTags status =
        { { context with runtimeDoneReceived := true }.onTimeout ambient status with
          invocationSpan := invocation
          inferred := completeInferredSpans env.inferrer invocation context.inferred
          coldStartSpan :=
            if invocation.traceId ≠ 0 ∧ tracerDetected = true then
              context.coldStartSpan.map (adoptTrace invocation)
            else context.coldStartSpan
          snapstartRestoreSpan :=
            if invocation.traceId ≠ 0 then
              context.snapstartRestoreSpan.map (adoptTrace invocation)
            else context.snapstartRestoreSpan } := by
  refine ⟨(context.atPlatformDone env ambient tracerDetected dynamicTags status).invocationSpan, ?_⟩
  unfold atPlatformDone onTimeout
  by_cases timeout : status = .timeout
  · simp only [if_pos timeout]
  · simp only [if_neg timeout]

theorem wraps_atPlatformDone (wraps : context.Wraps) :
    (context.atPlatformDone env ambient tracerDetected dynamicTags status).Wraps := by
  rcases atPlatformDone_eq env ambient tracerDetected dynamicTags status context with
    ⟨invocation, same⟩
  rw [same]
  exact (completed_spans wraps).1

/-- The end of the runtime moves all companions to a known trace, the cold start
span only of a traced function. -/
theorem companions_atPlatformDone (wraps : context.Wraps)
    (traced : tracerDetected = true ∨ context.coldStartSpan = none)
    (known : (context.atPlatformDone env ambient tracerDetected dynamicTags status
      ).traceView.invocation ≠ 0) :
    forall id, id ∈ (context.atPlatformDone env ambient tracerDetected dynamicTags status
      ).traceView.companions ->
      id = (context.atPlatformDone env ambient tracerDetected dynamicTags status
        ).traceView.invocation := by
  rcases atPlatformDone_eq env ambient tracerDetected dynamicTags status context with
    ⟨invocation, same⟩
  rw [same] at known ⊢
  simp only [traceView] at known ⊢
  intro id member
  rcases TraceView.mem_companions.mp member with inferred | wrapped | phase
  · exact (completed_spans wraps).2.1 id inferred
  · exact (completed_spans wraps).2.2 id wrapped
  · simp only [if_pos known] at phase
    rcases Option.or_eq_some_iff.mp phase with restore | ⟨_, cold⟩
    · rw [Option.map_map] at restore
      rcases Option.map_eq_some_iff.mp restore with ⟨span, _, moved⟩
      exact moved.symm
    · rcases traced with detected | none_left
      · rw [if_pos ⟨known, detected⟩, Option.map_map] at cold
        rcases Option.map_eq_some_iff.mp cold with ⟨span, _, moved⟩
        exact moved.symm
      · rw [none_left] at cold
        split at cold <;> cases cold

end Done

end Context

namespace Processor

variable {env : Env} {ambient : Ambient} {processor : Processor}

/-- All contexts are aligned, and all that were handed over are in one trace. -/
structure Aligned (processor : Processor) : Prop where
  contexts : forall context, context ∈ processor.contextBuffer.buffer -> context.traceView.Aligned
  sent : forall path context, .sendCtxSpans path context ∈ processor.effects ->
    context.SameTrace

variable {requestId : String}

/-- The context of a request, if there is one, has not seen the end of its
runtime. -/
def Unfinished (requestId : String) (processor : Processor) : Prop :=
  forall context, processor.contextBuffer.get requestId = some context ->
    context.runtimeDoneReceived = false

/-- No context of the request, or of the init phase, has seen the end of its
runtime. -/
def Enters (requestId : String) (processor : Processor) : Prop :=
  forall context, context ∈ processor.contextBuffer.buffer ->
    context.requestId = requestId ∨ context.requestId = "" -> context.runtimeDoneReceived = false

theorem unfinished_of_view
    (unfinished : forall entry, entry ∈ processor.view.entries -> entry.requestId = requestId ->
      entry.runtimeDone = false) : processor.Unfinished requestId := by
  intro context found
  refine unfinished context.entry ?_ (requestId_of_get found)
  exact List.mem_map.mpr ⟨context, List.mem_of_find?_eq_some found, rfl⟩

theorem enter_unfinished (enters : processor.Enters requestId) :
    forall entry, entry ∈ (processor.view.enter env requestId).entries ->
      entry.requestId = requestId -> entry.runtimeDone = false := by
  have before : forall entry, entry ∈ processor.view.entries ->
      entry.requestId = requestId ∨ entry.requestId = "" -> entry.runtimeDone = false := by
    intro entry member own
    rcases List.mem_map.mp member with ⟨context, old, same⟩
    subst same
    exact enters context old own
  have inserted : forall entry, entry ∈ (processor.view.insert { requestId := requestId }).entries ->
      entry.requestId = requestId -> entry.runtimeDone = false := by
    intro entry member own
    rcases List.mem_append.mp member with old | new
    · refine before entry ?_ (Or.inl own)
      split at old
      · exact List.mem_of_mem_tail old
      · exact List.mem_of_mem_eraseP old
    · rw [List.mem_singleton.mp new]
  unfold Tracker.enter
  split
  · simp only
    split
    · intro entry member own
      rcases mem_modifyFirst member with old | ⟨blank, first, same⟩
      · exact before entry old (Or.inl own)
      · rw [same]
        have named : Entry.named "" blank = true := List.find?_some first
        exact before blank (List.mem_of_find?_eq_some first) (Or.inr (beq_iff_eq.mp named))
    · exact inserted
  · exact inserted

section Keeps

variable (aligned : processor.Aligned)

include aligned

theorem Aligned.of_same {later : Processor}
    (buffer : later.contextBuffer.buffer = processor.contextBuffer.buffer)
    (effects : later.effects = processor.effects) : later.Aligned :=
  ⟨fun context member => aligned.contexts context (buffer ▸ member),
    fun path context member => aligned.sent path context (effects ▸ member)⟩

/-- Bookkeeping keeps the alignment. -/
theorem Aligned.of_gauge {later : Processor} {change : Gauge -> Gauge}
    (same : later.core = processor.core.onGauge change) : later.Aligned := by
  constructor
  · intro context member
    have listed : context.core ∈ later.core.contexts := List.mem_map.mpr ⟨context, member, rfl⟩
    rw [same] at listed
    rcases List.mem_map.mp listed with ⟨old, oldMember, equal⟩
    have view : old.traceView = context.traceView := congrArg (fun seen => seen.2.1) equal
    rw [<- view]
    exact aligned.contexts old oldMember
  · intro path context member
    have listed : .sendCtxSpans path context ∈ later.core.effects :=
      List.mem_filter.mpr ⟨member, rfl⟩
    rw [same] at listed
    exact aligned.sent path context (List.mem_filter.mp listed).1

theorem Aligned.of_core {later : Processor}
    (same : later.core = processor.core) : later.Aligned :=
  aligned.of_gauge (show later.core = processor.core.onGauge id from same)

/-- Only a context that is handed over needs to be looked at. -/
theorem Aligned.emit {effect : Effect}
    (sends : forall path context, effect = .sendCtxSpans path context -> context.SameTrace) :
    (processor.emit effect).Aligned := by
  refine ⟨aligned.contexts, ?_⟩
  intro path context member
  rcases List.mem_append.mp member with old | new
  · exact aligned.sent path context old
  · exact sends path context (List.mem_singleton.mp new).symm

theorem Aligned.emit_other {effect : Effect}
    (other : forall path context, effect ≠ .sendCtxSpans path context) :
    (processor.emit effect).Aligned :=
  aligned.emit (fun path context same => absurd same (other path context))

theorem Aligned.sendCtxSpans (context : Context) : (processor.sendCtxSpans context).Aligned :=
  aligned.emit_other (fun _ _ same => by cases same)

theorem Aligned.update {change : Context -> Context}
    (keeps : forall context, processor.contextBuffer.get requestId = some context ->
      context.traceView.Aligned -> (change context).traceView.Aligned) :
    (processor.onContexts (ContextBuffer.update requestId change)).Aligned :=
  ⟨forall_modifyFirst keeps aligned.contexts, aligned.sent⟩

theorem Aligned.updateClosest {timestamp : Int}
    {change : Context -> Context}
    (keeps : forall index, processor.contextBuffer.closestIndex timestamp = some index ->
      forall context, processor.contextBuffer.buffer[index]? = some context ->
        context.traceView.Aligned -> (change context).traceView.Aligned) :
    (processor.onContexts (ContextBuffer.updateClosest timestamp change)).Aligned := by
  unfold onContexts ContextBuffer.updateClosest
  cases found : processor.contextBuffer.closestIndex timestamp with
  | none => exact ⟨aligned.contexts, aligned.sent⟩
  | some index => exact ⟨forall_modify (keeps index found) aligned.contexts, aligned.sent⟩

/-! ## Start and end events -/

theorem Aligned.recordDsm (requestId : String) (payload : Value) :
    (processor.recordDsmConsumeFromPayload env requestId payload).Aligned := by
  unfold recordDsmConsumeFromPayload
  split
  · split
    · exact aligned
    · refine Aligned.of_core ?_ (core_recordCheckpoints _ _)
      exact ⟨aligned.contexts, aligned.sent⟩
  · exact aligned

theorem Aligned.processStart (unfinished : processor.Unfinished requestId)
    (event : UniversalInstrumentationData) :
    (processor.processOnUniversalInstrumentationStart env ambient requestId event).Aligned := by
  unfold processOnUniversalInstrumentationStart
  cases processor.contextBuffer.get requestId with
  | none => exact aligned.emit_other (fun _ _ => nofun)
  | some context =>
    apply Aligned.recordDsm
    refine Aligned.emit_other ?_ (fun _ _ => nofun)
    apply aligned.update
    intro context found _
    apply TraceView.aligned_of_unfinished
    · exact (Context.wraps_traceView _).mpr (Context.wraps_onStart env ambient event context)
    · exact unfinished context found

theorem Aligned.processEnd (unfinished : processor.Unfinished requestId)
    (event : UniversalInstrumentationData) :
    (processor.processOnUniversalInstrumentationEnd env ambient requestId event).Aligned := by
  unfold processOnUniversalInstrumentationEnd
  cases processor.contextBuffer.get requestId with
  | none => exact aligned.emit_other (fun _ _ => nofun)
  | some context =>
    have processed : ((processor.onContexts (ContextBuffer.update requestId
        (Context.onUniversalInstrumentationEnd env event))).emit
        (.processedEnd requestId event true)).Aligned := by
      refine Aligned.emit_other ?_ (fun _ _ => nofun)
      apply aligned.update
      intro context found before
      apply TraceView.aligned_of_unfinished
      · exact (Context.wraps_traceView _).mpr
          ((Context.keeps_onEnd env event context).2
            ((Context.wraps_traceView context).mp before.wraps))
      · exact (Context.done_onEnd env event context).trans (unfinished context found)
    simp only
    split
    · exact processed.of_gauge (core_emit_error _ _)
    · exact processed

theorem Aligned.onStart (event : UniversalInstrumentationData)
    (requestId : Option String)
    (unfinished : forall target, processor.view.paired env
      (.universalInstrumentationStart event requestId) = some target ->
        processor.Unfinished target) :
    (processor.onUniversalInstrumentationStart env ambient event requestId).Aligned := by
  rw [onUniversalInstrumentationStart_eq]
  simp only
  cases paired : processor.view.paired env
    (.universalInstrumentationStart event requestId) with
  | none => exact aligned.of_same rfl rfl
  | some target =>
    apply Aligned.processStart
    · exact aligned.of_same rfl rfl
    · exact unfinished target paired

theorem Aligned.onEnd (event : UniversalInstrumentationData)
    (requestId : Option String)
    (unfinished : forall target, processor.view.paired env
      (.universalInstrumentationEnd event requestId) = some target ->
        processor.Unfinished target) :
    (processor.onUniversalInstrumentationEnd env ambient event requestId).Aligned := by
  rw [onUniversalInstrumentationEnd_eq]
  simp only
  cases paired : processor.view.paired env
    (.universalInstrumentationEnd event requestId) with
  | none => exact aligned.of_same rfl rfl
  | some target =>
    apply Aligned.processEnd
    · exact aligned.of_same rfl rfl
    · exact unfinished target paired

/-! ## Invocations -/

theorem Aligned.insert {context : Context}
    (fresh : context.traceView.Aligned) :
    (processor.onContexts (ContextBuffer.insert context)).Aligned := by
  refine ⟨?_, aligned.sent⟩
  intro other member
  have known : other ∈ processor.contextBuffer.buffer ∨ other = context := by
    simp only [onContexts, ContextBuffer.insert] at member
    split at member
    · exact (List.mem_append.mp member).imp List.mem_of_mem_tail List.mem_singleton.mp
    · split at member
      · exact (List.mem_append.mp member).imp List.mem_of_mem_eraseP List.mem_singleton.mp
      · exact (List.mem_append.mp member).imp_right List.mem_singleton.mp
  rcases known with old | new
  · exact aligned.contexts other old
  · exact new ▸ fresh

theorem Aligned.startInvocation (env : Env) (ambient : Ambient)
    (requestId : String) :
    (processor.startInvocation env ambient requestId).Aligned := by
  apply Aligned.insert
  · exact aligned.of_core (core_setInitTags env ambient processor)
  · exact TraceView.aligned_of_unfinished (fun _ => rfl) rfl

theorem Aligned.enterInvocation (env : Env) (ambient : Ambient)
    (requestId : String) :
    (processor.enterInvocation env ambient requestId).Aligned := by
  have entered : forall current : Processor, current.Aligned ->
      ({ current with awaitingFirstInvocation := false } : Processor).Aligned :=
    fun current kept => ⟨kept.contexts, kept.sent⟩
  unfold Processor.enterInvocation
  split
  · apply entered
    split
    · refine ⟨?_, aligned.sent⟩
      apply forall_modifyFirst
      · intro context _ before
        exact before
      · exact aligned.contexts
    · exact aligned.startInvocation env ambient requestId
  · exact aligned.startInvocation env ambient requestId

theorem Aligned.pairInvocation (unfinished : processor.Unfinished requestId) :
    (processor.pairInvocation env ambient requestId).Aligned := by
  rw [pairInvocation_eq]
  simp only
  cases (processor.contextBuffer.starts.opens (!env.isManagedInstanceMode) requestId).1 with
  | none => exact aligned.of_same rfl rfl
  | some =>
    apply Aligned.processStart
    · exact aligned.of_same rfl rfl
    · exact unfinished

theorem Aligned.onInvokeEvent (enters : processor.Enters requestId) :
    (processor.onInvokeEvent env ambient requestId).Aligned := by
  have entered := aligned.enterInvocation env ambient requestId
  have monitored := entered.of_gauge (core_monitorUsage env ambient _ requestId)
  have counted := monitored.of_gauge (core_countInvocation env ambient _)
  have view := picture_of_gauge (core_countInvocation env ambient
    ((processor.enterInvocation env ambient requestId).monitorUsage env ambient requestId))
  rw [picture_of_gauge (core_monitorUsage env ambient _ requestId), picture_enterInvocation] at view
  refine counted.pairInvocation (unfinished_of_view ?_)
  rw [show Processor.view _ = processor.view.enter env requestId from congrArg Prod.fst view]
  exact enter_unfinished enters

end Keeps

/-! ## The end of the runtime -/

/-- What may happen to a context before the end of its runtime is recorded. -/
structure Reworked (requestId : String) (processor later : Processor) : Prop where
  contexts : Exists fun change => (forall context, (change context).requestId = context.requestId) ∧
      (forall context, context.Wraps -> (change context).Wraps) ∧
      (forall context, (change context).coldStartSpan = context.coldStartSpan) ∧
      later.contextBuffer.buffer =
        modifyFirst (ContextBuffer.named requestId) change processor.contextBuffer.buffer
  sent : forall path context, .sendCtxSpans path context ∈ later.effects ->
    .sendCtxSpans path context ∈ processor.effects
  tracer : later.tracerDetected = processor.tracerDetected

theorem reworked_of_same {later : Processor}
    (contexts : later.contextBuffer.buffer = processor.contextBuffer.buffer)
    (effects : later.effects = processor.effects)
    (tracer : later.tracerDetected = processor.tracerDetected) :
    Reworked requestId processor later := by
  refine ⟨⟨id, fun _ => rfl, fun _ => id, fun _ => rfl, ?_⟩, ?_, tracer⟩
  · rw [contexts, modifyFirst_id]
  · intro path context member
    rw [<- effects]
    exact member

theorem reworked_emit {later : Processor} (reworked : Reworked requestId processor later)
    {effect : Effect} (other : forall path context, effect ≠ .sendCtxSpans path context) :
    Reworked requestId processor (later.emit effect) := by
  refine ⟨reworked.contexts, ?_, reworked.tracer⟩
  intro path context member
  rcases List.mem_append.mp member with old | new
  · exact reworked.sent path context old
  · exact absurd (List.mem_singleton.mp new).symm (other path context)

theorem reworked_processEnd (requestId : String) (event : UniversalInstrumentationData)
    {current : Processor} (contexts : current.contextBuffer.buffer = processor.contextBuffer.buffer)
    (effects : current.effects = processor.effects)
    (tracer : current.tracerDetected = processor.tracerDetected) :
    Reworked requestId processor
      (current.processOnUniversalInstrumentationEnd env ambient requestId event) := by
  unfold processOnUniversalInstrumentationEnd
  cases current.contextBuffer.get requestId with
  | none => exact reworked_emit (reworked_of_same contexts effects tracer) (fun _ _ => nofun)
  | some context =>
    have ended : Reworked requestId processor (current.onContexts
        (ContextBuffer.update requestId (Context.onUniversalInstrumentationEnd env event))) := by
      refine ⟨⟨Context.onUniversalInstrumentationEnd env event, ?_, ?_, ?_, ?_⟩, ?_, tracer⟩
      · intro context
        exact congrArg Entry.requestId (Context.entry_onEnd env event context)
      · exact fun context => (Context.keeps_onEnd env event context).2
      · exact fun context => (Context.keeps_onEnd env event context).1
      · rw [<- contexts]
        rfl
      · intro path context member
        rw [<- effects]
        exact member
    simp only
    split
    · refine reworked_emit (reworked_emit ended ?_) (fun _ _ => nofun)
      exact fun _ _ => nofun
    · exact reworked_emit ended (fun _ _ => nofun)

theorem reworked_pairRuntimeDone (requestId : String) :
    Reworked requestId processor (processor.pairRuntimeDone env ambient requestId) := by
  rw [pairRuntimeDone_eq]
  simp only
  cases (processor.contextBuffer.ends.opens (!env.isManagedInstanceMode) requestId).1 with
  | none => exact reworked_of_same rfl rfl rfl
  | some => exact reworked_processEnd requestId _ rfl rfl rfl

/-- A cold start span is present only if the tracer is detected. -/
def Traced (requestId : String) (processor : Processor) : Prop :=
  forall context, processor.contextBuffer.get requestId = some context ->
    processor.tracerDetected = true ∨ context.coldStartSpan = none

section Settle

variable {requestId : String} {later : Processor}
  (reworked : Reworked requestId processor later) (aligned : processor.Aligned)
  (traced : processor.Traced requestId)

include reworked aligned

theorem Reworked.wraps :
    forall context, context ∈ later.contextBuffer.buffer -> context.Wraps := by
  rcases reworked.contexts with ⟨change, _, wraps, _, buffer⟩
  rw [buffer]
  apply forall_modifyFirst
  · intro context _ before
    exact wraps context before
  · intro context member
    exact (Context.wraps_traceView context).mp (aligned.contexts context member).wraps

include traced

/-- Recording the end of the runtime aligns the context again. -/
theorem Reworked.enrich (env : Env) (ambient : Ambient) (tags : Tags) (status : Status) :
    forall context, context ∈ modifyFirst (ContextBuffer.named requestId)
      (Context.atPlatformDone env ambient later.tracerDetected tags status)
      later.contextBuffer.buffer -> context.traceView.Aligned := by
  rcases reworked.contexts with ⟨change, named, wraps, coldStart, buffer⟩
  have keeps : forall context, ContextBuffer.named requestId context = true ->
      ContextBuffer.named requestId (change context) = true := by
    intro context matched
    unfold ContextBuffer.named at matched ⊢
    rw [named, matched]
  rw [buffer, modifyFirst_modifyFirst keeps]
  apply forall_modifyFirst
  · intro context found before
    have wrapped : (change context).Wraps :=
      wraps context ((Context.wraps_traceView context).mp before.wraps)
    have sendable : later.tracerDetected = true ∨ (change context).coldStartSpan = none := by
      rw [reworked.tracer, coldStart]
      exact traced context found
    refine ⟨?_, fun _ => ?_⟩
    · exact (Context.wraps_traceView _).mpr
        (Context.wraps_atPlatformDone env ambient later.tracerDetected tags status wrapped)
    · exact Context.companions_atPlatformDone env ambient later.tracerDetected tags status wrapped
        sendable
  · exact aligned.contexts

theorem Reworked.settle (status : Status) :
    (later.processOnPlatformRuntimeDone env ambient requestId status).Aligned := by
  have sent : forall path context, .sendCtxSpans path context ∈ later.effects ->
      context.SameTrace :=
    fun path context member => aligned.sent path context (reworked.sent path context member)
  have contexts := reworked.enrich aligned traced env ambient later.dynamicTags status
  unfold processOnPlatformRuntimeDone enrichCtxAtPlatformDone
  cases found : later.contextBuffer.get requestId with
  | none =>
    rw [modifyFirst_of_find?_none found] at contexts
    have unchanged : later.Aligned := ⟨contexts, sent⟩
    simp only
    split
    · exact unchanged
    · exact unchanged.of_core (core_sendColdStartSpan later)
  | some context =>
    have enriched : (later.onContexts (ContextBuffer.update requestId (Context.atPlatformDone env
        ambient later.tracerDetected later.dynamicTags status))).Aligned := ⟨contexts, sent⟩
    have reported := enriched.of_core (core_reportCpuUtilization _ context.enhancedMetricData)
    have detected : ((later.onContexts (ContextBuffer.update requestId (Context.atPlatformDone env
        ambient later.tracerDetected later.dynamicTags status))).reportCpuUtilization
          context.enhancedMetricData).tracerDetected = later.tracerDetected :=
      congrArg (fun core => core.picture.1.tracerDetected)
        (core_reportCpuUtilization _ context.enhancedMetricData)
    simp only [detected]
    split
    · rename_i tracer
      split
      · rename_i complete
        refine Aligned.sendCtxSpans ?_ _
        refine reported.emit ?_
        intro path handed same
        cases same
        have wraps := reworked.wraps aligned context (List.mem_of_find?_eq_some found)
        have known := (Entry.complete_iff (Context.entry _)).mp complete
        exact Context.sameTrace_of_companions known.1 (Context.companions_atPlatformDone env ambient
          later.tracerDetected later.dynamicTags status wraps (Or.inl tracer) known.1)
      · exact reported
    · exact reported.of_core (core_sendColdStartSpan _)

end Settle

variable {requestId : String} {info : ReparentingInfo}

theorem Traced.of_gauge (traced : processor.Traced requestId) {later : Processor}
    {change : Gauge -> Gauge} (same : later.core = processor.core.onGauge change) :
    later.Traced requestId := by
  have found : forall current : Processor, (current.contextBuffer.get requestId).map Context.core =
      current.core.contexts.find? (fun context => context.1.named requestId) := by
    intro current
    unfold ContextBuffer.get core
    rw [List.find?_map]
    rfl
  have tracer : later.tracerDetected = processor.tracerDetected :=
    congrArg (fun core => core.picture.1.tracerDetected) same
  intro context buffered
  have listed := found later
  rw [buffered, show later.core.contexts = processor.core.contexts by rw [same]; rfl,
    <- found] at listed
  rcases Option.map_eq_some_iff.mp listed.symm with ⟨old, oldBuffered, equal⟩
  have coldStart : old.coldStartSpan.map Span.traceId = context.coldStartSpan.map Span.traceId :=
    congrArg (fun seen => seen.2.1.coldStart) equal
  rw [tracer]
  rcases traced old oldBuffered with detected | absent
  · exact Or.inl detected
  · rw [absent] at coldStart
    exact Or.inr (Option.map_eq_none_iff.mp coldStart.symm)

theorem Traced.of_core (traced : processor.Traced requestId) {later : Processor}
    (same : later.core = processor.core) : later.Traced requestId :=
  traced.of_gauge (show later.core = processor.core.onGauge id from same)

section Keeps

variable (aligned : processor.Aligned)

include aligned

theorem Aligned.onPlatformRuntimeDone (traced : processor.Traced requestId)
    (metrics : RuntimeDoneMetrics) (status : Status) (errorType : Option String) (timestamp : Int) :
    (processor.onPlatformRuntimeDone env ambient requestId metrics status errorType timestamp
      ).Aligned := by
  have measured := core_measureRuntimeDone env processor requestId metrics status errorType timestamp
  exact (reworked_pairRuntimeDone requestId).settle (aligned.of_gauge measured)
    (traced.of_gauge measured) status

theorem Aligned.release (requestId : String) :
    (processor.releaseInvocationContext requestId).Aligned := by
  refine ⟨?_, aligned.sent⟩
  intro context member
  exact aligned.contexts context (List.mem_of_mem_eraseP member)

theorem Aligned.handleManagedInstanceReport (traced : processor.Traced requestId)
    (metrics : ManagedInstanceReportMetrics) (timestamp : Int) (status : Status)
    (errorType : Option String) (spans : Option (List TelemetrySpan)) :
    (processor.handleManagedInstanceReport env ambient requestId metrics timestamp status errorType
      spans).Aligned := by
  rcases handleManagedInstanceReport_eq env ambient processor requestId metrics timestamp status
    errorType spans with ⟨paused, same, handled⟩
  rw [handled]
  split
  · exact (aligned.of_gauge same).onPlatformRuntimeDone (traced.of_gauge same) _ status errorType
      timestamp
  · exact aligned.of_gauge same

theorem Aligned.onPlatformReport {metrics : ReportMetrics}
    (timestamp : Int) (status : Status) (errorType : Option String)
    (spans : Option (List TelemetrySpan))
    (traced : (Command.platformReport requestId metrics timestamp status errorType spans).finishes
      requestId = true -> processor.Traced requestId) :
    (processor.onPlatformReport env ambient requestId metrics timestamp status errorType spans
      ).Aligned := by
  have measured : (processor.emit (.setReportLogMetrics metrics timestamp)).core =
      processor.core := core_emit ⟨rfl, rfl⟩ processor
  apply Aligned.release
  refine Aligned.of_core ?_ (core_reportUsage _ requestId)
  cases metrics with
  | onDemand metrics =>
    exact aligned.of_core
      ((core_handleOndemandReport _ requestId metrics timestamp).trans measured)
  | managedInstance metrics =>
    exact (aligned.of_core measured).handleManagedInstanceReport
      ((traced (beq_self_eq_true requestId)).of_core measured) metrics timestamp status errorType
      spans

/-! ## Reparenting -/

/-- Filling in the trace id of a finished context concerns no companion. -/
def Reparents (info : ReparentingInfo) (processor : Processor) : Prop :=
  forall context, processor.contextBuffer.get info.requestId = some context ->
    context.runtimeDoneReceived = true ->
      context.invocationSpan.traceId ≠ 0 ∨ info.guessedTraceId = 0 ∨
        context.getCtxSpans = [context.invocationSpan]

omit aligned in
theorem Context.aligned_reparent {context : Context} (aligned : context.traceView.Aligned)
    (concerns : context.runtimeDoneReceived = true ->
      context.invocationSpan.traceId ≠ 0 ∨ info.guessedTraceId = 0 ∨
        context.getCtxSpans = [context.invocationSpan]) :
    (context.reparent info).traceView.Aligned := by
  refine ⟨aligned.wraps, ?_⟩
  intro done known
  by_cases unset : context.invocationSpan.traceId = 0
  · rcases concerns done with set | none_guessed | alone
    · exact absurd unset set
    · refine absurd ?_ known
      change (if context.invocationSpan.traceId = 0 then info.guessedTraceId
        else context.invocationSpan.traceId) = 0
      rw [if_pos unset, none_guessed]
    · have ids := context.traceIds_getCtxSpans
      rw [alone] at ids
      have empty : context.traceView.companions = [] := (List.cons.inj ids).2.symm
      intro id member
      change id ∈ context.traceView.companions at member
      rw [empty] at member
      cases member
  · have same : (context.reparent info).traceView = context.traceView := by
      unfold Context.reparent Context.traceView
      simp only [if_neg unset]
    rw [same]
    exact aligned.shared done unset

theorem Aligned.updateReparentingEntry (reparents : processor.Reparents info) :
    (processor.updateReparentingEntry info).Aligned := by
  refine Aligned.of_gauge ?_ (core_refreshInfo _ info)
  cases found : processor.contextBuffer.get info.requestId with
  | none => exact aligned
  | some context =>
    have updated : (processor.onContexts (ContextBuffer.update info.requestId
        (Context.reparent info))).Aligned :=
      aligned.update (fun current buffered before =>
        Context.aligned_reparent before (reparents current buffered))
    simp only
    split
    · rename_i ready
      apply updated.emit
      intro path handed same
      cases same
      have known := ((Entry.complete_iff (context.reparent info).entry).mp ready.2.1).1
      have fresh := Context.aligned_reparent
        (aligned.contexts context (List.mem_of_find?_eq_some found)) (reparents context found)
      exact Context.sameTrace_of_companions known (fresh.shared ready.2.2 known)
    · exact updated

omit aligned in
theorem buffer_updateReparentingEntry (processor : Processor) (info : ReparentingInfo) :
    (processor.updateReparentingEntry info).contextBuffer.buffer =
      modifyFirst (ContextBuffer.named info.requestId) (Context.reparent info)
        processor.contextBuffer.buffer := by
  unfold Processor.updateReparentingEntry
  cases found : processor.contextBuffer.get info.requestId with
  | none => exact (modifyFirst_of_find?_none found).symm
  | some =>
    simp only
    split <;> rfl

omit aligned in
/-- An earlier entry of the list does not stand in the way of a later one. -/
theorem Reparents.after (reparents : processor.Reparents info) (earlier : ReparentingInfo) :
    (processor.updateReparentingEntry earlier).Reparents info := by
  intro context found done
  unfold ContextBuffer.get at found
  rw [buffer_updateReparentingEntry] at found
  by_cases same : earlier.requestId = info.requestId
  · have keeps : forall other, ContextBuffer.named info.requestId other = true ->
        ContextBuffer.named info.requestId (Context.reparent earlier other) = true :=
      fun _ matched => matched
    rw [same, find?_modifyFirst_self keeps] at found
    rcases Option.map_eq_some_iff.mp found with ⟨old, buffered, equal⟩
    subst equal
    rcases reparents old buffered done with set | none_guessed | alone
    · refine Or.inl ?_
      unfold Context.reparent
      simp only [if_neg set]
      exact set
    · exact Or.inr (Or.inl none_guessed)
    · refine Or.inr (Or.inr ?_)
      exact congrArg (fun spans => (old.reparent earlier).invocationSpan :: spans.tail) alone
  · rw [find?_modifyFirst_of_disjoint] at found
    · exact reparents context found done
    all_goals
      intro other matched
      have named : other.requestId = earlier.requestId := beq_iff_eq.mp matched
      exact beq_eq_false_iff_ne.mpr (named ▸ same)

theorem Aligned.updateReparenting {infos : List ReparentingInfo}
    (reparents : forall info, info ∈ infos -> processor.Reparents info) :
    (processor.updateReparenting infos).Aligned := by
  unfold Processor.updateReparenting
  induction infos generalizing processor with
  | nil => exact aligned
  | cons info _ ih =>
    apply ih
    · exact aligned.updateReparentingEntry (reparents info List.mem_cons_self)
    · intro later member
      exact (reparents later (List.mem_cons_of_mem info member)).after info

/-! ## Phases of the sandbox -/

/-- The context closest to a point in time has not seen the end of its runtime. -/
def UnfinishedAt (timestamp : Int) (processor : Processor) : Prop :=
  forall index, processor.contextBuffer.closestIndex timestamp = some index ->
    forall context, processor.contextBuffer.buffer[index]? = some context ->
      context.runtimeDoneReceived = false

theorem Aligned.onPlatformInitStart (time : DateTime)
    (runtimeVersion : Option String)
    (unfinished : env.isManagedInstanceMode = false ->
      processor.UnfinishedAt (startTimeOf time)) :
    (processor.onPlatformInitStart env ambient time runtimeVersion).Aligned := by
  have begun := aligned.of_gauge (core_beginInit processor runtimeVersion)
  have contexts := beginInit_contextBuffer runtimeVersion processor
  unfold Processor.onPlatformInitStart
  split
  · have started := begun.startInvocation env ambient ""
    exact ⟨started.contexts, started.sent⟩
  · rename_i onDemand
    apply begun.updateClosest
    intro index closest context listed before
    rw [contexts] at closest listed
    exact TraceView.aligned_of_unfinished before.wraps
      (unfinished (Bool.not_eq_true _ ▸ onDemand) index closest context listed)

theorem Aligned.onPlatformRestoreStart {time : DateTime}
    (unfinished : processor.UnfinishedAt (startTimeOf time)) :
    (processor.onPlatformRestoreStart env ambient time).Aligned := by
  apply Aligned.updateClosest
  · exact ⟨aligned.contexts, aligned.sent⟩
  · intro index closest context listed before
    exact TraceView.aligned_of_unfinished before.wraps (unfinished index closest context listed)

/-- A cold start span that has a trace keeps it. -/
theorem Aligned.setColdStartSpanTraceId (traceId : UInt64) :
    (processor.setColdStartSpanTraceId traceId).Aligned := by
  refine Aligned.of_core ?_ (core_emit ⟨rfl, rfl⟩ _)
  refine ⟨?_, aligned.sent⟩
  apply forall_modifyFirst
  · intro context _ before
    refine ⟨before.wraps, fun done known => ?_⟩
    have shared := before.shared done known
    simp only [Context.traceView, TraceView.companions] at known shared ⊢
    cases restore : context.snapstartRestoreSpan with
    | some =>
      rw [restore] at shared
      exact shared
    | none =>
      rw [restore] at shared
      cases cold : context.coldStartSpan with
      | none =>
        rw [cold] at shared
        exact shared
      | some span =>
        rw [cold] at shared
        have kept := shared span.traceId (List.mem_append_right _ List.mem_cons_self)
        simp only [Option.map_some, if_neg (kept ▸ known)]
        exact shared
  · exact aligned.contexts

end Keeps

/-! ## Runs -/

/-- The step leaves finished contexts alone.  A start or end event, a cold start
or a restore reaches an unfinished context, the end of the runtime moves all
companions, and a trace id that `update_reparenting` fills in concerns none. -/
def LeavesFinished (env : Env) (processor : Processor) (input : Input) : Prop :=
  match input.command with
  | .invokeEvent requestId => processor.Enters requestId
  | .platformStart requestId _ =>
    env.isManagedInstanceMode = true -> processor.Enters requestId
  | .platformInitStart time _ =>
    env.isManagedInstanceMode = false -> processor.UnfinishedAt (startTimeOf time)
  | .platformRestoreStart time => processor.UnfinishedAt (startTimeOf time)
  | .platformRuntimeDone requestId _ _ _ _ => processor.Traced requestId
  | .platformReport requestId (.managedInstance _) _ _ _ _ =>
    processor.Traced requestId
  | .universalInstrumentationStart _ _ =>
    forall target, processor.view.paired env input.command = some target ->
      processor.Unfinished target
  | .universalInstrumentationEnd _ _ =>
    forall target, processor.view.paired env input.command = some target ->
      processor.Unfinished target
  | .updateReparenting infos => forall info, info ∈ infos -> processor.Reparents info
  | _ => True

theorem aligned_step (processor : Processor) (input : Input) (aligned : processor.Aligned)
    (leaves : processor.LeavesFinished env input) : (processor.step env input).Aligned := by
  rcases input with ⟨ambient, command⟩
  cases command with
  | invokeEvent => exact aligned.onInvokeEvent leaves
  | platformInitStart time runtimeVersion => exact aligned.onPlatformInitStart time runtimeVersion leaves
  | platformInitReport initType durationMs timestamp =>
    exact aligned.of_core (core_onPlatformInitReport env processor initType durationMs timestamp)
  | platformRestoreStart => exact aligned.onPlatformRestoreStart leaves
  | platformRestoreReport durationMs timestamp =>
    exact aligned.of_core (core_onPlatformRestoreReport processor durationMs timestamp)
  | platformStart requestId time =>
    refine Aligned.of_core ?_ (core_addStartTime _ requestId (startTimeOf time))
    split
    · rename_i managed
      exact aligned.onInvokeEvent (leaves managed)
    · exact aligned
  | platformRuntimeDone _ metrics status errorType timestamp =>
    exact aligned.onPlatformRuntimeDone leaves metrics status errorType timestamp
  | platformReport _ metrics =>
    apply aligned.onPlatformReport
    intro finishes
    cases metrics with
    | onDemand => cases finishes
    | managedInstance => exact leaves
  | universalInstrumentationStart event requestId => exact aligned.onStart event requestId leaves
  | recordDsmConsumeFromPayload requestId payload => exact aligned.recordDsm requestId payload
  | universalInstrumentationEnd event requestId => exact aligned.onEnd event requestId leaves
  | addReparenting =>
    simp only [step, handle, addReparenting, onContexts]
    split <;> exact ⟨aligned.contexts, aligned.sent⟩
  | getReparentingInfo => exact aligned.of_core (core_emit ⟨rfl, rfl⟩ processor)
  | sendCtxSpans context => exact aligned.sendCtxSpans context
  | updateReparenting => exact aligned.updateReparenting leaves
  | setColdStartSpanTraceId traceId => exact aligned.setColdStartSpanTraceId traceId
  | addTracerSpan span clientComputedStats =>
    exact aligned.of_core (core_addTracerSpan processor span clientComputedStats)
  | forwardDurableContext =>
    exact aligned.of_core (core_emit ⟨rfl, rfl⟩ processor)
  | onOutOfMemoryError requestId timestamp =>
    exact aligned.of_core (core_tryIncrementOomMetric processor requestId timestamp)
  | onShutdownEvent => exact aligned.of_gauge (core_onShutdownEvent env ambient processor)

/-- In every run that leaves finished contexts alone, all spans of every context
handed over have the trace id of its invocation span, which is not zero. -/
theorem sent_in_one_trace (inputs : List Input)
    (leaves : Machine.Along (Processor.step env) (LeavesFinished env) Processor.new inputs)
    (path : SendPath) (context : Context)
    (sent : .sendCtxSpans path context ∈ (Processor.new.run env inputs).effects) :
    context.SameTrace := by
  have initial : Processor.new.Aligned := by
    constructor
    · intro context member
      cases member
    · intro path context member
      cases member
  exact (leaves.invariant aligned_step initial).sent path context sent

theorem handed_of_handedOverCount {processor : Processor}
    (handed : 0 < processor.handedOverCount requestId) :
    Exists fun path => Exists fun context => .sendCtxSpans path context ∈ processor.effects := by
  rcases List.countP_pos_iff.mp handed with ⟨effect, member, sends⟩
  cases effect with
  | sendCtxSpans path context => exact ⟨path, context, member⟩
  | _ => cases sends

/-- A cold start of a traced function, which then ends with that status. -/
def coldStart (status : Status) : List Input :=
  [Command.tracerStart.still, (Command.invokeEvent "r1").still,
    (Command.platformInitStart 0 none).still, (Command.runtimeDoneOf "r1" status).still]

/-- A timeout sets the trace id, and the cold start span takes it. -/
theorem sent_in_one_trace_timeout :
    Exists fun context => context.SameTrace ∧
      Exists fun path => .sendCtxSpans path context ∈
        (Processor.new.run (Env.plain false) (coldStart .timeout)).effects := by
  have handed : 0 < (Processor.new.run (Env.plain false) (coldStart .timeout)).handedOverCount
      "r1" := by decide
  rcases handed_of_handedOverCount handed with ⟨path, context, sent⟩
  refine ⟨context, sent_in_one_trace (coldStart .timeout) ⟨?_, ?_, ?_, ?_, trivial⟩ path
    context sent, path, sent⟩
  · intro target paired
    cases paired
  · intro context member
    cases member
  · intro _ index closest context listed
    have first : some index = some 0 := closest.symm.trans (by decide)
    cases first
    cases listed
    rfl
  · intro context _
    exact Or.inl (by decide)

/-- The trace id comes from `update_reparenting`, after the end of the runtime. -/
def lateTrace : List Input :=
  coldStart .success ++ [(Command.updateReparenting [⟨"r1", 6, 0, 5, false⟩]).still]

/-- The context handed over holds a span of another trace. -/
def splitsTrace : Effect -> Bool
  | .sendCtxSpans _ context =>
    context.getCtxSpans.any (fun span => span.traceId != context.invocationSpan.traceId)
  | _ => false

/-- The cold start span is sent without it. -/
theorem companion_sent_without_trace :
    ¬ forall (env : Env) (inputs : List Input) (path : SendPath) (context : Context),
      .sendCtxSpans path context ∈ (Processor.new.run env inputs).effects ->
        context.SameTrace := by
  intro always
  have split : ((Processor.new.run (Env.plain false) lateTrace).effects.any
      splitsTrace) = true := by decide
  rcases List.any_eq_true.mp split with ⟨effect, member, splits⟩
  cases effect with
  | sendCtxSpans path context =>
    rcases List.any_eq_true.mp splits with ⟨span, listed, other⟩
    have same := always (Env.plain false) lateTrace path context member
    exact bne_iff_ne.mp other (same.shared span listed)
  | _ => cases splits

end Processor
end Lifecycle
end Bottlecap
