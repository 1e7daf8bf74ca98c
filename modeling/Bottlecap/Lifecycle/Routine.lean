import Bottlecap.Lifecycle.Gauges

namespace Bottlecap
namespace Lifecycle

open Foundations Extension

/-!
# Bookkeeping

Much of what the handlers do is bookkeeping: metrics, tags, durations, clocks.
`Processor.core` is a processor without it.  It holds what the tracker and the gauge
see of the processor.  Of a context the ids of its spans, its progress and its error
mark remain, and of the effects those that say what happened to an event or to the
spans of a context.  The theorems say which handlers, and which parts of the others,
leave the core alone, and which ones change nothing but the gauge.
-/

/-- The trace ids of the spans of a context. -/
structure TraceView where
  invocation : UInt64
  runtimeDone : Bool
  inferred : Option UInt64
  wrapped : Option UInt64
  snapstartRestore : Option UInt64
  coldStart : Option UInt64

namespace Context

def entry (context : Context) : Entry where
  requestId := context.requestId
  runtimeDone := context.runtimeDoneReceived
  traceId := context.invocationSpan.traceId
  spanId := context.invocationSpan.spanId
  extracted := (context.extractedSpanContext.map SpanContext.lowTraceId).getD 0

def traceView (context : Context) : TraceView where
  invocation := context.invocationSpan.traceId
  runtimeDone := context.runtimeDoneReceived
  inferred := context.inferred.inferredSpan.map Span.traceId
  wrapped := context.inferred.wrappedInferredSpan.map Span.traceId
  snapstartRestore := context.snapstartRestoreSpan.map Span.traceId
  coldStart := context.coldStartSpan.map Span.traceId

def core (context : Context) : Entry × TraceView × Bool :=
  (context.entry, context.traceView, context.marked)

end Context

def Effect.milestone : Effect -> Option Milestone
  | processedStart requestId event found => some (.started requestId event found)
  | processedEnd requestId event found => some (.ended requestId event found)
  | sendCtxSpans path context => some (.handedOver path context.requestId)
  | sendSpans requestId _ _ _ => requestId.map .sent
  | _ => none

/-- The effect is bookkeeping. -/
def Effect.Quiet (effect : Effect) : Prop := effect.milestone = none ∧ effect.counts = none

structure Core where
  picture : Tracker × Gauge
  contexts : List (Entry × TraceView × Bool)
  effects : List Effect

def Core.onGauge (change : Gauge -> Gauge) (core : Core) : Core :=
  { core with picture := (core.picture.1, change core.picture.2) }

namespace Processor

def view (processor : Processor) : Tracker where
  capacity := processor.contextBuffer.capacity
  entries := processor.contextBuffer.buffer.map Context.entry
  awaitingFirstInvocation := processor.awaitingFirstInvocation
  tracerDetected := processor.tracerDetected
  starts := processor.contextBuffer.starts
  ends := processor.contextBuffer.ends
  reparenting := processor.contextBuffer.sortedReparentingInfo.map ReparentingInfo.requestId
  dsm := processor.dsmProcessedRequestIds
  log := processor.effects.filterMap Effect.milestone

def gauge (processor : Processor) : Gauge where
  capacity := processor.contextBuffer.capacity
  infos := processor.contextBuffer.sortedReparentingInfo
  status := processor.firstInvocationMetricStatus
  invocations := processor.effects.countP (fun effect => effect.counts = some .invocation)
  errors := processor.effects.countP (fun effect => effect.counts = some .error)
  usage := ⟨processor.activeInvocations,
    processor.effects.countP (fun effect => effect.counts = some .pause)⟩

def picture (processor : Processor) : Tracker × Gauge := (processor.view, processor.gauge)

def core (processor : Processor) : Core where
  picture := processor.picture
  contexts := processor.contextBuffer.buffer.map Context.core
  effects := processor.effects.filter (fun effect => effect.milestone.isSome)

variable (env : Env) (ambient : Ambient)

theorem picture_of_core {processor later : Processor} (same : later.core = processor.core) :
    later.picture = processor.picture :=
  congrArg Core.picture same

theorem picture_of_gauge {processor later : Processor} {change : Gauge -> Gauge}
    (same : later.core = processor.core.onGauge change) :
    later.picture = (processor.picture.1, change processor.picture.2) :=
  congrArg Core.picture same

variable (processor : Processor)

theorem gauge_emit_counts (effect : Effect) :
    (processor.emit effect).gauge = effect.counts.elim processor.gauge processor.gauge.count := by
  unfold emit gauge
  cases counts : effect.counts with
  | none => simp [List.countP_append, counts]
  | some count => cases count <;> simp [List.countP_append, counts, Gauge.count, Gauge.addErrors]

/-- An effect that the gauge does not count. -/
theorem gauge_emit {effect : Effect} (quiet : effect.counts = none) :
    (processor.emit effect).gauge = processor.gauge := by
  rw [gauge_emit_counts, quiet]
  rfl

/-- An effect that is no milestone changes the gauge at most. -/
theorem core_emit_silent {effect : Effect} (silent : effect.milestone = none)
    (processor : Processor) :
    (processor.emit effect).core = processor.core.onGauge
      (fun gauge => effect.counts.elim gauge gauge.count) := by
  unfold core picture Core.onGauge
  rw [gauge_emit_counts]
  unfold emit view
  simp only [List.filterMap_append, List.filterMap_cons, List.filterMap_nil, List.filter_append,
    List.filter_cons, silent, Option.isSome_none, Bool.false_eq_true, if_false, List.filter_nil,
    List.append_nil]

theorem core_emit {effect : Effect} (quiet : effect.Quiet) (processor : Processor) :
    (processor.emit effect).core = processor.core := by
  rw [core_emit_silent quiet.1, quiet.2]
  rfl

theorem core_emit_invocation (timestamp : Int) :
    (processor.emit (.incrementInvocationMetric timestamp)).core = processor.core.onGauge
      (fun gauge => { gauge with invocations := gauge.invocations + 1 }) :=
  core_emit_silent rfl processor

theorem core_emit_error (timestamp : Int) :
    (processor.emit (.incrementErrorsMetric timestamp)).core =
      processor.core.onGauge (Gauge.addErrors 1) :=
  core_emit_silent rfl processor

/-! ## Contexts -/

theorem picture_buffer {buffer : List Context} {processor : Processor}
    (same : buffer.map Context.entry = processor.contextBuffer.buffer.map Context.entry) :
    (processor.onContexts (fun contexts => { contexts with buffer := buffer })).picture =
      processor.picture := by
  unfold picture onContexts view
  simp only [same]
  rfl

theorem core_buffer {buffer : List Context} {processor : Processor}
    (same : buffer.map Context.core = processor.contextBuffer.buffer.map Context.core) :
    (processor.onContexts (fun contexts => { contexts with buffer := buffer })).core =
      processor.core := by
  have entries : buffer.map Context.entry = processor.contextBuffer.buffer.map Context.entry := by
    have firsts := congrArg (List.map Prod.fst) same
    rw [List.map_map, List.map_map] at firsts
    exact firsts
  unfold core
  rw [picture_buffer entries]
  exact congrArg (Core.mk _ · _) same

section Contexts

variable {change : Context -> Context}
  (keeps : forall context, (change context).core = context.core)

include keeps

theorem core_update (requestId : String) (processor : Processor) :
    (processor.onContexts (ContextBuffer.update requestId change)).core = processor.core :=
  core_buffer (map_modifyFirst Context.core (fun context _ => keeps context) _)

theorem core_updateClosest (timestamp : Int) (processor : Processor) :
    (processor.onContexts (ContextBuffer.updateClosest timestamp change)).core =
      processor.core := by
  unfold onContexts ContextBuffer.updateClosest
  cases processor.contextBuffer.closestIndex timestamp with
  | none => rfl
  | some => exact core_buffer (map_modify Context.core keeps _ _)

end Contexts

/-! ## Handlers -/

theorem core_recordCheckpoints (checkpoints : List DsmCheckpointInput) :
    (checkpoints.foldl (fun current checkpoint =>
      current.emit (.recordConsume checkpoint)) processor).core = processor.core :=
  foldl_project core _ (fun current _ => core_emit ⟨rfl, rfl⟩ current) checkpoints processor

theorem core_tryIncrementOomMetric (requestId : Option String) (timestamp : Int) :
    (processor.tryIncrementOomMetric requestId timestamp).core = processor.core := by
  have counted : forall current : Processor,
      (current.emit (.incrementOomMetric timestamp)).core = current.core :=
    core_emit ⟨rfl, rfl⟩
  unfold tryIncrementOomMetric
  split
  · exact counted processor
  · split
    · exact counted processor
    · split
      · rfl
      · rw [counted, core_update]
        intro context
        rfl

theorem core_sendColdStartSpan :
    processor.sendColdStartSpan.core = processor.core := by
  unfold sendColdStartSpan
  split
  · split
    · rfl
    · exact core_emit ⟨rfl, rfl⟩ processor
  · rfl

theorem core_setInitTags :
    (processor.setInitTags env ambient).core = processor.core := by
  unfold setInitTags
  rw [core_emit ⟨rfl, rfl⟩]
  split
  · exact core_emit ⟨rfl, rfl⟩ _
  · rfl

variable (requestId : String)

theorem core_monitorUsage :
    (processor.monitorUsage env ambient requestId).core = processor.core.onGauge
      (fun gauge => { gauge with usage := gauge.usage.invoke env }) := by
  unfold monitorUsage Usage.invoke
  cases env.lambdaProcEnhancedMetrics with
  | false => rfl
  | true =>
    refine (core_update (?_ : forall context : Context, _) requestId _).trans ?_
    · intro context
      rfl
    cases env.isManagedInstanceMode with
    | false => exact core_emit ⟨rfl, rfl⟩ processor
    | true =>
      simp only [if_true]
      split
      · exact core_emit ⟨rfl, rfl⟩ _
      · rfl

theorem core_countInvocation :
    (processor.countInvocation env ambient).core = processor.core.onGauge
      (Gauge.countInvocation env.isManagedInstanceMode ambient.unixSeconds) := by
  have status : processor.core.picture.2.status = processor.firstInvocationMetricStatus := rfl
  unfold countInvocation Core.onGauge Gauge.countInvocation
  rw [core_emit ⟨rfl, rfl⟩, status]
  cases env.isManagedInstanceMode with
  | true =>
    simp only [Bool.not_true, Bool.false_and, Bool.false_eq_true, and_false]
    exact core_emit_invocation processor ambient.unixSeconds
  | false =>
    have counted : forall status, processor.firstInvocationMetricStatus = status ->
        (processor.emit (.incrementInvocationMetric ambient.unixSeconds)).core =
          processor.core.onGauge (fun gauge => { gauge with
            status := status
            invocations := gauge.invocations + 1 }) := by
      intro status same
      rw [core_emit_invocation, <- same]
      rfl
    cases held : processor.firstInvocationMetricStatus with
    | pending => rfl
    | initStartSeen => exact congrArg (Core.onGauge (fun gauge => { gauge with
        status := .resolved })) (counted _ held)
    | heldBack timestamp =>
      have seen : (.heldBack timestamp ==
          FirstInvocationMetricStatus.pending || .heldBack timestamp ==
          FirstInvocationMetricStatus.initStartSeen) = false :=
        Bool.or_eq_false_iff.mpr ⟨beq_eq_false_iff_ne.mpr nofun, beq_eq_false_iff_ne.mpr nofun⟩
      exact counted _ held
    | resolved => exact counted _ held

theorem core_flushPending :
    processor.flushPendingFirstInvocationMetric.core =
      processor.core.onGauge Gauge.flushPending := by
  have status : processor.core.picture.2.status = processor.firstInvocationMetricStatus := rfl
  unfold flushPendingFirstInvocationMetric Core.onGauge Gauge.flushPending
  rw [status]
  cases processor.firstInvocationMetricStatus with
  | heldBack timestamp => exact congrArg (Core.onGauge (fun gauge => { gauge with
      status := .resolved })) (core_emit_invocation processor timestamp)
  | _ => rfl

theorem core_tagDurableFunction (runtimeVersion : Option String) :
    (processor.tagDurableFunction runtimeVersion).core = processor.core := by
  unfold tagDurableFunction
  split
  · split
    · exact core_emit ⟨rfl, rfl⟩ processor
    · rfl
  · rfl

theorem core_seeInitStart :
    processor.seeInitStart.core = processor.core.onGauge Gauge.seeInitStart := by
  have status : processor.core.picture.2.status = processor.firstInvocationMetricStatus := rfl
  unfold seeInitStart Core.onGauge Gauge.seeInitStart
  rw [status]
  split <;> rfl

/-- What `on_platform_init_start` does before it looks at contexts. -/
theorem core_beginInit (runtimeVersion : Option String) :
    (processor.tagDurableFunction runtimeVersion
      ).seeInitStart.flushPendingFirstInvocationMetric.core =
        processor.core.onGauge (fun gauge => gauge.seeInitStart.flushPending) := by
  rw [core_flushPending, core_seeInitStart, core_tagDurableFunction]
  rfl

theorem core_measureInitDuration (initType : InitType) (durationMs : Rat) (timestamp : Int) :
    (processor.measureInitDuration initType durationMs timestamp).core = processor.core := by
  unfold measureInitDuration
  split
  · rfl
  · exact core_emit ⟨rfl, rfl⟩ processor

/-- The duration of a phase changes no id. -/
theorem core_coldStartDuration (duration : Int) (context : Context) :
    ({ context with coldStartSpan := context.coldStartSpan.map (fun span => { span with
      duration := duration }) } : Context).core = context.core := by
  unfold Context.core Context.traceView
  simp only [Option.map_map]
  rfl

theorem core_restoreDuration (duration : Int) (context : Context) :
    ({ context with snapstartRestoreSpan := context.snapstartRestoreSpan.map (fun span => { span with
      duration := duration }) } : Context).core = context.core := by
  unfold Context.core Context.traceView
  simp only [Option.map_map]
  rfl

theorem core_onPlatformInitReport (initType : InitType) (durationMs : Rat) (timestamp : Int) :
    (processor.onPlatformInitReport env initType durationMs timestamp).core = processor.core := by
  unfold onPlatformInitReport
  split
  · rw [core_update (core_coldStartDuration _), core_measureInitDuration]
  · rw [core_updateClosest (core_coldStartDuration _), core_measureInitDuration]

theorem core_onPlatformRestoreReport (durationMs : Rat) (timestamp : Int) :
    (processor.onPlatformRestoreReport durationMs timestamp).core = processor.core := by
  unfold onPlatformRestoreReport
  rw [core_updateClosest (core_restoreDuration _), core_emit ⟨rfl, rfl⟩]

theorem core_addStartTime (startTime : Int) :
    (processor.onContexts (ContextBuffer.addStartTime requestId startTime)).core =
      processor.core := by
  unfold ContextBuffer.addStartTime
  rw [core_update]
  intro context
  rfl

theorem core_reportCpuUtilization (data : Option EnhancedMetricData) :
    (processor.reportCpuUtilization data).core = processor.core := by
  cases data with
  | none => rfl
  | some => exact core_emit ⟨rfl, rfl⟩ processor

theorem core_countFailure (status : Status) (errorType : Option String)
    (timestamp : Int) :
    (processor.countFailure requestId status errorType timestamp).core =
      processor.core.onGauge (Gauge.addErrors (status != .success).toNat) := by
  unfold countFailure
  by_cases succeeded : status = .success
  · rw [if_pos succeeded, succeeded]
    rfl
  · have counted : (if status = .timeout then
        (processor.emit (.incrementErrorsMetric timestamp)).emit
          (.incrementTimeoutMetric timestamp)
        else processor.emit (.incrementErrorsMetric timestamp)).core =
        processor.core.onGauge (Gauge.addErrors 1) := by
      split
      · rw [core_emit ⟨rfl, rfl⟩, core_emit_error]
      · exact core_emit_error processor timestamp
    rw [if_neg succeeded, bne_iff_ne.mpr succeeded]
    simp only
    split
    · rw [core_tryIncrementOomMetric, counted]
      rfl
    · exact counted

theorem core_measureRuntimeDone (metrics : RuntimeDoneMetrics)
    (status : Status) (errorType : Option String) (timestamp : Int) :
    (processor.measureRuntimeDone env requestId metrics status errorType timestamp).core =
      processor.core.onGauge (Gauge.addErrors (status != .success).toNat) := by
  unfold measureRuntimeDone ContextBuffer.addRuntimeDuration
  rw [core_update]
  · split
    · rw [core_countFailure, core_emit ⟨rfl, rfl⟩]
    · rw [core_emit ⟨rfl, rfl⟩, core_emit ⟨rfl, rfl⟩, core_countFailure, core_emit ⟨rfl, rfl⟩]
  · intro context
    rfl

theorem core_measurePostRuntime (durationMs : Rat) (timestamp : Int) :
    (processor.measurePostRuntime requestId durationMs timestamp).core = processor.core := by
  unfold measurePostRuntime
  split
  · split
    · exact core_emit ⟨rfl, rfl⟩ processor
    · rfl
  · rfl

theorem core_handleOndemandReport (metrics : OnDemandReportMetrics)
    (timestamp : Int) :
    (processor.handleOndemandReport requestId metrics timestamp).core = processor.core := by
  have counted : (if metrics.maxMemoryUsedMb = metrics.memorySizeMb then
      processor.tryIncrementOomMetric (some requestId) timestamp else processor).core =
      processor.core := by
    split
    · exact core_tryIncrementOomMetric processor _ _
    · rfl
  unfold handleOndemandReport
  simp only
  split
  · rw [core_measureInitDuration, core_measurePostRuntime, counted]
  · rw [core_measurePostRuntime, counted]

theorem core_reportUsage :
    (processor.reportUsage requestId).core = processor.core := by
  unfold reportUsage
  split
  · rw [core_emit ⟨rfl, rfl⟩, core_emit ⟨rfl, rfl⟩]
  · rfl

theorem core_onShutdownEvent :
    (processor.onShutdownEvent env ambient).core = processor.core.onGauge Gauge.flushPending := by
  unfold onShutdownEvent
  split
  · rw [core_emit ⟨rfl, rfl⟩, core_emit ⟨rfl, rfl⟩, core_emit ⟨rfl, rfl⟩, core_emit ⟨rfl, rfl⟩,
      core_flushPending]
  · rw [core_emit ⟨rfl, rfl⟩, core_emit ⟨rfl, rfl⟩, core_flushPending]

theorem core_refreshInfo (info : ReparentingInfo) :
    (processor.onContexts (refreshInfo info)).core =
      processor.core.onGauge (fun gauge => gauge.refresh info) := by
  unfold core picture Core.onGauge onContexts refreshInfo view
  rw [map_modifyFirst]
  · rfl
  · intro existing _
    rfl

theorem core_addTracerSpan (span : Span) (clientComputedStats : Bool) :
    (processor.addTracerSpan span clientComputedStats).core = processor.core := by
  unfold addTracerSpan ContextBuffer.addTracerSpan
  split
  · rw [core_update]
    intro context
    rfl
  · rfl

end Processor
end Lifecycle
end Bottlecap
