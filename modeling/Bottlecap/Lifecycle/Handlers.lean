import Bottlecap.Lifecycle.Processor

namespace Bottlecap
namespace Lifecycle

open Foundations Extension

/-!
# The handlers and the command loop

The methods of `Processor` and the loop of `InvocationProcessorService`, which
handles one command after the other.  `Shutdown` ends that loop, so a run is the
list of commands received before it.  The channel ends and the services that a
command carries along are not modelled.
-/

namespace Processor

/-- `Processor::new` -/
def new : Processor where
  contextBuffer := ContextBuffer.default
  tracerDetected := false
  runtime := none
  dynamicTags := ∅
  activeInvocations := 0
  awaitingFirstInvocation := false
  restoreTime := none
  initDurationMetricEmitted := false
  dsmProcessedRequestIds := ∅
  firstInvocationMetricStatus := .pending
  effects := []

def emit (effect : Effect) (processor : Processor) : Processor :=
  { processor with effects := processor.effects ++ [effect] }

/-- An operation of the context buffer. -/
def onContexts (change : ContextBuffer -> ContextBuffer) (processor : Processor) : Processor :=
  { processor with contextBuffer := change processor.contextBuffer }

variable (env : Env) (ambient : Ambient)

/-! ## Data streams and out-of-memory reports -/

def resolveDsmEventbridgeExchange (configured : Option String) (edgeTags : List String) :
    List String :=
  if "type:eventbridge" ∈ edgeTags then
    let payloadExchange := (edgeTags.find? (fun tag => startsWith tag "exchange:")).map
      (fun tag => String.ofList (tag.toList.drop "exchange:".length))
    let exchange := (configured.or payloadExchange).getD "default"
    edgeTags.filter (fun tag => !startsWith tag "exchange:") ++ ["exchange:" ++ exchange]
  else edgeTags

def applyDsmKafkaGroupFallback (group : Option String) (edgeTags : List String) : List String :=
  match group with
  | none => edgeTags
  | some name =>
    if "type:kafka" ∈ edgeTags ∧ edgeTags.all (fun tag => !startsWith tag "group:") then
      edgeTags ++ ["group:" ++ name]
    else edgeTags

/-- The checkpoints of a payload, with the configured tags. -/
def dsmCheckpoints (payload : Value) : List DsmCheckpointInput :=
  match (env.triggers.fromValue payload).getTriggerType with
  | none => []
  | some trigger => trigger.getDsmCheckpoints.map (fun checkpoint => { checkpoint with
      edgeTags := applyDsmKafkaGroupFallback env.dsmKafkaGroup
        (resolveDsmEventbridgeExchange env.dsmExchangeName checkpoint.edgeTags) })

def recordDsmConsumeFromPayload (requestId : String) (payload : Value) (processor : Processor) :
    Processor :=
  if env.dsmEnabled then
    if requestId ∈ processor.dsmProcessedRequestIds then processor
    else
      (dsmCheckpoints env payload).foldl (fun current checkpoint =>
          current.emit (.recordConsume checkpoint))
        { processor with
          dsmProcessedRequestIds := insert requestId processor.dsmProcessedRequestIds }
  else processor

def tryIncrementOomMetric (requestId : Option String) (timestamp : Int) (processor : Processor) :
    Processor :=
  match requestId with
  | none => processor.emit (.incrementOomMetric timestamp)
  | some id =>
    match processor.contextBuffer.get id with
    | none => processor.emit (.incrementOomMetric timestamp)
    | some context =>
      if context.oomEmitted then processor
      else
        (processor.onContexts (ContextBuffer.update id (fun current => { current with
          oomEmitted := true }))).emit (.incrementOomMetric timestamp)

def onOutOfMemoryError (requestId : Option String) (timestamp : Int) : Processor -> Processor :=
  tryIncrementOomMetric requestId timestamp

/-! ## Sending spans -/

def sendSpans (requestId : Option String) (traces : List Span) (clientComputedStats : Bool)
    (spanPointers : Option (List SpanPointer)) : Processor -> Processor :=
  emit (.sendSpans requestId traces clientComputedStats spanPointers)

/-- `send_ctx_spans` on a context already handed over. -/
def sendCtxSpans (context : Context) : Processor -> Processor :=
  sendSpans (some context.requestId) context.getCtxSpans context.clientComputedStats
    context.inferred.spanPointers

def sendColdStartSpan (processor : Processor) : Processor :=
  match processor.contextBuffer.getContextWithColdStart.bind Context.coldStartSpan with
  | some span => if span.traceId = 0 then processor else processor.sendSpans none [span] false none
  | none => processor

def setColdStartSpanTraceId (traceId : UInt64) (processor : Processor) : Processor :=
  let spanId := (processor.contextBuffer.getContextWithColdStart.bind Context.coldStartSpan).map
    Span.spanId
  (processor.onContexts (ContextBuffer.updateColdStart (fun context => { context with
    coldStartSpan := context.coldStartSpan.map (fun span => { span with
      traceId := if span.traceId = 0 then traceId else span.traceId }) }))).emit
    (.answerColdStartSpanId spanId)

/-! ## Start and end events -/

def processOnUniversalInstrumentationStart (requestId : String)
    (event : UniversalInstrumentationData) (processor : Processor) : Processor :=
  match processor.contextBuffer.get requestId with
  | none => processor.emit (.processedStart requestId event false)
  | some _ =>
    (((processor.onContexts (ContextBuffer.update requestId
      (Context.onUniversalInstrumentationStart env ambient event))).emit
      (.processedStart requestId event true)).recordDsmConsumeFromPayload env requestId
        event.payloadValue)

def processOnUniversalInstrumentationEnd (requestId : String)
    (event : UniversalInstrumentationData) (processor : Processor) : Processor :=
  match processor.contextBuffer.get requestId with
  | none => processor.emit (.processedEnd requestId event false)
  | some context =>
    let processor := (processor.onContexts (ContextBuffer.update requestId
      (Context.onUniversalInstrumentationEnd env event))).emit
      (.processedEnd requestId event true)
    if (context.onUniversalInstrumentationEnd env event).invocationSpan.error = 1 then
      processor.emit (.incrementErrorsMetric ambient.unixSeconds)
    else processor

def onUniversalInstrumentationStart (event : UniversalInstrumentationData)
    (requestId : Option String) (processor : Processor) : Processor :=
  let processor := { processor with tracerDetected := true }
  match requestId with
  | some id =>
    if env.isManagedInstanceMode ∧ (processor.contextBuffer.get id).isSome then
      processor.processOnUniversalInstrumentationStart env ambient id event
    else
      let (paired, contexts) :=
        processor.contextBuffer.pairUniversalInstrumentationStartWithRequestId id event
      let processor := { processor with contextBuffer := contexts }
      if paired then processor.processOnUniversalInstrumentationStart env ambient id event
      else processor
  | none =>
    let (paired, contexts) :=
      processor.contextBuffer.pairUniversalInstrumentationStartEvent event
    let processor := { processor with contextBuffer := contexts }
    match paired with
    | some id => processor.processOnUniversalInstrumentationStart env ambient id event
    | none => processor

def onUniversalInstrumentationEnd (event : UniversalInstrumentationData)
    (requestId : Option String) (processor : Processor) : Processor :=
  match requestId with
  | some id =>
    let (paired, contexts) :=
      processor.contextBuffer.pairUniversalInstrumentationEndWithRequestId id event
    let processor := { processor with contextBuffer := contexts }
    if paired then processor.processOnUniversalInstrumentationEnd env ambient id event
    else processor
  | none =>
    let (paired, contexts) := processor.contextBuffer.pairUniversalInstrumentationEndEvent event
    let processor := { processor with contextBuffer := contexts }
    match paired with
    | some id => processor.processOnUniversalInstrumentationEnd env ambient id event
    | none => processor

/-! ## Invocations -/

/-- How `set_init_tags` classifies the invocation: whether it is a proactive
initialization, and whether it is a cold start. -/
def classifyInit (processor : Processor) : Bool × Bool :=
  if processor.contextBuffer.isEmpty then
    match if env.isSnapstart then processor.restoreTime else some env.sandboxInitTime with
    | none => (false, true)
    | some since =>
      if proactiveInitializationThresholdMs < (ambient.instant - since) / 1000000 then
        (true, false)
      else (false, true)
  else (false, false)

def setInitTags (processor : Processor) : Processor :=
  let (proactiveInitialization, coldStart) := processor.classifyInit env ambient
  let runtime := if processor.contextBuffer.isEmpty then some ambient.runtime else processor.runtime
  let tags := processor.dynamicTags
  let tags := if env.isManagedInstanceMode then tags else tags.insert "cold_start" (toString coldStart)
  let tags := if proactiveInitialization then tags.insert "proactive_initialization" "true" else tags
  let processor := { processor with runtime := runtime }
  let processor :=
    match runtime with
    | some name =>
      { processor with dynamicTags := tags.insert "runtime" name }.emit (.setRuntimeTag name)
    | none => { processor with dynamicTags := tags }
  processor.emit (.setInitTags proactiveInitialization coldStart)

/-- The tags are set before the invocation is added to the buffer. -/
def startInvocation (requestId : String) (processor : Processor) : Processor :=
  (processor.setInitTags env ambient).onContexts (ContextBuffer.startContext ambient.unixNanos
    requestId (createEmptySpan "aws.lambda" env.resource env.service))

/-- The context of the invocation: in Managed Instance mode the first one takes
over the empty context of the init phase. -/
def enterInvocation (requestId : String) (processor : Processor) : Processor :=
  if env.isManagedInstanceMode ∧ processor.awaitingFirstInvocation = true then
    let (found, contexts) := processor.contextBuffer.updateEmptyContextRequestId requestId
    let entered :=
      if found then { processor with contextBuffer := contexts }
      else processor.startInvocation env ambient requestId
    { entered with awaitingFirstInvocation := false }
  else processor.startInvocation env ambient requestId

def monitorUsage (requestId : String) (processor : Processor) : Processor :=
  if env.lambdaProcEnhancedMetrics then
    let processor :=
      if env.isManagedInstanceMode then
        let processor := { processor with activeInvocations := processor.activeInvocations + 1 }
        if processor.activeInvocations = 1 then
          processor.emit .resumeUsageMetricsMonitoring
        else processor
      else processor.emit .restartUsageMetricsMonitoring
    processor.onContexts (ContextBuffer.addEnhancedMetricData requestId (some ambient.offsets))
  else processor

/-- The invocation metric, held back for a cold start whose
`platform.initStart` has not been seen. -/
def countInvocation (processor : Processor) : Processor :=
  let isFirstOnDemandInvocation := !env.isManagedInstanceMode &&
    (processor.firstInvocationMetricStatus == .pending ||
      processor.firstInvocationMetricStatus == .initStartSeen)
  let processor :=
    if processor.firstInvocationMetricStatus = .pending ∧
        isFirstOnDemandInvocation = true then
      { processor with
        firstInvocationMetricStatus := .heldBack ambient.unixSeconds }
    else
      let processor := processor.emit (.incrementInvocationMetric ambient.unixSeconds)
      if isFirstOnDemandInvocation then
        { processor with firstInvocationMetricStatus := .resolved }
      else processor
  processor.emit .setInvokedReceived

/-- Look for the start event of a new invocation: by request id, and in
On-Demand mode then in order. -/
def pairInvocation (requestId : String) (processor : Processor) : Processor :=
  let (buffered, contexts) :=
    processor.contextBuffer.takeUniversalInstrumentationStartForRequestId requestId
  let processor := { processor with contextBuffer := contexts }
  match buffered with
  | some event => processor.processOnUniversalInstrumentationStart env ambient requestId event
  | none =>
    if env.isManagedInstanceMode then processor
    else
      let (queued, contexts) := processor.contextBuffer.pairInvokeEvent requestId
      let processor := { processor with contextBuffer := contexts }
      match queued with
      | some event => processor.processOnUniversalInstrumentationStart env ambient requestId event
      | none => processor

/-- The decision to hold the metric back reads only the metric status, which the
steps before it leave alone. -/
def onInvokeEvent (requestId : String) (processor : Processor) : Processor :=
  (((processor.enterInvocation env ambient requestId).monitorUsage env ambient requestId
    ).countInvocation env ambient).pairInvocation env ambient requestId

def flushPendingFirstInvocationMetric (processor : Processor) : Processor :=
  match processor.firstInvocationMetricStatus with
  | .heldBack timestamp =>
    { processor with firstInvocationMetricStatus := .resolved }.emit
      (.incrementInvocationMetric timestamp)
  | _ => processor

/-! ## Platform telemetry -/

/-- A span for a phase of the sandbox that begins at `time`. -/
def phaseSpan (name : String) (site : SpanIdSite) (time : DateTime) : Span :=
  { createEmptySpan name env.resource env.service with
    spanId := ambient.generateSpanId site
    start := startTimeOf time }

def tagDurableFunction (runtimeVersion : Option String) (processor : Processor) : Processor :=
  match runtimeVersion with
  | some version =>
    if contains version "DurableFunction" then processor.emit .setDurableFunctionTag
    else processor
  | none => processor

def seeInitStart (processor : Processor) : Processor :=
  if processor.firstInvocationMetricStatus = .pending then
    { processor with firstInvocationMetricStatus := .initStartSeen }
  else processor

/-- Seeing the start of the init phase leaves the contexts alone. -/
theorem beginInit_contextBuffer (runtimeVersion : Option String) (processor : Processor) :
    (processor.tagDurableFunction
      runtimeVersion).seeInitStart.flushPendingFirstInvocationMetric.contextBuffer =
      processor.contextBuffer := by
  have tagged : (processor.tagDurableFunction runtimeVersion).contextBuffer =
      processor.contextBuffer := by
    unfold tagDurableFunction
    split
    · split <;> rfl
    · rfl
  rw [<- tagged, flushPendingFirstInvocationMetric, seeInitStart]
  split <;> split <;> rfl

def onPlatformInitStart (time : DateTime) (runtimeVersion : Option String) (processor : Processor) :
    Processor :=
  let processor :=
    (processor.tagDurableFunction runtimeVersion).seeInitStart.flushPendingFirstInvocationMetric
  if env.isManagedInstanceMode then
    { processor.startInvocation env ambient "" with awaitingFirstInvocation := true }
  else
    let span := phaseSpan env ambient "aws.lambda.cold_start" .coldStart time
    processor.onContexts (ContextBuffer.updateClosest (startTimeOf time)
      (fun context => { context with coldStartSpan := some span }))

/-- The init duration metric is emitted once per sandbox. -/
def measureInitDuration (initType : InitType) (durationMs : Rat) (timestamp : Int)
    (processor : Processor) : Processor :=
  if processor.initDurationMetricEmitted then processor
  else
    { processor.emit (.setInitDurationMetric initType durationMs timestamp) with
      initDurationMetricEmitted := true }

def onPlatformInitReport (initType : InitType) (durationMs : Rat) (timestamp : Int)
    (processor : Processor) : Processor :=
  let processor := processor.measureInitDuration initType durationMs timestamp
  let addDuration (context : Context) : Context := { context with
    coldStartSpan := context.coldStartSpan.map (fun span => { span with
      duration := castI64 (mulF64 durationMs msToNs) }) }
  if env.isManagedInstanceMode then processor.onContexts (ContextBuffer.update "" addDuration)
  else processor.onContexts (ContextBuffer.updateClosest timestamp addDuration)

def onPlatformRestoreStart (time : DateTime) (processor : Processor) : Processor :=
  let span := phaseSpan env ambient "aws.lambda.snapstart_restore" .snapstartRestore time
  { processor with restoreTime := some ambient.instant }.onContexts
    (ContextBuffer.updateClosest (startTimeOf time)
      (fun context => { context with snapstartRestoreSpan := some span }))

def onPlatformRestoreReport (durationMs : Rat) (timestamp : Int) (processor : Processor) :
    Processor :=
  (processor.emit (.setSnapstartRestoreDurationMetric durationMs timestamp)).onContexts
    (ContextBuffer.updateClosest timestamp (fun context => { context with
      snapstartRestoreSpan := context.snapstartRestoreSpan.map (fun span => { span with
        duration := castI64 (mulF64 durationMs msToNs) }) }))

def onPlatformStart (requestId : String) (time : DateTime) (processor : Processor) : Processor :=
  let processor :=
    if env.isManagedInstanceMode then processor.onInvokeEvent env ambient requestId else processor
  processor.onContexts (ContextBuffer.addStartTime requestId (startTimeOf time))

def reportCpuUtilization (data : Option EnhancedMetricData) (processor : Processor) : Processor :=
  match data with
  | some offsets => processor.emit
      (.setCpuUtilizationEnhancedMetrics offsets.cpuOffset offsets.uptimeOffset)
  | none => processor

/-- `enrich_ctx_at_platform_done`, with the clone of the context it returns. -/
def enrichCtxAtPlatformDone (requestId : String) (status : Status) (processor : Processor) :
    Option Context × Processor :=
  match processor.contextBuffer.get requestId with
  | none => (none, processor)
  | some context =>
    let enrich := Context.atPlatformDone env ambient processor.tracerDetected
      processor.dynamicTags status
    (some (enrich context), (processor.onContexts (ContextBuffer.update requestId enrich)
      ).reportCpuUtilization context.enhancedMetricData)

def processOnPlatformRuntimeDone (requestId : String) (status : Status) (processor : Processor) :
    Processor :=
  let (context, processor) := processor.enrichCtxAtPlatformDone env ambient requestId status
  if processor.tracerDetected then
    match context with
    | some enriched =>
      if enriched.idsComplete then
        (processor.emit (.sendCtxSpans .runtimeDone enriched)).sendCtxSpans enriched
      else processor
    | none => processor
  else processor.sendColdStartSpan

/-- Look for the end event of a finished runtime: by request id, and in
On-Demand mode then in order. -/
def pairRuntimeDone (requestId : String) (processor : Processor) : Processor :=
  let (buffered, contexts) :=
    processor.contextBuffer.takeUniversalInstrumentationEndForRequestId requestId
  let processor := { processor with contextBuffer := contexts }
  match buffered with
  | some event => processor.processOnUniversalInstrumentationEnd env ambient requestId event
  | none =>
    if env.isManagedInstanceMode then processor
    else
      let (queued, contexts) := processor.contextBuffer.pairPlatformRuntimeDoneEvent requestId
      let processor := { processor with contextBuffer := contexts }
      match queued with
      | some event => processor.processOnUniversalInstrumentationEnd env ambient requestId event
      | none => processor

/-- The metrics of a runtime that did not succeed. -/
def countFailure (requestId : String) (status : Status) (errorType : Option String)
    (timestamp : Int) (processor : Processor) : Processor :=
  if status = .success then processor
  else
    let processor := processor.emit (.incrementErrorsMetric timestamp)
    let processor :=
      if status = .timeout then processor.emit (.incrementTimeoutMetric timestamp)
      else processor
    if status = .error ∧ errorType = some "Runtime.OutOfMemory" then
      processor.tryIncrementOomMetric (some requestId) timestamp
    else processor

/-- The metrics of a finished runtime. -/
def measureRuntimeDone (requestId : String) (metrics : RuntimeDoneMetrics) (status : Status)
    (errorType : Option String) (timestamp : Int) (processor : Processor) : Processor :=
  let processor := processor.emit (.setRuntimeDoneMetrics metrics timestamp)
  let processor := processor.countFailure requestId status errorType timestamp
  let processor :=
    if env.isManagedInstanceMode then processor
    else (processor.emit .setMaxEnhancedMetrics).emit .setUsageEnhancedMetrics
  processor.onContexts (ContextBuffer.addRuntimeDuration requestId metrics.durationMs)

def onPlatformRuntimeDone (requestId : String) (metrics : RuntimeDoneMetrics) (status : Status)
    (errorType : Option String) (timestamp : Int) (processor : Processor) : Processor :=
  ((processor.measureRuntimeDone env requestId metrics status errorType timestamp
    ).pairRuntimeDone env ambient requestId).processOnPlatformRuntimeDone env ambient requestId
      status

def releaseInvocationContext (requestId : String) (processor : Processor) : Processor :=
  { processor with
    dsmProcessedRequestIds := processor.dsmProcessedRequestIds.erase requestId
    contextBuffer := { processor.contextBuffer.remove requestId with
      sortedReparentingInfo := processor.contextBuffer.sortedReparentingInfo.filter
        (fun info => info.requestId != requestId) } }

/-- The synthesized `RuntimeDone` of a Managed Instance report takes its duration
from the `responseLatency` span, if there is one. -/
def synthesizedMetrics (metrics : ManagedInstanceReportMetrics)
    (spans : Option (List TelemetrySpan)) : RuntimeDoneMetrics where
  durationMs :=
    ((spans.bind (List.find? (fun span => span.name == "responseLatency"))).map
      TelemetrySpan.durationMs).getD metrics.durationMs
  producedBytes := none

def handleManagedInstanceReport (requestId : String) (metrics : ManagedInstanceReportMetrics)
    (timestamp : Int) (status : Status) (errorType : Option String)
    (spans : Option (List TelemetrySpan)) (processor : Processor) : Processor :=
  let processor := { processor with activeInvocations := processor.activeInvocations - 1 }
  let processor :=
    if processor.activeInvocations = 0 then processor.emit .pauseUsageMetricsMonitoring
    else processor
  if (processor.contextBuffer.get requestId).isSome then
    processor.onPlatformRuntimeDone env ambient requestId (synthesizedMetrics metrics spans) status
      errorType timestamp
  else processor

def measurePostRuntime (requestId : String) (durationMs : Rat) (timestamp : Int)
    (processor : Processor) : Processor :=
  match processor.contextBuffer.get requestId with
  | some context =>
    if context.runtimeDurationMs ≠ 0 then
      processor.emit (.setPostRuntimeDurationMetric
        (durationMs - context.runtimeDurationMs) timestamp)
    else processor
  | none => processor

def handleOndemandReport (requestId : String) (metrics : OnDemandReportMetrics) (timestamp : Int)
    (processor : Processor) : Processor :=
  let processor :=
    if metrics.maxMemoryUsedMb = metrics.memorySizeMb then
      processor.tryIncrementOomMetric (some requestId) timestamp
    else processor
  let processor := processor.measurePostRuntime requestId metrics.durationMs timestamp
  match metrics.initDurationMs with
  | some durationMs => processor.measureInitDuration .onDemand durationMs timestamp
  | none => processor

def reportUsage (requestId : String) (processor : Processor) : Processor :=
  match (processor.contextBuffer.get requestId).bind Context.enhancedMetricData with
  | some offsets =>
    (processor.emit (.setNetworkEnhancedMetrics offsets.networkOffset)).emit
      (.setCpuTimeEnhancedMetrics offsets.cpuOffset)
  | none => processor

def onPlatformReport (requestId : String) (metrics : ReportMetrics) (timestamp : Int)
    (status : Status) (errorType : Option String) (spans : Option (List TelemetrySpan))
    (processor : Processor) : Processor :=
  let processor := processor.emit (.setReportLogMetrics metrics timestamp)
  let processor :=
    match metrics with
    | .managedInstance metrics =>
      processor.handleManagedInstanceReport env ambient requestId metrics timestamp status
        errorType spans
    | .onDemand metrics => processor.handleOndemandReport requestId metrics timestamp
  (processor.reportUsage requestId).releaseInvocationContext requestId

def onShutdownEvent (processor : Processor) : Processor :=
  let processor := processor.flushPendingFirstInvocationMetric
  let processor := (processor.emit (.setShutdownMetric ambient.unixSeconds)).emit
    (.setUnusedInitMetric ambient.unixSeconds)
  if env.isManagedInstanceMode then
    (processor.emit .setMaxEnhancedMetrics).emit .setUsageEnhancedMetrics
  else processor

/-! ## Reparenting -/

def addReparenting (requestId : String) (spanId parentId : UInt64) (processor : Processor) :
    Processor :=
  processor.onContexts (fun contexts =>
    let infos := contexts.sortedReparentingInfo
    if infos.any (fun info => info.requestId == requestId) then contexts
    else
      let kept := if infos.length = contexts.capacity then infos.tail else infos
      { contexts with sortedReparentingInfo := kept ++ [
        { requestId := requestId
          invocationSpanId := spanId
          parentIdToReparent := parentId
          guessedTraceId := 0
          needsTraceId := true }] })

/-- The entry of the buffer is brought up to date with what the caller found. -/
def refreshInfo (info : ReparentingInfo) (contexts : ContextBuffer) : ContextBuffer :=
  let refreshed := modifyFirst (fun existing => existing.requestId == info.requestId)
    (fun existing => { existing with
      needsTraceId := info.needsTraceId
      guessedTraceId := info.guessedTraceId }) contexts.sortedReparentingInfo
  { contexts with sortedReparentingInfo := refreshed }

/-- One iteration of the loop of `update_reparenting`.  A context is handed to
`send_ctx_spans` only if this iteration filled in one of its ids. -/
def updateReparentingEntry (processor : Processor) (info : ReparentingInfo) : Processor :=
  let processor :=
    match processor.contextBuffer.get info.requestId with
    | none => processor
    | some context =>
      let updated := context.reparent info
      let processor := processor.onContexts
        (ContextBuffer.update info.requestId (Context.reparent info))
      if context.idsComplete = false ∧ updated.idsComplete = true ∧
          updated.runtimeDoneReceived = true then
        processor.emit (.sendCtxSpans .updateReparenting updated)
      else processor
  processor.onContexts (refreshInfo info)

def updateReparenting (infos : List ReparentingInfo) (processor : Processor) : Processor :=
  infos.foldl updateReparentingEntry processor

def addTracerSpan (span : Span) (clientComputedStats : Bool) (processor : Processor) : Processor :=
  match span.metaTags.lookup "request_id" with
  | some requestId =>
    processor.onContexts (ContextBuffer.addTracerSpan requestId span clientComputedStats)
  | none => processor

end Processor

/-- `ProcessorCommand` -/
inductive Command where
  | invokeEvent (requestId : String)
  | platformInitStart (time : DateTime) (runtimeVersion : Option String)
  | platformInitReport (initType : InitType) (durationMs : Rat) (timestamp : Int)
  | platformRestoreStart (time : DateTime)
  | platformRestoreReport (durationMs : Rat) (timestamp : Int)
  | platformStart (requestId : String) (time : DateTime)
  | platformRuntimeDone (requestId : String) (metrics : RuntimeDoneMetrics) (status : Status)
      (errorType : Option String) (timestamp : Int)
  | platformReport (requestId : String) (metrics : ReportMetrics) (timestamp : Int)
      (status : Status) (errorType : Option String) (spans : Option (List TelemetrySpan))
  | universalInstrumentationStart (event : UniversalInstrumentationData)
      (requestId : Option String)
  | recordDsmConsumeFromPayload (requestId : String) (payload : Value)
  | universalInstrumentationEnd (event : UniversalInstrumentationData) (requestId : Option String)
  | addReparenting (requestId : String) (spanId parentId : UInt64)
  | getReparentingInfo
  | updateReparenting (infos : List ReparentingInfo)
  | setColdStartSpanTraceId (traceId : UInt64)
  | addTracerSpan (span : Span) (clientComputedStats : Bool)
  | forwardDurableContext (requestId executionId executionName : String)
      (firstInvocation : Option Bool) (executionStatus : Option String)
  | onOutOfMemoryError (requestId : Option String) (timestamp : Int)
  | onShutdownEvent
  | sendCtxSpans (context : Context)

namespace Processor

variable (env : Env)

/-- One iteration of the command loop. -/
def handle (ambient : Ambient) (processor : Processor) : Command -> Processor
  | .invokeEvent requestId => processor.onInvokeEvent env ambient requestId
  | .platformInitStart time runtimeVersion =>
    processor.onPlatformInitStart env ambient time runtimeVersion
  | .platformInitReport initType durationMs timestamp =>
    processor.onPlatformInitReport env initType durationMs timestamp
  | .platformRestoreStart time => processor.onPlatformRestoreStart env ambient time
  | .platformRestoreReport durationMs timestamp =>
    processor.onPlatformRestoreReport durationMs timestamp
  | .platformStart requestId time => processor.onPlatformStart env ambient requestId time
  | .platformRuntimeDone requestId metrics status errorType timestamp =>
    processor.onPlatformRuntimeDone env ambient requestId metrics status errorType timestamp
  | .platformReport requestId metrics timestamp status errorType spans =>
    processor.onPlatformReport env ambient requestId metrics timestamp status errorType spans
  | .universalInstrumentationStart event requestId =>
    processor.onUniversalInstrumentationStart env ambient event requestId
  | .recordDsmConsumeFromPayload requestId payload =>
    processor.recordDsmConsumeFromPayload env requestId payload
  | .universalInstrumentationEnd event requestId =>
    processor.onUniversalInstrumentationEnd env ambient event requestId
  | .addReparenting requestId spanId parentId =>
    processor.addReparenting requestId spanId parentId
  | .getReparentingInfo =>
    processor.emit (.answerReparentingInfo processor.contextBuffer.sortedReparentingInfo)
  | .updateReparenting infos => processor.updateReparenting infos
  | .setColdStartSpanTraceId traceId => processor.setColdStartSpanTraceId traceId
  | .addTracerSpan span clientComputedStats =>
    processor.addTracerSpan span clientComputedStats
  | .forwardDurableContext requestId executionId executionName firstInvocation
      executionStatus =>
      processor.emit (.forwardDurableContext requestId executionId executionName
        firstInvocation executionStatus)
  | .onOutOfMemoryError requestId timestamp =>
    processor.onOutOfMemoryError requestId timestamp
  | .onShutdownEvent => processor.onShutdownEvent env ambient
  | .sendCtxSpans context => processor.sendCtxSpans context

/-- A command together with what its handler reads while it runs. -/
structure Input where
  ambient : Ambient
  command : Command

def step (processor : Processor) (input : Input) : Processor :=
  processor.handle env input.ambient input.command

/-- The loop of `InvocationProcessorService::run` over the commands received. -/
def run (processor : Processor) (inputs : List Input) : Processor :=
  inputs.foldl (step env) processor

theorem run_append_cons (processor : Processor) (before : List Input) (input : Input)
    (after : List Input) : processor.run env (before ++ input :: after) =
      ((processor.run env before).step env input).run env after := by
  unfold run
  rw [List.foldl_append, List.foldl_cons]

end Processor

/-! ## A plain environment -/

/-- No trigger is recognised, nothing is captured, and no carrier holds a trace
context. -/
def Env.plain (isManagedInstanceMode : Bool) : Env where
  libraries :=
    { jsonToString := fun _ => none
      jsonFromStr := fun _ => none
      floatToString := fun _ => ""
      parseF64 := fun _ => none
      base64ToString := fun _ => none
      toLowercase := id
      extractFromMap := fun _ => none
      extractFromJson := fun _ => none }
  triggers :=
    { fromValue := fun _ => .unknown
      snsFromBody := fun _ => none
      eventBridgeFromText := fun _ => none }
  inferrer := ⟨none, false, false⟩
  isManagedInstanceMode := isManagedInstanceMode
  isSnapstart := false
  sandboxInitTime := 0
  resource := "function"
  service := "aws.lambda"
  lambdaProcEnhancedMetrics := false
  captureLambdaPayload := false
  captureLambdaPayloadMaxDepth := 10
  dsmEnabled := false
  dsmExchangeName := none
  dsmKafkaGroup := none

/-- Clocks at zero, and one span id for every place that generates one. -/
def Ambient.still : Ambient where
  unixSeconds := 0
  unixNanos := 0
  instant := 0
  runtime := "provided"
  offsets := ⟨none, none, none⟩
  generateSpanId := fun _ => 7

/-- The command handled at that instant. -/
def Command.still (command : Command) : Processor.Input := ⟨Ambient.still, command⟩

/-- A report of an On-Demand invocation that used half of its memory. -/
def Command.reportOf (requestId : String) : Command :=
  .platformReport requestId (.onDemand ⟨5, 5, 128, 64, none, none⟩) 0
    .success none none

/-- The report of a Managed Instance invocation. -/
def Command.managedReportOf (requestId : String) : Command :=
  .platformReport requestId (.managedInstance ⟨5⟩) 0 .success none none

def Command.runtimeDoneOf (requestId : String) (status : Status) : Command :=
  .platformRuntimeDone requestId ⟨5, none⟩ status none 0

/-- A start event without trace context, which shows that there is a tracer. -/
def Command.tracerStart : Command :=
  .universalInstrumentationStart ⟨∅, .null⟩ none

def Command.endOf (traceId spanId : String) : Command :=
  .universalInstrumentationEnd
    ⟨[⟨"x-datadog-trace-id", traceId⟩, ⟨"x-datadog-span-id", spanId⟩].toAList, .null⟩ none

end Lifecycle
end Bottlecap
