import Mathlib.Data.Finset.Basic
import Bottlecap.Extension.Events
import Bottlecap.Lifecycle.Context

namespace Bottlecap
namespace Lifecycle

open Foundations Extension

/-!
# The invocation processor

`lifecycle/invocation/processor.rs`: one state that the telemetry events, the
tracer's start and end requests and the trace agent all write to.  `Env` is what
the processor is constructed with.  `Ambient` is what a handler reads from its
surroundings while it runs: clocks, the proc file system and random span ids,
one for each place of the code that generates one.

A handler returns the next state.  What it tells the rest of the extension is
appended to `effects`: the calls of the enhanced metrics, spans handed to the
trace sender, checkpoints, answers of request commands, and which start or end
event was processed for which request.
-/

structure Env where
  libraries : Libraries
  triggers : Triggers
  inferrer : InferrerConfig
  isManagedInstanceMode : Bool
  isSnapstart : Bool
  sandboxInitTime : Nat
  resource : String
  service : String
  lambdaProcEnhancedMetrics : Bool
  captureLambdaPayload : Bool
  captureLambdaPayloadMaxDepth : Nat
  dsmEnabled : Bool
  dsmExchangeName : Option String
  dsmKafkaGroup : Option String

/-- The places that call `generate_span_id`, each at most once per command. -/
inductive SpanIdSite where
  | coldStart
  | snapstartRestore
  | inferred
  | wrapped
  | timeoutTrace
  | timeoutSpan
  deriving DecidableEq

/-- Readings while a command is handled.  An `Instant` counts nanoseconds. -/
structure Ambient where
  unixSeconds : Int
  unixNanos : Int
  instant : Nat
  runtime : String
  offsets : EnhancedMetricData
  generateSpanId : SpanIdSite -> UInt64

/-- The two callers of `send_ctx_spans`.  The contexts that `update_reparenting`
returns come back from the trace agent as the command `SendCtxSpans`. -/
inductive SendPath where
  | runtimeDone
  | updateReparenting
  deriving DecidableEq

inductive Effect where
  | setInitTags (proactiveInitialization coldStart : Bool)
  | setRuntimeTag (runtime : String)
  | setDurableFunctionTag
  | incrementInvocationMetric (timestamp : Int)
  | setInvokedReceived
  | resumeUsageMetricsMonitoring
  | restartUsageMetricsMonitoring
  | pauseUsageMetricsMonitoring
  | setInitDurationMetric (initType : InitType) (durationMs : Rat) (timestamp : Int)
  | setSnapstartRestoreDurationMetric (durationMs : Rat) (timestamp : Int)
  | setRuntimeDoneMetrics (metrics : RuntimeDoneMetrics) (timestamp : Int)
  | incrementErrorsMetric (timestamp : Int)
  | incrementTimeoutMetric (timestamp : Int)
  | incrementOomMetric (timestamp : Int)
  | setMaxEnhancedMetrics
  | setUsageEnhancedMetrics
  | setCpuUtilizationEnhancedMetrics (cpuOffset : Option CPUData) (uptimeOffset : Option Rat)
  | setNetworkEnhancedMetrics (networkOffset : Option NetworkData)
  | setCpuTimeEnhancedMetrics (cpuOffset : Option CPUData)
  | setReportLogMetrics (metrics : ReportMetrics) (timestamp : Int)
  | setPostRuntimeDurationMetric (durationMs : Rat) (timestamp : Int)
  | setShutdownMetric (timestamp : Int)
  | setUnusedInitMetric (timestamp : Int)
  | sendCtxSpans (path : SendPath) (context : Context)
  /-- `requestId` says whose context the spans are those of, if of one. -/
  | sendSpans (requestId : Option String) (traces : List Span) (clientComputedStats : Bool)
      (spanPointers : Option (List SpanPointer))
  | recordConsume (checkpoint : DsmCheckpointInput)
  | forwardDurableContext (requestId executionId executionName : String)
      (firstInvocation : Option Bool) (executionStatus : Option String)
  | answerReparentingInfo (infos : List ReparentingInfo)
  | answerColdStartSpanId (spanId : Option UInt64)
  | processedStart (requestId : String) (event : UniversalInstrumentationData) (found : Bool)
  | processedEnd (requestId : String) (event : UniversalInstrumentationData) (found : Bool)

inductive FirstInvocationMetricStatus where
  | pending
  | initStartSeen
  | heldBack (timestamp : Int)
  | resolved
  deriving DecidableEq

structure Processor where
  contextBuffer : ContextBuffer
  tracerDetected : Bool
  runtime : Option String
  dynamicTags : Tags
  activeInvocations : Nat
  awaitingFirstInvocation : Bool
  restoreTime : Option Nat
  initDurationMetricEmitted : Bool
  dsmProcessedRequestIds : Finset String
  firstInvocationMetricStatus : FirstInvocationMetricStatus
  effects : List Effect

def proactiveInitializationThresholdMs : Nat := 10000

/-- `SystemTime::from(time)` since the epoch in nanoseconds, `0` when it does
not fit an `i64`. -/
def startTimeOf (time : DateTime) : Int := if time < 2 ^ 63 then (time : Int) else 0

/-! ## What the handlers do to one context -/

namespace Context

variable (env : Env) (ambient : Ambient)

/-- The part of `process_on_universal_instrumentation_start` that works on the
context it found. -/
def onUniversalInstrumentationStart (event : UniversalInstrumentationData) (context : Context) :
    Context :=
  let inferred := inferSpan env.libraries env.triggers env.inferrer
    (ambient.generateSpanId .inferred) (ambient.generateSpanId .wrapped)
    event.payloadValue
  let invocation := context.invocationSpan
  let invocation :=
    if env.captureLambdaPayload then { invocation with
      metaTags := extend invocation.metaTags (getMetadataFromValue env.libraries
        env.captureLambdaPayloadMaxDepth "function.request" event.payloadValue) }
    else invocation
  let extracted := extractSpanContext env.libraries env.triggers event.headers event.payloadValue
  let (invocation, inferred) : Span × InferredSpanData :=
    match extracted with
    | none => (invocation, inferred)
    | some spanContext =>
      let invocation := { invocation with
        traceId := spanContext.lowTraceId
        parentId := spanContext.spanId }
      if inferred.inferredSpan.isSome then
        (invocation, (inferred.setParentId spanContext.spanId).extendMeta spanContext.tags)
      else
        ({ invocation with metaTags := extend invocation.metaTags spanContext.tags }, inferred)
  let invocation :=
    match inferred.inferredSpan with
    | some span => { invocation with parentId := span.spanId }
    | none => invocation
  { context with
    invocationSpan := invocation
    inferred := inferred
    extractedSpanContext := extracted }

def isServerError (statusCode : String) : Bool :=
  statusCode.length == 3 && startsWith statusCode "5"

/-- The status code of the response, on the invocation span and the inferred
one. -/
def onStatusCode (payload : Value) (context : Context) : Context :=
  match (payload.get "statusCode").bind Value.asI64 with
  | none => context
  | some statusCode =>
    let text := toString statusCode
    let invocation := context.invocationSpan
    { context with
      invocationSpan := { invocation with
        metaTags := invocation.metaTags.insert "http.status_code" text
        error := if isServerError text then 1 else invocation.error }
      inferred := context.inferred.setStatusCode text }

/-- `header.parse::<u64>().unwrap_or(0)` for a header that is present. -/
def headerId (headers : Tags) (key : String) : Option UInt64 :=
  (headers.lookup key).map (fun text => (parseU64 text).getD 0)

def decodeOrKeep (text : String) : String := (env.libraries.base64ToString text).getD text

def getErrorTagsFromHeaders (headers : Tags) (hasError : Bool) : Option Tags :=
  let message := headers.lookup "x-datadog-invocation-error-msg"
  let type := headers.lookup "x-datadog-invocation-error-type"
  let stack := headers.lookup "x-datadog-invocation-error-stack"
  let flagged :=
    match headers.lookup "x-datadog-invocation-error" with
    | some value => env.libraries.toLowercase value == "true"
    | none => false
  let decoded (key : String) (value : Option String) (tags : Tags) : Tags :=
    match value with
    | some text => tags.insert key (decodeOrKeep env text)
    | none => tags
  if flagged || message.isSome || stack.isSome || type.isSome || hasError then
    some (decoded "error.stack" stack (decoded "error.type" type (decoded "error.msg" message ∅)))
  else none

/-- The trace context a finished invocation takes: the extracted one, or the
tracer's own from the headers when no trace id was extracted. -/
def endTraceContext (headers : Tags) (context : Context) : UInt64 × UInt64 × Tags :=
  let (traceId, parentId, tags) : UInt64 × UInt64 × Tags :=
    match context.extractedSpanContext with
    | some spanContext => (spanContext.lowTraceId, spanContext.spanId, spanContext.tags)
    | none => (0, 0, ∅)
  if traceId = 0 then
    ((headerId headers "x-datadog-trace-id").getD traceId,
      (headerId headers "x-datadog-parent-id").getD parentId,
      extractPropagationTags ((headers.lookup "x-datadog-tags").getD ""))
  else (traceId, parentId, tags)

/-- The sampling priority is read only together with the tracer's own context. -/
def onSamplingPriority (headers : Tags) (context : Context) : Context :=
  let extractedId := (context.extractedSpanContext.map SpanContext.lowTraceId).getD 0
  match (headers.lookup "x-datadog-sampling-priority").bind env.libraries.parseF64 with
  | some priority =>
    if extractedId = 0 then { context with
      invocationSpan := { context.invocationSpan with
        metrics := context.invocationSpan.metrics.insert "_sampling_priority_v1" priority } }
    else context
  | none => context

/-- The payload of the response as tags, if payloads are captured. -/
def captureResponse (payload : Value) (context : Context) : Context :=
  if env.captureLambdaPayload then { context with
    invocationSpan := { context.invocationSpan with
      metaTags := extend context.invocationSpan.metaTags (getMetadataFromValue env.libraries
        env.captureLambdaPayloadMaxDepth "function.response" payload) } }
  else context

/-- The ids, tags and errors that the headers of an end event bring. -/
def onEndHeaders (headers : Tags) (context : Context) : Context :=
  let (traceId, parentId, tags) := context.endTraceContext headers
  let context := context.onSamplingPriority env headers
  let invocation := context.invocationSpan
  let invocation := { invocation with
    spanId := (headerId headers "x-datadog-span-id").getD invocation.spanId
    traceId := if traceId = 0 then invocation.traceId else traceId }
  let (invocation, inferred) : Span × InferredSpanData :=
    if context.inferred.inferredSpan.isSome then (invocation, context.inferred.extendMeta tags)
    else
      ({ invocation with
        parentId := parentId
        metaTags := extend invocation.metaTags tags }, context.inferred)
  let invocation :=
    match getErrorTagsFromHeaders env headers (invocation.error == 1) with
    | some errorTags => { invocation with
        metaTags := extend invocation.metaTags errorTags
        error := 1 }
    | none => invocation
  { context with invocationSpan := invocation, inferred := inferred }

/-- The part of `process_on_universal_instrumentation_end` that works on the
context it found. -/
def onUniversalInstrumentationEnd (event : UniversalInstrumentationData) (context : Context) :
    Context :=
  ((context.captureResponse env event.payloadValue).onStatusCode event.payloadValue).onEndHeaders
    env event.headers

/-- The timeout case of `enrich_ctx_at_platform_done`. -/
def onTimeout (status : Status) (context : Context) : Context :=
  if status = .timeout then
    let invocation := context.invocationSpan
    let tags := invocation.metaTags.insert "error.msg" "Datadog detected a Timeout"
    { context with invocationSpan := { invocation with
        traceId := if invocation.traceId = 0 then
          ambient.generateSpanId .timeoutTrace else invocation.traceId
        spanId := if invocation.spanId = 0 then
          ambient.generateSpanId .timeoutSpan else invocation.spanId
        error := 1
        metaTags := tags.insert "error.type" "Timeout" } }
  else context

/-- A companion span takes the trace of the invocation span. -/
def adoptTrace (invocation companion : Span) : Span :=
  { companion with traceId := invocation.traceId, parentId := invocation.parentId }

/-- The part of `enrich_ctx_at_platform_done` that works on the context it
found. -/
def atPlatformDone (tracerDetected : Bool) (dynamicTags : Tags) (status : Status)
    (context : Context) : Context :=
  let context := { context with runtimeDoneReceived := true }.onTimeout ambient status
  let invocation := context.invocationSpan
  let tags := extend invocation.metaTags dynamicTags
  let tags :=
    match context.inferred.triggerTags with
    | some triggerTags => extend tags triggerTags
    | none => tags
  let metrics :=
    if env.inferrer.serverlessAppsecEnabled && (invocation.metrics.lookup "_dd.appsec.enabled").isNone
    then invocation.metrics.insert "_dd.appsec.enabled" 1
    else invocation.metrics
  let invocation := { invocation with metaTags := tags, metrics := metrics }
  { context with
    invocationSpan := invocation
    inferred := completeInferredSpans env.inferrer invocation context.inferred
    coldStartSpan :=
      if invocation.traceId ≠ 0 ∧ tracerDetected = true then
        context.coldStartSpan.map (adoptTrace invocation)
      else context.coldStartSpan
    snapstartRestoreSpan :=
      if invocation.traceId ≠ 0 then context.snapstartRestoreSpan.map (adoptTrace invocation)
      else context.snapstartRestoreSpan }

/-- The ids that one entry of `update_reparenting` fills in. -/
def reparent (info : ReparentingInfo) (context : Context) : Context :=
  let invocation := context.invocationSpan
  { context with invocationSpan := { invocation with
      spanId := if invocation.spanId = 0 then info.invocationSpanId else invocation.spanId
      traceId := if invocation.traceId = 0 then info.guessedTraceId else invocation.traceId } }

/-- Both ids of the invocation span are set. -/
def idsComplete (context : Context) : Bool :=
  context.invocationSpan.traceId != 0 && context.invocationSpan.spanId != 0

/-- The spans of `get_ctx_spans`, in order. -/
def getCtxSpans (context : Context) : List Span :=
  [context.invocationSpan] ++ context.inferred.inferredSpan.toList ++
    context.inferred.wrappedInferredSpan.toList ++
    (match context.snapstartRestoreSpan with
      | some span => [span]
      | none => context.coldStartSpan.toList)

end Context
end Lifecycle
end Bottlecap
