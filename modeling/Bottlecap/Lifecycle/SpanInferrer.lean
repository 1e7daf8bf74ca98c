import Bottlecap.Lifecycle.Span

namespace Bottlecap
namespace Lifecycle

open Foundations

/-!
# Inferring the upstream spans

`lifecycle/invocation/span_inferrer.rs` reads the payload of an invocation and
builds the span of the service that triggered it, and the span of a message
wrapped in that one.  A trigger is a trait object of the source.  Here it is the
record of what its methods return for the configuration in force; which trigger
a payload is, and which triggers the wrapped texts parse to, are functions of
`Triggers`.
-/

structure SpanPointer where
  hash : String
  kind : String

/-- `DsmCheckpointInput` -/
structure DsmCheckpointInput where
  edgeTags : List String
  carrier : Tags
  payloadSizeBytes : Rat

/-- The methods of `dyn Trigger`.  `enrichSpan` and `hasServiceMappingEntry`
are already applied to the service mapping, `getArn` and `getDdResourceKey` to
the region, and `getDsmCheckpoints` to the payload. -/
structure Trigger where
  enrichSpan : Span -> Span
  getTags : Tags
  getArn : String
  getCarrier : Tags
  isAsync : Bool
  getDsmCheckpoints : List DsmCheckpointInput
  getDdResourceKey : Option String
  hasServiceMappingEntry : Bool

/-- `IdentifiedTrigger`, with the parts of a record that the inferrer reads
directly. -/
inductive IdentifiedTrigger where
  | apiGatewayHttpEvent (trigger : Trigger)
  | apiGatewayRestEvent (trigger : Trigger)
  | apiGatewayWebSocketEvent (trigger : Trigger)
  | albEvent (trigger : Trigger)
  | lambdaFunctionUrlEvent (trigger : Trigger)
  | mskEvent (trigger : Trigger)
  | sqsRecord (trigger : Trigger) (body : String) (awsTraceContext : Option SpanContext)
  | snsRecord (trigger : Trigger) (message : Option String)
  | dynamoDbRecord (trigger : Trigger) (pointers : Option (List SpanPointer))
  | s3Record (trigger : Trigger) (pointers : Option (List SpanPointer))
  | eventBridgeEvent (trigger : Trigger)
  | kinesisRecord (trigger : Trigger)
  | stepFunctionEvent (trigger : Trigger) (spanContext : SpanContext)
  | unknown

/-- How payloads and wrapped messages parse to triggers. -/
structure Triggers where
  fromValue : Value -> IdentifiedTrigger
  snsFromBody : String -> Option Trigger
  eventBridgeFromText : String -> Option Trigger

/-- `Config` as far as the inferrer reads it. -/
structure InferrerConfig where
  service : Option String
  traceRemoveIntegrationServiceNamesEnabled : Bool
  serverlessAppsecEnabled : Bool

namespace IdentifiedTrigger

def getTriggerType : IdentifiedTrigger -> Option Trigger
  | apiGatewayHttpEvent trigger => some trigger
  | apiGatewayRestEvent trigger => some trigger
  | apiGatewayWebSocketEvent trigger => some trigger
  | albEvent trigger => some trigger
  | lambdaFunctionUrlEvent trigger => some trigger
  | mskEvent trigger => some trigger
  | sqsRecord trigger _ _ => some trigger
  | snsRecord trigger _ => some trigger
  | dynamoDbRecord trigger _ => some trigger
  | s3Record trigger _ => some trigger
  | eventBridgeEvent trigger => some trigger
  | kinesisRecord trigger => some trigger
  | stepFunctionEvent trigger _ => some trigger
  | unknown => none

def shouldEnrichSpan : IdentifiedTrigger -> Bool
  | albEvent _ => false
  | stepFunctionEvent _ _ => false
  | unknown => false
  | _ => true

def extractGeneratedSpanContext : IdentifiedTrigger -> Option SpanContext
  | stepFunctionEvent _ spanContext => some spanContext
  | sqsRecord _ _ awsTraceContext => awsTraceContext
  | _ => none

def shouldSkipInferredSpan (identified : IdentifiedTrigger) : Bool :=
  match identified with
  | albEvent _ => true
  | stepFunctionEvent _ _ => identified.extractGeneratedSpanContext.isSome
  | _ => false

def getSpanPointers : IdentifiedTrigger -> Option (List SpanPointer)
  | dynamoDbRecord _ pointers => pointers
  | s3Record _ pointers => pointers
  | _ => none

/-- The trigger wrapped in a record: SNS or EventBridge in an SQS body,
EventBridge in an SNS message. -/
def wrappedTrigger (triggers : Triggers) : IdentifiedTrigger -> Option Trigger
  | sqsRecord _ body _ =>
    match triggers.snsFromBody body with
    | some sns => some sns
    | none => triggers.eventBridgeFromText body
  | snsRecord _ (some message) => triggers.eventBridgeFromText message
  | _ => none

end IdentifiedTrigger

def applyBaseServiceOverride (libraries : Libraries) (config : InferrerConfig) (trigger : Trigger)
    (span : Span) : Span :=
  if !config.traceRemoveIntegrationServiceNamesEnabled then span
  else
    match config.service with
    | none => span
    | some service =>
      if service.isEmpty || trigger.hasServiceMappingEntry then span
      else { span with service := libraries.toLowercase service }

def markInferred (synchronicity : String) (span : Span) : Span :=
  let tags := span.metaTags.insert "_inferred_span.tag_source" "self"
  { span with metaTags := tags.insert "_inferred_span.synchronicity" synchronicity }

/-- `get_wrapped_inferred_span`: the wrapped span, and the inferred span with
the tags of the wrapped trigger. -/
def getWrappedInferredSpan (libraries : Libraries) (triggers : Triggers) (config : InferrerConfig)
    (wrappedSpanId : UInt64) (identified : IdentifiedTrigger) (inferredSpan : Span) :
    Option Span × Span :=
  match identified.wrappedTrigger triggers with
  | none => (none, inferredSpan)
  | some trigger =>
    let wrapped := applyBaseServiceOverride libraries config trigger
      (trigger.enrichSpan { spanId := wrappedSpanId })
    let inferredSpan := { inferredSpan with
      metaTags := extend inferredSpan.metaTags trigger.getTags }
    let wrapped := { wrapped with duration := inferredSpan.start - wrapped.start }
    (some (markInferred "async" wrapped), inferredSpan)

/-- `InferredSpanData`, kept on the context of its invocation. -/
structure InferredSpanData where
  inferredSpan : Option Span := none
  wrappedInferredSpan : Option Span := none
  isAsyncSpan : Bool := false
  triggerTags : Option Tags := none
  spanPointers : Option (List SpanPointer) := none

namespace InferredSpanData

def updateInferred (change : Span -> Span) (data : InferredSpanData) : InferredSpanData :=
  { data with inferredSpan := data.inferredSpan.map change }

def setParentId (parentId : UInt64) : InferredSpanData -> InferredSpanData :=
  updateInferred (fun span => { span with parentId := parentId })

def extendMeta (tags : Tags) : InferredSpanData -> InferredSpanData :=
  updateInferred (fun span => { span with metaTags := extend span.metaTags tags })

def setStatusCode (statusCode : String) : InferredSpanData -> InferredSpanData :=
  updateInferred (fun span => { span with
    metaTags := span.metaTags.insert "http.status_code" statusCode })

end InferredSpanData

/-- `SpanInferrer::infer_span`, given the two span ids it may generate. -/
def inferSpan (libraries : Libraries) (triggers : Triggers) (config : InferrerConfig)
    (inferredSpanId wrappedSpanId : UInt64) (payload : Value) : InferredSpanData :=
  let identified := triggers.fromValue payload
  let (wrapped, inferredSpan) := getWrappedInferredSpan libraries triggers config wrappedSpanId
    identified { spanId := inferredSpanId }
  match identified.getTriggerType with
  | none => {}
  | some trigger =>
    let inferredSpan :=
      if identified.shouldEnrichSpan then
        applyBaseServiceOverride libraries config trigger (trigger.enrichSpan inferredSpan)
      else inferredSpan
    let inferredSpan :=
      match trigger.getDdResourceKey with
      | some key => { inferredSpan with
          metaTags := inferredSpan.metaTags.insert "dd_resource_key" key }
      | none => inferredSpan
    let synchronicity := if trigger.isAsync then "async" else "sync"
    { wrappedInferredSpan := wrapped
      spanPointers := identified.getSpanPointers
      triggerTags := some
        (trigger.getTags.insert "function_trigger.event_source_arn" trigger.getArn)
      isAsyncSpan := trigger.isAsync
      inferredSpan :=
        if identified.shouldSkipInferredSpan then none
        else some (markInferred synchronicity inferredSpan) }

def propagateAppsec (config : InferrerConfig) (invocationSpan target : Span) : Span :=
  let enabled := (invocationSpan.metrics.lookup "_dd.appsec.enabled").or
    (if config.serverlessAppsecEnabled then some 1 else none)
  let target :=
    match enabled with
    | some value => { target with metrics := target.metrics.insert "_dd.appsec.enabled" value }
    | none => target
  match invocationSpan.metaTags.lookup "_dd.appsec.json" with
  | some json => { target with metaTags := target.metaTags.insert "_dd.appsec.json" json }
  | none => target

/-- The wrapped span completed from the invocation span and the inferred one. -/
def completeWrapped (config : InferrerConfig) (isAsyncSpan : Bool) (invocationSpan inferred : Span)
    (wrapped : Span) : Span :=
  let wrapped := { wrapped with
    traceId := invocationSpan.traceId
    error := invocationSpan.error
    metaTags := wrapped.metaTags.insert "peer.service" inferred.service }
  let wrapped := propagateAppsec config invocationSpan wrapped
  let wrapped := { wrapped with parentId := inferred.parentId }
  if isAsyncSpan && wrapped.duration != 0 then wrapped
  else { wrapped with duration := inferred.start - wrapped.start }

/-- `SpanInferrer::complete_inferred_spans` -/
def completeInferredSpans (config : InferrerConfig) (invocationSpan : Span)
    (data : InferredSpanData) : InferredSpanData :=
  match data.inferredSpan with
  | none => data
  | some inferred =>
    let tags := inferred.metaTags.insert "peer.service" invocationSpan.service
    let inferred := { inferred with
      traceId := invocationSpan.traceId
      error := invocationSpan.error
      metaTags := tags.insert "span.kind" "server" }
    let inferred := propagateAppsec config invocationSpan inferred
    let completed := data.wrappedInferredSpan.map
      (completeWrapped config data.isAsyncSpan invocationSpan inferred)
    let inferred : Span :=
      match completed with
      | some wrapped => { inferred with parentId := wrapped.spanId }
      | none => inferred
    let duration : Int :=
      if data.isAsyncSpan then
        if inferred.duration = 0 then invocationSpan.start - inferred.start
        else inferred.duration
      else invocationSpan.start + invocationSpan.duration - inferred.start
    { data with
      wrappedInferredSpan := completed
      inferredSpan := some { inferred with duration := duration } }

/-- `span_inferrer::extract_span_context` -/
def extractInferredSpanContext (libraries : Libraries) (triggers : Triggers) (payload : Value) :
    Option SpanContext :=
  let identified := triggers.fromValue payload
  match identified.getTriggerType with
  | none => none
  | some trigger =>
    (libraries.extractFromMap trigger.getCarrier).or identified.extractGeneratedSpanContext

/-- `Processor::extract_span_context`: the trigger, then the headers in the
payload, then those of the request. -/
def extractSpanContext (libraries : Libraries) (triggers : Triggers) (headers : Tags)
    (payload : Value) : Option SpanContext :=
  (extractInferredSpanContext libraries triggers payload).or
    ((((payload.get "request").bind (Value.get "headers")).bind libraries.extractFromJson).or
      (((payload.get "headers").bind libraries.extractFromJson).or
        (libraries.extractFromMap headers)))

end Lifecycle
end Bottlecap
