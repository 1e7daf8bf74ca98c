import Bottlecap.Foundations.Hex
import Bottlecap.Lifecycle.Span

namespace Bottlecap
namespace Otlp

open Foundations
open Lifecycle (Tags higherOrderTraceIdBitsKey)

/-!
# OpenTelemetry spans as Datadog spans

`otlp/transform.rs` turns a span of the OpenTelemetry protocol, with its resource
and its instrumentation scope, into a span of the trace protocol.  The conversion
indexes the trace id as a slice and subtracts the times of the span, and either
can panic: the first if the id is too short, the second if the build checks for
overflow.  Everything else is total.

Normalization of names and the texts of numbers and JSON come from other crates,
and are fields of `OtlpLibraries`.
-/

/-- `any_value::Value`.  The optional items are `AnyValue`s, which may be empty. -/
inductive OtelValue where
  | stringValue (value : String)
  | boolValue (value : Bool)
  | intValue (value : Int)
  | doubleValue (value : Rat)
  | arrayValue (values : List (Option OtelValue))
  | kvlistValue (values : List (String × Option OtelValue))
  | bytesValue (bytes : List UInt8)
  | stringValueStrindex (index : Int)

/-- An `AnyValue`. -/
abbrev AnyValue := Option OtelValue

structure KeyValue where
  key : String
  value : Option AnyValue

structure OtelResource where
  attributes : List KeyValue

structure OtelInstrumentationScope where
  name : String
  version : String
  attributes : List KeyValue

inductive SpanKind where
  | unspecified
  | internal
  | server
  | client
  | producer
  | consumer
  deriving DecidableEq

structure OtelEvent where
  timeUnixNano : UInt64
  name : String
  attributes : List KeyValue
  droppedAttributesCount : UInt32

structure OtelLink where
  traceId : List UInt8
  spanId : List UInt8
  traceState : String
  attributes : List KeyValue
  droppedAttributesCount : UInt32

structure OtelStatus where
  code : Int
  message : String

structure OtelSpan where
  traceId : List UInt8
  spanId : List UInt8
  traceState : String := ""
  parentSpanId : List UInt8 := []
  name : String := ""
  kindCode : Int := 0
  startTimeUnixNano : UInt64
  endTimeUnixNano : UInt64
  attributes : List KeyValue := []
  events : List OtelEvent := []
  links : List OtelLink := []
  status : Option OtelStatus := none

/-- The getter of the protocol: a code without a kind is unspecified. -/
def OtelSpan.kind (span : OtelSpan) : SpanKind :=
  if span.kindCode = 1 then .internal
  else if span.kindCode = 2 then .server
  else if span.kindCode = 3 then .client
  else if span.kindCode = 4 then .producer
  else if span.kindCode = 5 then .consumer
  else .unspecified

def SpanKind.asStrName : SpanKind -> String
  | unspecified => "SPAN_KIND_UNSPECIFIED"
  | internal => "SPAN_KIND_INTERNAL"
  | server => "SPAN_KIND_SERVER"
  | client => "SPAN_KIND_CLIENT"
  | producer => "SPAN_KIND_PRODUCER"
  | consumer => "SPAN_KIND_CONSUMER"

/-- `StatusCode::Error` -/
def statusCodeError : Int := 2

/-- `Config` as far as the conversion reads it. -/
structure OtlpConfig where
  otlpConfigTracesSpanNameAsResourceName : Bool
  otlpConfigTracesSpanNameRemappings : Tags
  otlpConfigIgnoreMissingDatadogFields : Bool
  apmFeatures : List String

/-- The behaviour of the crates that the conversion calls. -/
structure OtlpLibraries where
  normalizeTag : String -> String
  normalizeService : String -> String
  normalizeName : String -> String
  floatToString : Rat -> String
  stringsToJson : List String -> String
  mapToJson : Tags -> String
  valuesToJson : List Value -> String
  anyValueToJson : AnyValue -> String
  i32FromJson : String -> Option Int

/-- What the conversion runs with.  `overflowChecks` is that of the build
profile. -/
structure OtlpEnv where
  libraries : OtlpLibraries
  config : OtlpConfig
  overflowChecks : Bool

inductive OtlpPanic where
  | rangeStartOutOfRange (start length : Nat)
  | rangeEndOutOfRange (last length : Nat)
  | subtractOverflow
  deriving DecidableEq

/-! ## Attributes -/

/-- `hex::encode` -/
def hexEncode (bytes : List UInt8) : String :=
  String.ofList (bytes.flatMap (fun byte =>
    [Nat.digitChar (byte.toNat / 16), Nat.digitChar (byte.toNat % 16)]))

def getOtelAttributeValue (attributes : List KeyValue) (key : String) : Option AnyValue :=
  (attributes.find? (fun item => item.key = key)).bind KeyValue.value

section Attributes

variable (libraries : OtlpLibraries)

mutual

def otelValueToString : OtelValue -> String
  | .stringValue value => value
  | .boolValue value => toString value
  | .intValue value => toString value
  | .doubleValue value => libraries.floatToString value
  | .bytesValue bytes => hexEncode bytes
  | .arrayValue values => libraries.stringsToJson (otelValuesToStrings values)
  | .kvlistValue values => libraries.mapToJson (otelMembersToStrings ∅ values)
  | .stringValueStrindex _ => ""

/-- The items of an array that have a value. -/
def otelValuesToStrings : List (Option OtelValue) -> List String
  | [] => []
  | none :: rest => otelValuesToStrings rest
  | some value :: rest => otelValueToString value :: otelValuesToStrings rest

/-- The members of a list that have a value, as a map. -/
def otelMembersToStrings (tags : Tags) : List (String × Option OtelValue) -> Tags
  | [] => tags
  | (_, none) :: rest => otelMembersToStrings tags rest
  | (key, some value) :: rest =>
    otelMembersToStrings (tags.insert key (otelValueToString value)) rest

end

/-- The value of the first attribute with the key that has one. -/
def getOtelAttributeValueAsString (attributes : List KeyValue) (key : String) (normalize : Bool) :
    String :=
  let value := (attributes.findSome? (fun item =>
    if item.key = key then item.value.join.map (otelValueToString libraries) else none)).getD ""
  if normalize then libraries.normalizeTag value else value

def getOtelAttributeValueAsStringFromResourceOrSpan (otelRes : OtelResource) (otelSpan : OtelSpan)
    (key : String) (normalize : Bool) : String :=
  let value := getOtelAttributeValueAsString libraries otelRes.attributes key normalize
  if !value.isEmpty then value
  else getOtelAttributeValueAsString libraries otelSpan.attributes key normalize

end Attributes

/-! ## Identifiers -/

/-- `bytes[start..last]`, whose panic names the first index out of range. -/
def slice (bytes : List UInt8) (start last : Nat) : Except OtlpPanic (List UInt8) :=
  if last <= bytes.length then Except.ok ((bytes.drop start).take (last - start))
  else Except.error (if start <= bytes.length
    then .rangeEndOutOfRange last bytes.length
    else .rangeStartOutOfRange start bytes.length)

/-- `u64::from_be_bytes(bytes.try_into().unwrap_or_default())` -/
def u64OrDefault (bytes : List UInt8) : UInt64 :=
  if bytes.length = 8 then u64FromBeBytes bytes else 0

/-- The lower and the higher bits of a trace id. -/
def otelTraceIdToDdId (traceId : List UInt8) : Except OtlpPanic (UInt64 × UInt64) := do
  let lower <- slice traceId 8 16
  let higher <- slice traceId 0 8
  Except.ok (u64OrDefault lower, u64OrDefault higher)

def otelSpanIdToU64 (spanId : List UInt8) : UInt64 := u64OrDefault spanId

/-- `left - right` at `u64` -/
def subU64 (overflowChecks : Bool) (left right : UInt64) : Except OtlpPanic UInt64 :=
  if overflowChecks && left < right then Except.error .subtractOverflow
  else Except.ok (left - right)

/-- `as i64` from `u64` -/
def castSigned (value : UInt64) : Int := value.toBitVec.toInt

/-! ## Names -/

def otelOperationAndResourceV2Enabled (config : OtlpConfig) : Bool :=
  !config.otlpConfigTracesSpanNameAsResourceName &&
    config.otlpConfigTracesSpanNameRemappings.entries.isEmpty &&
    !config.apmFeatures.contains "disable_operation_and_resource_name_logic_v2"

def getDdSpanKindFromOtelKind (otelSpan : OtelSpan) : String :=
  match otelSpan.kind with
  | .server => "server"
  | .client => "client"
  | .consumer => "consumer"
  | .producer => "producer"
  | .internal => "internal"
  | .unspecified => "unspecified"

section Names

variable (libraries : OtlpLibraries)

def getOtelService (otelRes : OtelResource) (normalize : Bool) : String :=
  let service := getOtelAttributeValueAsString libraries otelRes.attributes "service.name" normalize
  let service := if service.isEmpty then "otlpresourcenoservicename" else service
  if normalize then libraries.normalizeService service else service

def getOtelOperationNameV1 (otelSpan : OtelSpan) (lib : OtelInstrumentationScope)
    (spanNameAsResourceName : Bool) (spanNameRemappings : Tags) (normalize : Bool) : String :=
  let operationName :=
    getOtelAttributeValueAsString libraries otelSpan.attributes "operation.name" false
  let operationName :=
    if operationName.isEmpty then
      if spanNameAsResourceName then otelSpan.name
      else if lib.name.isEmpty then "opentelemetry." ++ getDdSpanKindFromOtelKind otelSpan
      else lib.name ++ "." ++ getDdSpanKindFromOtelKind otelSpan
    else operationName
  let operationName := (spanNameRemappings.lookup operationName).getD operationName
  if normalize then libraries.normalizeName operationName else operationName

/-- The target of a database span: the first of its possible names. -/
def databaseTarget (get : String -> String) : String :=
  let named := fun key => if (get key).isEmpty then none else some (get key)
  (((named "db.collection.name").or (named "db.stored_procedure.name")).or
    ((named "db.namespace").or ((named "server.address").bind (fun address =>
      (named "server.port").map (fun port => address ++ ":" ++ port))))).getD ""

def getOtelOperationNameV2 (otelSpan : OtelSpan) (lib : OtelInstrumentationScope) : String :=
  let raw := fun key => getOtelAttributeValueAsString libraries otelSpan.attributes key false
  let get := fun key => getOtelAttributeValueAsString libraries otelSpan.attributes key true
  let isClient := otelSpan.kind = .client
  let isServer := otelSpan.kind = .server
  let target := databaseTarget get
  if !(raw "operation.name").isEmpty then raw "operation.name"
  else if isServer ∧ lib.name = "opentelemetry.instrumentation.aws_lambda" then "aws.lambda"
  -- HTTP
  else if !(raw "http.request.method").isEmpty ∧ isServer then "http.server.request"
  else if !(raw "http.request.method").isEmpty ∧ isClient then "http.client.request"
  -- databases
  else if !(get "db.query.summary").isEmpty then get "db.query.summary"
  else if !target.isEmpty then
    if !(get "db.operation.name").isEmpty then get "db.operation.name" ++ " " ++ target else target
  else if !(get "db.system.name").isEmpty then get "db.system.name"
  -- messaging
  else if !(get "messaging.system").isEmpty ∧ !(get "messaging.operation.type").isEmpty ∧
      (isClient ∨ isServer ∨ otelSpan.kind = .consumer ∨
        otelSpan.kind = .producer) then
    get "messaging.system" ++ "." ++ get "messaging.operation.type"
  -- RPC, and AWS as one of its systems
  else if !(get "rpc.system").isEmpty ∧ get "rpc.system" = "aws-api" ∧ isClient then
    if !(get "rpc.service").isEmpty then "aws." ++ get "rpc.service" ++ ".request"
    else "aws.client.request"
  else if !(get "rpc.system").isEmpty ∧ isClient then get "rpc.system" ++ ".client.request"
  else if !(get "rpc.system").isEmpty ∧ isServer then get "rpc.system" ++ ".server.request"
  -- functions
  else if !(get "faas.invoked_provider").isEmpty ∧ !(get "faas.invoked_name").isEmpty ∧ isClient then
    get "faas.invoked_provider" ++ "." ++ get "faas.invoked_name" ++ ".invoke"
  else if !(get "faas.trigger").isEmpty ∧ isServer then get "faas.trigger" ++ ".invoke"
  else if !(get "graphql.operation.type").isEmpty then "graphql.server.request"
  -- any server or client
  else if isServer then
    if !(get "network.protocol.name").isEmpty then get "network.protocol.name" ++ ".server.request"
    else "server.request"
  else if isClient then
    if !(get "network.protocol.name").isEmpty then get "network.protocol.name" ++ ".client.request"
    else "client.request"
  else if otelSpan.kind ≠ .unspecified then otelSpan.kind.asStrName
  else SpanKind.internal.asStrName

def getOtelResource (otelSpan : OtelSpan) (otelRes : OtelResource) : String :=
  let get := fun key =>
    getOtelAttributeValueAsStringFromResourceOrSpan libraries otelRes otelSpan key false
  let method := if get "http.request.method" = "_OTHER" then "HTTP" else get "http.request.method"
  if !(get "resource.name").isEmpty then get "resource.name"
  else if !(get "http.request.method").isEmpty then
    if otelSpan.kind = .server ∧ !(get "http.route").isEmpty then
      method ++ " " ++ get "http.route"
    else method
  else if !(get "messaging.operation.type").isEmpty then
    if !(get "messaging.destination.name").isEmpty then
      get "messaging.operation.type" ++ " " ++ get "messaging.destination.name"
    else get "messaging.operation.type"
  else if !(get "rpc.method").isEmpty then
    if !(get "rpc.service").isEmpty then get "rpc.service" ++ " " ++ get "rpc.method"
    else get "rpc.method"
  else if !(get "graphql.operation.type").isEmpty then
    if !(get "graphql.operation.name").isEmpty then
      get "graphql.operation.type" ++ " " ++ get "graphql.operation.name"
    else get "graphql.operation.type"
  else if !(get "db.system.name").isEmpty then
    if !(get "db.query.text").isEmpty then get "db.query.text" else get "db.system.name"
  else otelSpan.name

def getDdSpanTypeFromOtelKind (otelSpan : OtelSpan) (otelRes : OtelResource) : String :=
  match otelSpan.kind with
  | .server => "web"
  | .client =>
    let dbSystem := getOtelAttributeValueAsStringFromResourceOrSpan libraries otelRes otelSpan
      "db.system.name" true
    if dbSystem.isEmpty then "http"
    else if dbSystem = "redis" ∨ dbSystem = "memcached" then "cache"
    else "db"
  | _ => "custom"

/-- `get_otel_status_code`, which asks for the same key twice. -/
def getOtelStatusCode (otelSpan : OtelSpan) : UInt32 :=
  let code := parseU32 (getOtelAttributeValueAsString libraries otelSpan.attributes
    "http.response.status_code" false)
  (code.or code).getD 0

end Names

/-! ## Tags and metrics -/

def setTopLevelDdSpan (isTopLevel : Bool) (span : Lifecycle.Span) : Lifecycle.Span :=
  { span with
    metrics := if isTopLevel then span.metrics.insert "_top_level" 1
      else span.metrics.erase "_top_level" }

/-- `set_measured_dd_span`, which removes the metric of a measured span. -/
def setMeasuredDdSpan (measured : Bool) (span : Lifecycle.Span) : Lifecycle.Span :=
  { span with
    metrics := if measured then span.metrics.erase "_dd.measured"
      else span.metrics.insert "_dd.measured" 1 }

def isDatadogApmConventionKey (key : String) : Bool :=
  key == "service.name" || key == "operation.name" || key == "resource.name" ||
    key == "span.type" || startsWith key "datadog."

def getDdKeyForOtlpAttribute (key : String) : String :=
  if startsWith key "http.request.header." then
    "http.request.headers." ++
      String.ofList (trimStartMatches "http.request.header.".toList key.toList)
  else if !isDatadogApmConventionKey key then key
  else ""

/-- `DD_SEMANTIC_KEYS_TO_META_KEYS` -/
def ddSemanticKeysToMetaKeys : List (String × String) :=
  [("datadog.env", "env"), ("datadog.version", "version"),
    ("datadog.http_status_code", "http.status_code"), ("datadog.error.msg", "error.msg"),
    ("datadog.error.type", "error.type"), ("datadog.error.stack", "error.stack")]

/-- The keys of `META_KEYS_TO_DD_SEMANTIC_KEYS`. -/
def metaKeysWithSemantics : List String := ddSemanticKeysToMetaKeys.map Prod.snd

def setOtlpMeta (key value : String) (span : Lifecycle.Span) : Lifecycle.Span :=
  if key = "operation.name" then { span with name := value }
  else if key = "service.name" then { span with service := value }
  else if key = "resource.name" then { span with resource := value }
  else if key = "span.type" then { span with type := value }
  else if key = "analytics.event" then
    if value = "true" then { span with metrics := span.metrics.insert "_dd1.sr.eausr" 1 }
    else if value = "false" then { span with metrics := span.metrics.insert "_dd1.sr.eausr" 0 }
    else span
  else { span with metaTags := span.metaTags.insert key value }

def setOtlpMetrics (key : String) (value : Rat) (span : Lifecycle.Span) : Lifecycle.Span :=
  { span with
    metrics := span.metrics.insert
      (if key = "sampling.priority" then "_sampling_priority_v1" else key) value }

def setOtlpMetaWithSemanticConventionMappings (ignoreMissing : Bool) (key value : String)
    (span : Lifecycle.Span) : Lifecycle.Span :=
  if (getDdKeyForOtlpAttribute key).isEmpty then span
  else if metaKeysWithSemantics.contains key &&
      ((span.metaTags.lookup key).isSome || ignoreMissing) then span
  else setOtlpMeta key value span

def setOtlpMetricsWithSemanticConventionMappings (ignoreMissing : Bool) (key : String)
    (value : Rat) (span : Lifecycle.Span) : Lifecycle.Span :=
  if (getDdKeyForOtlpAttribute key).isEmpty then span
  else if metaKeysWithSemantics.contains key &&
      ((span.metrics.lookup key).isSome || ignoreMissing) then span
  else setOtlpMetrics key value span

section Events

variable (libraries : OtlpLibraries)

/-- The attributes of an event or a link as a JSON object. -/
def marshalAttributes (attributes : List KeyValue) : Value :=
  .object (attributes.foldl (fun members item =>
    match item.value.join with
    | some value =>
      Value.setMember members item.key (.string (otelValueToString libraries value))
    | none => members) [])

/-- A member that is written only in some cases. -/
def memberIf (condition : Bool) (key : String) (value : Value) : List (String × Value) :=
  if condition then [(key, value)] else []

def marshalEvents (events : List OtelEvent) : String :=
  libraries.valuesToJson (events.map (fun event => .object (
    memberIf (event.timeUnixNano != 0) "time_unix_nano"
      (.number (.posInt event.timeUnixNano)) ++
    memberIf (!event.name.isEmpty) "name" (.string event.name) ++
    memberIf (!event.attributes.isEmpty) "attributes"
      (marshalAttributes libraries event.attributes) ++
    memberIf (event.droppedAttributesCount != 0) "dropped_attributes_count"
      (.number (.posInt event.droppedAttributesCount.toUInt64)))))

def marshalLinks (links : List OtelLink) : String :=
  libraries.valuesToJson (links.map (fun link => .object (
    [("trace_id", .string (hexEncode link.traceId)),
      ("span_id", .string (hexEncode link.spanId))] ++
    memberIf (!link.traceState.isEmpty) "tracestate" (.string link.traceState) ++
    memberIf (!link.attributes.isEmpty) "attributes" (marshalAttributes libraries link.attributes) ++
    memberIf (link.droppedAttributesCount != 0) "dropped_attributes_count"
      (.number (.posInt link.droppedAttributesCount.toUInt64)))))

end Events

/-- A tag, unless its text is empty. -/
def setMetaIfSome (key value : String) (span : Lifecycle.Span) : Lifecycle.Span :=
  if value.isEmpty then span else { span with metaTags := span.metaTags.insert key value }

def setMeta (key value : String) (span : Lifecycle.Span) : Lifecycle.Span :=
  { span with metaTags := span.metaTags.insert key value }

def hasMeta (key : String) (span : Lifecycle.Span) : Bool := (span.metaTags.lookup key).isSome

def setSpanEventsHasException (otelSpan : OtelSpan) (span : Lifecycle.Span) : Lifecycle.Span :=
  if otelSpan.events.any (fun event => event.name == "exception") then
    setMeta "_dd.span_events.has_exception" "true" span
  else span

/-- The tags of one exception event. -/
def setErrorFromEvent (libraries : OtlpLibraries) (span : Lifecycle.Span) (event : OtelEvent) :
    Lifecycle.Span :=
  if event.name ≠ "exception" then span
  else
    let get := fun key => getOtelAttributeValueAsString libraries event.attributes key false
    let span := setMetaIfSome "error.msg" (get "exception.message") span
    let span := setMetaIfSome "error.type" (get "exception.type") span
    setMetaIfSome "error.stack" (get "exception.stacktrace") span

def setSpanErrorFromOtelSpan (libraries : OtlpLibraries) (otelSpan : OtelSpan)
    (span : Lifecycle.Span) : Lifecycle.Span :=
  if otelSpan.status.any (fun status => status.code != statusCodeError) then span
  else
    let span := otelSpan.events.foldl (setErrorFromEvent libraries) span
    if hasMeta "error.msg" span then span
    else
      match otelSpan.status with
      | some status => setMeta "error.msg" status.message span
      | none =>
        match span.metaTags.lookup "http.response.status_code" with
        | some code => setMeta "error.msg" code span
        | none => span

/-! ## The span -/

section Conversion

variable (env : OtlpEnv) (otelSpan : OtelSpan) (otelRes : OtelResource)
  (lib : OtelInstrumentationScope)

/-- The span as it is first built, given the halves of the trace id and the
duration. -/
def newDdSpan (lower higher duration : UInt64) : Lifecycle.Span :=
  let get := getOtelAttributeValueAsString env.libraries
  { service := get otelSpan.attributes "datadog.service" true
    name := get otelSpan.attributes "datadog.name" true
    resource := get otelRes.attributes "datadog.resource" true
    type := get otelSpan.attributes "datadog.type" true
    traceId := lower
    spanId := otelSpanIdToU64 otelSpan.spanId
    parentId := otelSpanIdToU64 otelSpan.parentSpanId
    start := castSigned otelSpan.startTimeUnixNano
    duration := castSigned duration
    error := 0
    metaTags := (∅ : Tags).insert higherOrderTraceIdBitsKey (toString higher.toNat) }

def setError (span : Lifecycle.Span) : Lifecycle.Span :=
  match getOtelAttributeValue otelSpan.attributes "datadog.error" with
  | some value =>
    { span with
      error := (env.libraries.i32FromJson (env.libraries.anyValueToJson value)).getD 0 }
  | none =>
    if otelSpan.status.any (fun status => status.code == statusCodeError) then
      { span with error := 1 }
    else span

def setKind : Lifecycle.Span -> Lifecycle.Span :=
  setMetaIfSome "span.kind"
    (getOtelAttributeValueAsString env.libraries otelSpan.attributes "datadog.span.kind" true)

/-- The HTTP status code, of the Datadog attribute if there is one. -/
def httpStatusCode : UInt32 :=
  let text := getOtelAttributeValueAsString env.libraries otelSpan.attributes
    "datadog.http_status_code" false
  if text.isEmpty then getOtelStatusCode env.libraries otelSpan else (parseU32 text).getD 0

/-- The fields that are derived where Datadog attributes are missing. -/
def setMissingFields (span : Lifecycle.Span) : Lifecycle.Span :=
  if env.config.otlpConfigIgnoreMissingDatadogFields then span
  else
    let service := if span.service.isEmpty then getOtelService env.libraries otelRes true
      else span.service
    let name :=
      if otelOperationAndResourceV2Enabled env.config then
        getOtelOperationNameV2 env.libraries otelSpan lib
      else getOtelOperationNameV1 env.libraries otelSpan lib
        env.config.otlpConfigTracesSpanNameAsResourceName
        env.config.otlpConfigTracesSpanNameRemappings true
    let resource := if span.resource.isEmpty then getOtelResource env.libraries otelSpan otelRes
      else span.resource
    let named := getOtelAttributeValueAsStringFromResourceOrSpan env.libraries otelRes otelSpan
      "span.type" true
    let type :=
      if !span.type.isEmpty then span.type
      else if named.isEmpty then getDdSpanTypeFromOtelKind env.libraries otelSpan otelRes
      else named
    let span := { span with service, name, resource, type }
    let span :=
      if hasMeta "span.type" span then span
      else setMeta "span.type" (getDdSpanKindFromOtelKind otelSpan) span
    let code := httpStatusCode env otelSpan
    let span :=
      if code ≠ 0 then
        { span with metrics := span.metrics.insert "http.status_code" (code.toNat : Rat) }
      else span
    if hasMeta "env" span then span
    else setMetaIfSome "env" (getOtelAttributeValueAsString env.libraries otelRes.attributes
      "deployment.environment.name" true) span

def setTopLevel (span : Lifecycle.Span) : Lifecycle.Span :=
  if env.config.apmFeatures.contains "enable_otlp_compute_top_level_by_span_kind" ∧
      (otelSpan.parentSpanId.isEmpty ∨ otelSpan.kind = .server ∨
        otelSpan.kind = .consumer) then
    setTopLevelDdSpan true span
  else span

def setMeasured (span : Lifecycle.Span) : Lifecycle.Span :=
  if getOtelAttributeValueAsString env.libraries otelSpan.attributes "_dd.measured" false = "1" ∨
      otelSpan.kind = .client ∨ otelSpan.kind = .producer then
    setMeasuredDdSpan true span
  else span

/-- The attributes with a Datadog meaning. -/
def setSemanticKeys (span : Lifecycle.Span) : Lifecycle.Span :=
  ddSemanticKeysToMetaKeys.foldl (fun span keys => setMetaIfSome keys.2
    (getOtelAttributeValueAsString env.libraries otelSpan.attributes keys.1 false) span) span

def setResourceAttribute (span : Lifecycle.Span) (item : KeyValue) : Lifecycle.Span :=
  match item.value.join with
  | none => span
  | some value =>
    let text := otelValueToString env.libraries value
    if text.isEmpty then span
    else setOtlpMetaWithSemanticConventionMappings
      env.config.otlpConfigIgnoreMissingDatadogFields item.key text span

def setScopeAttribute (span : Lifecycle.Span) (item : KeyValue) : Lifecycle.Span :=
  match item.value.join with
  | none => span
  | some value => setMetaIfSome item.key (otelValueToString env.libraries value) span

/-- The trace id as a tag, and the version of the service if a version is known. -/
def setTraceIdAndVersion (span : Lifecycle.Span) : Lifecycle.Span :=
  let span := setMeta "otel.trace_id" (hexEncode otelSpan.traceId) span
  if hasMeta "version" span then
    setMetaIfSome "version" (getOtelAttributeValueAsString env.libraries otelRes.attributes
      "service.version" false) span
  else span

def setEventsAndLinks (span : Lifecycle.Span) : Lifecycle.Span :=
  let span := setSpanEventsHasException otelSpan span
  let span :=
    if otelSpan.events.isEmpty then span
    else setMeta "events" (marshalEvents env.libraries otelSpan.events) span
  if otelSpan.links.isEmpty then span
  else setMeta "_dd.span_links" (marshalLinks env.libraries otelSpan.links) span

def setSpanAttribute (span : Lifecycle.Span) (item : KeyValue) : Lifecycle.Span :=
  if startsWith item.key "datadog." then span
  else
    match item.value.join with
    | none => span
    | some (.doubleValue value) => setOtlpMetricsWithSemanticConventionMappings
        env.config.otlpConfigIgnoreMissingDatadogFields item.key value span
    | some (.intValue value) => setOtlpMetricsWithSemanticConventionMappings
        env.config.otlpConfigIgnoreMissingDatadogFields item.key value span
    | some value => setOtlpMetaWithSemanticConventionMappings
        env.config.otlpConfigIgnoreMissingDatadogFields item.key
        (otelValueToString env.libraries value) span

def setStatus (span : Lifecycle.Span) : Lifecycle.Span :=
  match otelSpan.status with
  | some status =>
    setMeta "otel.status_description" status.message
      (setMeta "otel.status_code" (toString status.code) span)
  | none => span

/-- The trace state, the scope, the status and the error of the span. -/
def setScopeAndStatus (span : Lifecycle.Span) : Lifecycle.Span :=
  let span := setMetaIfSome "w3c.trace_state" otelSpan.traceState span
  let span := setMetaIfSome "otel.scope.name" lib.name span
  let span := setMetaIfSome "otel.scope.version" lib.version span
  let span := setStatus otelSpan span
  if env.config.otlpConfigIgnoreMissingDatadogFields &&
      (!hasMeta "error.msg" span || !hasMeta "error.type" span || !hasMeta "error.stack" span) then
    setSpanErrorFromOtelSpan env.libraries otelSpan span
  else span

/-- The steps of the conversion after the span is first built. -/
def completeDdSpan (span : Lifecycle.Span) : Lifecycle.Span :=
  let span := setKind env otelSpan (setError env otelSpan span)
  let span := setMissingFields env otelSpan otelRes lib span
  let span := setMeasured env otelSpan (setTopLevel env otelSpan span)
  let span := setSemanticKeys env otelSpan span
  let span := otelRes.attributes.foldl (setResourceAttribute env) span
  let span := lib.attributes.foldl (setScopeAttribute env) span
  let span := setTraceIdAndVersion env otelSpan otelRes span
  let span := setEventsAndLinks env otelSpan span
  let span := otelSpan.attributes.foldl (setSpanAttribute env) span
  setScopeAndStatus env otelSpan lib span

def otelSpanToDdSpan : Except OtlpPanic Lifecycle.Span := do
  let (lower, higher) <- otelTraceIdToDdId otelSpan.traceId
  let duration <- subU64 env.overflowChecks otelSpan.endTimeUnixNano otelSpan.startTimeUnixNano
  Except.ok (completeDdSpan env otelSpan otelRes lib
    (newDdSpan env otelSpan otelRes lower higher duration))

end Conversion

end Otlp
end Bottlecap
