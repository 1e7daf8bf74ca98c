import Bottlecap.Foundations.Hex
import Bottlecap.Lifecycle.SpanInferrer

namespace Bottlecap
namespace Lifecycle

open Foundations

/-!
# Message triggers

The SQS, SNS and EventBridge triggers of `lifecycle/invocation/triggers/`: the
records they are read from, and what each method of the `Trigger` trait returns
for a record.  These are the triggers that can wrap one another, an SNS message
or an EventBridge event in the body of an SQS record and an EventBridge event in
the message of an SNS record.

A `DateTime<Utc>` is the number of nanoseconds since the epoch.
-/

/-- An `f64` read from a text. -/
inductive Double where
  | finite (value : Rat)
  | infinite (negative : Bool)
  | nan

/-- `(x * MS_TO_NS) as i64` -/
def Double.millisToNanos : Double -> Int
  | .finite value => castI64 (mulF64 value msToNs)
  | .infinite negative => if negative then -(2 ^ 63) else 2 ^ 63 - 1
  | .nan => 0

/-- What the triggers read of the configuration. -/
structure TriggerConfig where
  serviceMapping : Tags
  traceAwsServiceRepresentationEnabled : Bool
  region : String

/-- The surroundings of the triggers.  `parseStruct` is the JSON reader in front
of derived deserialization, which refuses texts that repeat a field. -/
structure TriggerEnv where
  libraries : Libraries
  config : TriggerConfig
  parseStruct : String -> Option Value
  parseDateTime : String -> Option Int
  parseDouble : String -> Option Double
  sha256 : String -> Vector UInt8 32

def datadogCarrierKey : String := "_datadog"

def functionTriggerEventSourceTag : String := "function_trigger.event_source"

def sToNs : Rat := 1000000000

/-- `DateTime::timestamp_nanos_opt` -/
def timestampNanosOpt (time : Int) : Option Int :=
  if -(2 ^ 63) <= time ∧ time < 2 ^ 63 then some time else none

/-- `DateTime::timestamp_millis` -/
def timestampMillis (time : Int) : Int := time / 1000000

/-- An instant in nanoseconds, or if they do not fit its milliseconds times a factor. -/
def startTimeOfInstant (time : Int) (factor : Rat) : Int :=
  (timestampNanosOpt time).getD (castI64 (mulF64 (roundF64 (timestampMillis time)) factor))

/-- `HashMap::from` -/
def tagsOf (pairs : List (String × String)) : Tags :=
  pairs.foldl (fun tags pair => tags.insert pair.1 pair.2) ∅

/-- `serde_json::from_value::<HashMap<String, V>>` -/
def mapFromValue {Entry : Type} (read : Value -> Option Entry) (value : Value) :
    Option (AList (fun _ : String => Entry)) :=
  value.asObject.bind (fun members => members.foldlM (fun entries member =>
    (read member.2).map (entries.insert member.1)) ∅)

/-- `serde_json::from_str(text).unwrap_or_default()` at `HashMap<String, String>` -/
def carrierFromStr (libraries : Libraries) (text : String) : Tags :=
  ((libraries.jsonFromStr text).bind (mapFromValue Value.asStr)).getD ∅

/-! ## Service names -/

def getDefaultServiceName (instanceName fallback : String) (enabled : Bool) : String :=
  if !enabled then fallback else instanceName

/-- What a trigger tells the resolution of its service name. -/
structure ServiceNameResolver where
  specificIdentifier : String
  genericIdentifier : String

namespace ServiceNameResolver

def hasServiceMappingEntry (resolver : ServiceNameResolver) (serviceMapping : Tags) : Bool :=
  (serviceMapping.lookup resolver.specificIdentifier).isSome ||
    (serviceMapping.lookup resolver.genericIdentifier).isSome

def resolveServiceName (resolver : ServiceNameResolver) (config : TriggerConfig)
    (instanceName fallback : String) : String :=
  ((config.serviceMapping.lookup resolver.specificIdentifier).or
    (config.serviceMapping.lookup resolver.genericIdentifier)).getD
      (getDefaultServiceName instanceName fallback config.traceAwsServiceRepresentationEnabled)

end ServiceNameResolver

def getAwsPartitionByRegion (region : String) : String :=
  if startsWith region "us-gov-" then "aws-us-gov"
  else if startsWith region "cn-" then "aws-cn"
  else "aws"

/-- `Trigger::get_dsm_checkpoints` for a trigger that is not batched. -/
def defaultDsmCheckpoints (edgeTags : Option (List String)) (carrier : Tags)
    (payloadSizeBytes : Rat) : List DsmCheckpointInput :=
  match edgeTags with
  | some edgeTags => [{ edgeTags, carrier, payloadSizeBytes }]
  | none => []

/-- `dsm_checkpoints_from_records`, given how a record is read and what it
checkpoints. -/
def dsmCheckpointsFromRecords (checkpoint : Value -> Option DsmCheckpointInput) (payload : Value) :
    List DsmCheckpointInput :=
  match (payload.get "Records").bind Value.asArray with
  | none => []
  | some records => records.filterMap checkpoint

/-- The first of the `Records` of a payload. -/
def firstRecord (payload : Value) : Option Value :=
  ((payload.get "Records").bind Value.asArray).bind List.head?

/-! ## EventBridge -/

structure EventBridgeEvent where
  id : String
  version : String
  account : String
  time : Int
  region : String
  resources : List String
  source : String
  detailType : String
  detail : Value
  replayName : Option String

namespace EventBridgeEvent

def fromValue (env : TriggerEnv) (value : Value) : Option EventBridgeEvent := do
  let field <- value.structFields ["id", "version", "account", "time", "region", "resources",
    "source", "detail-type", "detail", "replay-name"]
  let id <- (field "id").bind Value.asStr
  let version <- (field "version").bind Value.asStr
  let account <- (field "account").bind Value.asStr
  let time <- ((field "time").bind Value.asStr).bind env.parseDateTime
  let region <- (field "region").bind Value.asStr
  let items <- (field "resources").bind Value.asArray
  let resources <- items.mapM Value.asStr
  let source <- (field "source").bind Value.asStr
  let detailType <- (field "detail-type").bind Value.asStr
  let detail <- field "detail"
  let replayName <- Value.optional Value.asStr (field "replay-name")
  some { id, version, account, time, region, resources, source, detailType, detail, replayName }

def fromStr (env : TriggerEnv) (text : String) : Option EventBridgeEvent :=
  (env.parseStruct text).bind (fromValue env)

def isMatch (payload : Value) : Bool :=
  (payload.get "detail-type").isSome &&
    ((payload.get "source").bind Value.asStr).any (fun source => source != "aws.events")

def getCarrier (event : EventBridgeEvent) : Tags :=
  match event.detail.get datadogCarrierKey with
  | some carrier => (mapFromValue Value.asStr carrier).getD ∅
  | none => ∅

def resolver (event : EventBridgeEvent) : ServiceNameResolver where
  specificIdentifier := (event.getCarrier.lookup "x-datadog-resource-name").getD event.source
  genericIdentifier := "lambda_eventbridge"

/-- The start time a tracer put in the carrier, in milliseconds. -/
def carriedStart (env : TriggerEnv) (event : EventBridgeEvent) : Option Double :=
  (event.getCarrier.lookup "x-datadog-start-time").bind env.parseDouble

def startTime (env : TriggerEnv) (event : EventBridgeEvent) : Int :=
  match event.carriedStart env with
  | some millis => millis.millisToNanos
  | none => startTimeOfInstant event.time sToNs

def enrichSpan (env : TriggerEnv) (event : EventBridgeEvent) (span : Span) : Span :=
  { span with
    name := "aws.eventbridge"
    service := event.resolver.resolveServiceName env.config event.resolver.specificIdentifier
      "eventbridge"
    resource := event.resolver.specificIdentifier
    type := "web"
    start := event.startTime env
    metaTags := extend span.metaTags (tagsOf
      [("operation_name", "aws.eventbridge"), ("detail_type", event.detailType)]) }

/-- `event_bus_name`: the bus of a `:rule/<bus>/<rule>` ARN. -/
def eventBusName (event : EventBridgeEvent) : Option String :=
  event.resources.findSome? (fun arn =>
    let separator := ":rule/".toList
    match (afterText separator arn.toList).map (beforeText separator) with
    | none => none
    | some rest =>
      match splitAtChar '/' rest with
      | first :: _ :: _ => if first.isEmpty then none else some (String.ofList first)
      | _ => none)

def getDsmEdgeTags (event : EventBridgeEvent) : Option (List String) :=
  some (["direction:in", "type:eventbridge"] ++
    (event.eventBusName.map (fun bus => "exchange:" ++ bus)).toList ++
    ["topic:" ++ event.detailType])

def getPayloadSizeBytes (env : TriggerEnv) (event : EventBridgeEvent) : Rat :=
  match env.libraries.jsonToString event.detail with
  | some text => text.utf8ByteSize
  | none => 0

def trigger (env : TriggerEnv) (event : EventBridgeEvent) : Trigger where
  enrichSpan := event.enrichSpan env
  getTags := tagsOf [(functionTriggerEventSourceTag, "eventbridge")]
  getArn := event.source
  getCarrier := event.getCarrier
  isAsync := true
  getDsmCheckpoints := defaultDsmCheckpoints event.getDsmEdgeTags event.getCarrier
    (event.getPayloadSizeBytes env)
  getDdResourceKey := none
  hasServiceMappingEntry := event.resolver.hasServiceMappingEntry env.config.serviceMapping

end EventBridgeEvent

/-! ## SNS -/

structure SnsMessageAttribute where
  type : String
  value : String

structure SnsEntity where
  messageId : String
  type : String
  topicArn : String
  messageAttributes : AList (fun _ : String => SnsMessageAttribute)
  timestamp : Int
  subject : Option String
  message : Option String

structure SnsRecord where
  sns : SnsEntity
  eventSubscriptionArn : Option String

def SnsMessageAttribute.fromValue (value : Value) : Option SnsMessageAttribute := do
  let field <- value.structFields ["Type", "Value"]
  let type <- (field "Type").bind Value.asStr
  let text <- (field "Value").bind Value.asStr
  some { type, value := text }

namespace SnsEntity

def fromValue (env : TriggerEnv) (value : Value) : Option SnsEntity := do
  let field <- value.structFields ["MessageId", "Type", "TopicArn", "MessageAttributes",
    "Timestamp", "Subject", "Message"]
  let messageId <- (field "MessageId").bind Value.asStr
  let type <- (field "Type").bind Value.asStr
  let topicArn <- (field "TopicArn").bind Value.asStr
  let messageAttributes <- (field "MessageAttributes").bind
    (mapFromValue SnsMessageAttribute.fromValue)
  let timestamp <- ((field "Timestamp").bind Value.asStr).bind env.parseDateTime
  let subject <- Value.optional Value.asStr (field "Subject")
  let message <- Value.optional Value.asStr (field "Message")
  some { messageId, type, topicArn, messageAttributes, timestamp, subject, message }

def fromStr (env : TriggerEnv) (text : String) : Option SnsEntity :=
  (env.parseStruct text).bind (fromValue env)

end SnsEntity

namespace SnsRecord

def fromValue (env : TriggerEnv) (value : Value) : Option SnsRecord := do
  let field <- value.structFields ["Sns", "EventSubscriptionArn"]
  let sns <- (field "Sns").bind (SnsEntity.fromValue env)
  let eventSubscriptionArn <- Value.optional Value.asStr (field "EventSubscriptionArn")
  some { sns, eventSubscriptionArn }

def isMatch (payload : Value) : Bool :=
  ((firstRecord payload).bind (Value.get "Sns")).isSome

/-- `SnsRecord::new`, which indexes the records only after `is_match` has found
one. -/
def new (env : TriggerEnv) (payload : Value) : Option SnsRecord :=
  (firstRecord payload).bind (fromValue env)

def resolver (record : SnsRecord) : ServiceNameResolver where
  specificIdentifier := lastPiece ':' record.sns.topicArn
  genericIdentifier := "lambda_sns"

def startTime (record : SnsRecord) : Int := startTimeOfInstant record.sns.timestamp msToNs

def enrichSpan (env : TriggerEnv) (record : SnsRecord) (span : Span) : Span :=
  let resourceName := record.resolver.specificIdentifier
  let tags := extend span.metaTags (tagsOf
    [("operation_name", "aws.sns"), ("topicname", resourceName),
      ("topic_arn", record.sns.topicArn), ("message_id", record.sns.messageId),
      ("type", record.sns.type)])
  let tags :=
    match record.sns.subject with
    | some subject => tags.insert "subject" subject
    | none => tags
  let tags :=
    match record.eventSubscriptionArn with
    | some arn => tags.insert "event_subscription_arn" arn
    | none => tags
  { span with
    name := "aws.sns"
    service := record.resolver.resolveServiceName env.config resourceName "sns"
    resource := resourceName
    type := "web"
    start := record.startTime
    metaTags := tags }

def getCarrier (env : TriggerEnv) (record : SnsRecord) : Tags :=
  match record.sns.messageAttributes.lookup datadogCarrierKey with
  | some messageAttribute =>
    if messageAttribute.type = "String" then carrierFromStr env.libraries messageAttribute.value
    else if messageAttribute.type = "Binary" then
      match env.libraries.base64ToString messageAttribute.value with
      | some carrier => carrierFromStr env.libraries carrier
      | none => ∅
    else ∅
  | none =>
    match record.sns.message.bind (EventBridgeEvent.fromStr env) with
    | some event => event.getCarrier
    | none => ∅

def getDsmEdgeTags (record : SnsRecord) : Option (List String) :=
  some ["direction:in", "topic:" ++ record.sns.topicArn, "type:sns"]

def getPayloadSizeBytes (record : SnsRecord) : Rat :=
  match record.sns.message with
  | some message => message.utf8ByteSize
  | none => 0

def dsmCheckpoint (env : TriggerEnv) (value : Value) : Option DsmCheckpointInput := do
  let record <- fromValue env value
  let edgeTags <- record.getDsmEdgeTags
  some { edgeTags, carrier := record.getCarrier env, payloadSizeBytes := record.getPayloadSizeBytes }

def trigger (env : TriggerEnv) (payload : Value) (record : SnsRecord) : Trigger where
  enrichSpan := record.enrichSpan env
  getTags := tagsOf [(functionTriggerEventSourceTag, "sns")]
  getArn := record.sns.topicArn
  getCarrier := record.getCarrier env
  isAsync := true
  getDsmCheckpoints := dsmCheckpointsFromRecords (dsmCheckpoint env) payload
  getDdResourceKey := none
  hasServiceMappingEntry := record.resolver.hasServiceMappingEntry env.config.serviceMapping

end SnsRecord

/-! ## SQS -/

structure SqsMessageAttribute where
  stringValue : Option String
  binaryValue : Option String
  stringListValues : Option (List String)
  binaryListValues : Option (List String)
  dataType : String

structure SqsAttributes where
  approximateFirstReceiveTimestamp : String
  approximateReceiveCount : String
  sentTimestamp : String
  senderId : String
  awsTraceHeader : Option String

structure SqsRecord where
  messageId : String
  receiptHandle : String
  attributes : SqsAttributes
  messageAttributes : AList (fun _ : String => SqsMessageAttribute)
  md5OfBody : String
  eventSource : String
  eventSourceArn : String
  awsRegion : String
  body : String

def SqsMessageAttribute.fromValue (value : Value) : Option SqsMessageAttribute := do
  let field <- value.structFields ["stringValue", "binaryValue", "stringListValues",
    "binaryListValues", "dataType"]
  let texts := fun value : Value => value.asArray.bind (List.mapM Value.asStr)
  let stringValue <- Value.optional Value.asStr (field "stringValue")
  let binaryValue <- Value.optional Value.asStr (field "binaryValue")
  let stringListValues <- Value.optional texts (field "stringListValues")
  let binaryListValues <- Value.optional texts (field "binaryListValues")
  let dataType <- (field "dataType").bind Value.asStr
  some { stringValue, binaryValue, stringListValues, binaryListValues, dataType }

def SqsAttributes.fromValue (value : Value) : Option SqsAttributes := do
  let field <- value.structFields ["ApproximateFirstReceiveTimestamp", "ApproximateReceiveCount",
    "SentTimestamp", "SenderId", "AWSTraceHeader"]
  let approximateFirstReceiveTimestamp <-
    (field "ApproximateFirstReceiveTimestamp").bind Value.asStr
  let approximateReceiveCount <- (field "ApproximateReceiveCount").bind Value.asStr
  let sentTimestamp <- (field "SentTimestamp").bind Value.asStr
  let senderId <- (field "SenderId").bind Value.asStr
  let awsTraceHeader <- Value.optional Value.asStr (field "AWSTraceHeader")
  some { approximateFirstReceiveTimestamp, approximateReceiveCount, sentTimestamp, senderId,
         awsTraceHeader }

/-- What `extract_trace_context_from_aws_trace_header` has read of the parts. -/
structure AwsTraceParts where
  traceId : List Char := []
  parentId : List Char := []
  sampled : List Char := []
  datadogPlanted : Bool := false

namespace AwsTraceParts

def complete (parts : AwsTraceParts) : Bool :=
  !parts.traceId.isEmpty && !parts.parentId.isEmpty && !parts.sampled.isEmpty

/-- One part of the header, none if it ends the extraction. -/
def readPart (parts : AwsTraceParts) (part : List Char) : Option AwsTraceParts :=
  if "Root=".toList.isPrefixOf part then
    (dropBytes 16 part).map (fun idSection =>
      { parts with
        datadogPlanted := "00000000".toList.isPrefixOf idSection
        traceId := (dropBytes 8 idSection).getD [] })
  else if "Parent=".toList.isPrefixOf part then
    some { parts with parentId := part.drop "Parent=".length }
  else if "Sampled=".toList.isPrefixOf part && parts.sampled.isEmpty then
    some { parts with sampled := part.drop "Sampled=".length }
  else some parts

/-- The loop over the parts, left as soon as all three are known. -/
def read : AwsTraceParts -> List (List Char) -> Option AwsTraceParts
  | parts, [] => some parts
  | parts, part :: rest =>
    match parts.readPart part with
    | none => none
    | some parts => if parts.complete then some parts else parts.read rest

def samplingPriority (parts : AwsTraceParts) : Option Int :=
  if parts.sampled = "1".toList then some 1
  else if parts.datadogPlanted && parts.sampled = "0".toList then some 0
  else none

end AwsTraceParts

def extractTraceContextFromAwsTraceHeader (headersString : Option String) : Option SpanContext := do
  let value <- headersString
  if !startsWith value "Root=" then none
  else
    let parts <- AwsTraceParts.read {} (splitAtChar ';' value.toList)
    let traceId <- parseHexU64 (String.ofList parts.traceId)
    let parentId <- parseHexU64 (String.ofList parts.parentId)
    if traceId = 0 || parentId = 0 then none
    else
      some { traceId := traceId.toBitVec.setWidth 128
             spanId := parentId
             tags := ∅
             samplingPriority := parts.samplingPriority }

namespace SqsRecord

def fromValue (value : Value) : Option SqsRecord := do
  let field <- value.structFields ["messageId", "receiptHandle", "attributes",
    "messageAttributes", "md5OfBody", "eventSource", "eventSourceARN", "awsRegion", "body"]
  let messageId <- (field "messageId").bind Value.asStr
  let receiptHandle <- (field "receiptHandle").bind Value.asStr
  let attributes <- (field "attributes").bind SqsAttributes.fromValue
  let messageAttributes <- (field "messageAttributes").bind
    (mapFromValue SqsMessageAttribute.fromValue)
  let md5OfBody <- (field "md5OfBody").bind Value.asStr
  let eventSource <- (field "eventSource").bind Value.asStr
  let eventSourceArn <- (field "eventSourceARN").bind Value.asStr
  let awsRegion <- (field "awsRegion").bind Value.asStr
  let body <- (field "body").bind Value.asStr
  some { messageId, receiptHandle, attributes, messageAttributes, md5OfBody, eventSource,
         eventSourceArn, awsRegion, body }

def isMatch (payload : Value) : Bool :=
  (((firstRecord payload).bind (Value.get "eventSource")).bind Value.asStr).any
    (fun source => source == "aws:sqs")

/-- `SqsRecord::new`, which indexes the records only after `is_match` has found
one. -/
def new (payload : Value) : Option SqsRecord :=
  (firstRecord payload).bind fromValue

def resolver (record : SqsRecord) : ServiceNameResolver where
  specificIdentifier := lastPiece ':' record.eventSourceArn
  genericIdentifier := "lambda_sqs"

def startTime (record : SqsRecord) : Int :=
  castI64 (mulF64 (roundF64 ((parseI64 record.attributes.sentTimestamp).getD 0)) msToNs)

def enrichSpan (env : TriggerEnv) (record : SqsRecord) (span : Span) : Span :=
  { span with
    name := "aws.sqs"
    service := record.resolver.resolveServiceName env.config record.resolver.specificIdentifier
      "sqs"
    resource := record.resolver.specificIdentifier
    type := "web"
    start := record.startTime
    metaTags := extend span.metaTags (tagsOf
      [("operation_name", "aws.sqs"), ("receipt_handle", record.receiptHandle),
        ("retry_count", record.attributes.approximateReceiveCount),
        ("sender_id", record.attributes.senderId), ("source_arn", record.eventSourceArn),
        ("aws_region", record.awsRegion)]) }

def getTags (record : SqsRecord) : Tags :=
  tagsOf [("retry_count", record.attributes.approximateReceiveCount),
    ("sender_id", record.attributes.senderId), ("source_arn", record.eventSourceArn),
    ("aws_region", record.awsRegion), (functionTriggerEventSourceTag, "sqs")]

def getArn (region : String) (record : SqsRecord) : String :=
  match (splitAtChar ':' record.eventSourceArn.toList).map String.ofList with
  | [_, _, _, _, account, queueName] =>
    "arn:" ++ getAwsPartitionByRegion region ++ ":sqs:" ++ region ++ ":" ++ account ++ ":" ++
      queueName
  | _ => ""

/-- The carrier in the message attributes, if one is read from them. -/
def attributeCarrier (libraries : Libraries) (record : SqsRecord) : Option Tags :=
  match record.messageAttributes.lookup datadogCarrierKey with
  | none => none
  | some messageAttribute =>
    if startsWith messageAttribute.dataType "String" then
      messageAttribute.stringValue.map (carrierFromStr libraries)
    else if startsWith messageAttribute.dataType "Binary" then
      (messageAttribute.binaryValue.bind libraries.base64ToString).map (carrierFromStr libraries)
    else none

def getCarrier (env : TriggerEnv) (record : SqsRecord) : Tags :=
  match record.attributeCarrier env.libraries with
  | some carrier => carrier
  | none =>
    match SnsEntity.fromStr env record.body with
    | some entity => SnsRecord.getCarrier env { sns := entity, eventSubscriptionArn := none }
    | none =>
      match EventBridgeEvent.fromStr env record.body with
      | some event => event.getCarrier
      | none => ∅

def getDsmEdgeTags (record : SqsRecord) : Option (List String) :=
  some ["direction:in", "topic:" ++ lastPiece ':' record.eventSourceArn, "type:sqs"]

def dsmCheckpoint (env : TriggerEnv) (value : Value) : Option DsmCheckpointInput := do
  let record <- fromValue value
  let edgeTags <- record.getDsmEdgeTags
  some { edgeTags, carrier := record.getCarrier env, payloadSizeBytes := record.body.utf8ByteSize }

def trigger (env : TriggerEnv) (payload : Value) (record : SqsRecord) : Trigger where
  enrichSpan := record.enrichSpan env
  getTags := record.getTags
  getArn := record.getArn env.config.region
  getCarrier := record.getCarrier env
  isAsync := true
  getDsmCheckpoints := dsmCheckpointsFromRecords (dsmCheckpoint env) payload
  getDdResourceKey := none
  hasServiceMappingEntry := record.resolver.hasServiceMappingEntry env.config.serviceMapping

end SqsRecord

end Lifecycle
end Bottlecap
