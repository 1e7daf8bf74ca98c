import Bottlecap.Lifecycle.StepFunctions

namespace Bottlecap
namespace Lifecycle

open Foundations

/-!
# Which trigger a payload is

`IdentifiedTrigger::from_value` asks the triggers one after the other whether
the payload is theirs, and the first to say yes reads it (`triggers/mod.rs`).
The message triggers and Step Functions are read here field by field; how the
others read their payloads is left to `TriggerFormats`.
-/

/-- The `new` of the triggers that are not read field by field. -/
structure TriggerFormats where
  apiGatewayHttpEvent : Value -> Option Trigger
  apiGatewayRestEvent : Value -> Option Trigger
  apiGatewayWebSocketEvent : Value -> Option Trigger
  albEvent : Value -> Option Trigger
  lambdaFunctionUrlEvent : Value -> Option Trigger
  mskEvent : Value -> Option Trigger
  dynamoDbRecord : Value -> Option (Trigger × Option (List SpanPointer))
  s3Record : Value -> Option (Trigger × Option (List SpanPointer))
  kinesisRecord : Value -> Option Trigger

/-- `IdentifiedTrigger` with the records that were read. -/
inductive TriggerEvent where
  | apiGatewayHttpEvent (trigger : Trigger)
  | apiGatewayRestEvent (trigger : Trigger)
  | apiGatewayWebSocketEvent (trigger : Trigger)
  | albEvent (trigger : Trigger)
  | lambdaFunctionUrlEvent (trigger : Trigger)
  | mskEvent (trigger : Trigger)
  | sqsRecord (record : SqsRecord)
  | snsRecord (record : SnsRecord)
  | dynamoDbRecord (trigger : Trigger) (pointers : Option (List SpanPointer))
  | s3Record (trigger : Trigger) (pointers : Option (List SpanPointer))
  | eventBridgeEvent (event : EventBridgeEvent)
  | kinesisRecord (trigger : Trigger)
  | stepFunctionEvent (event : StepFunctionEvent)
  | unknown

namespace Payload

def domainName (payload : Value) : Option Value :=
  (payload.get "requestContext").bind (Value.get "domainName")

def isApiGatewayHttpEvent (payload : Value) : Bool :=
  ((payload.get "version").bind Value.asStr).any (fun version => version == "2.0") &&
    (payload.get "rawQueryString").isSome &&
    (domainName payload).any (fun name =>
      (name.asStr).all (fun text => !contains text "lambda-url"))

def isApiGatewayRestEvent (payload : Value) : Bool :=
  ((payload.get "requestContext").bind (Value.get "stage")).isSome &&
    (payload.get "httpMethod").isSome && (payload.get "resource").isSome

def isApiGatewayWebSocketEvent (payload : Value) : Bool :=
  ((payload.get "requestContext").bind (Value.get "messageDirection")).isSome

def isAlbEvent (payload : Value) : Bool :=
  (((payload.get "requestContext").bind (Value.get "elb")).bind (Value.get "targetGroupArn")).isSome

def isLambdaFunctionUrlEvent (payload : Value) : Bool :=
  ((domainName payload).bind Value.asStr).any (fun name => contains name "lambda-url")

/-- The first record of the first group, whether the groups are arrays or
objects. -/
def isMskEvent (payload : Value) : Bool :=
  let group := (((payload.get "records").bind Value.asObject).bind List.head?).map Prod.snd
  let record :=
    match group with
    | some (.array items) => items.head?
    | some (.object members) => members.head?.map Prod.snd
    | _ => none
  (record.bind (Value.get "topic")).isSome

def isDynamoDbRecord (payload : Value) : Bool :=
  ((firstRecord payload).bind (Value.get "dynamodb")).isSome

def isS3Record (payload : Value) : Bool :=
  ((firstRecord payload).bind (Value.get "s3")).isSome

def isKinesisRecord (payload : Value) : Bool :=
  ((firstRecord payload).bind (Value.get "kinesis")).isSome

end Payload

namespace TriggerEvent

/-- `IdentifiedTrigger::from_value`: the triggers in the order they are
declared. -/
def fromValue (env : TriggerEnv) (formats : TriggerFormats) (payload : Value) : TriggerEvent :=
  if Payload.isApiGatewayHttpEvent payload then
    (formats.apiGatewayHttpEvent payload).elim unknown apiGatewayHttpEvent
  else if Payload.isApiGatewayRestEvent payload then
    (formats.apiGatewayRestEvent payload).elim unknown apiGatewayRestEvent
  else if Payload.isApiGatewayWebSocketEvent payload then
    (formats.apiGatewayWebSocketEvent payload).elim unknown apiGatewayWebSocketEvent
  else if Payload.isAlbEvent payload then
    (formats.albEvent payload).elim unknown albEvent
  else if Payload.isLambdaFunctionUrlEvent payload then
    (formats.lambdaFunctionUrlEvent payload).elim unknown lambdaFunctionUrlEvent
  else if Payload.isMskEvent payload then
    (formats.mskEvent payload).elim unknown mskEvent
  else if SqsRecord.isMatch payload then
    (SqsRecord.new payload).elim unknown sqsRecord
  else if SnsRecord.isMatch payload then
    (SnsRecord.new env payload).elim unknown snsRecord
  else if Payload.isDynamoDbRecord payload then
    (formats.dynamoDbRecord payload).elim unknown (fun read => dynamoDbRecord read.1 read.2)
  else if Payload.isS3Record payload then
    (formats.s3Record payload).elim unknown (fun read => s3Record read.1 read.2)
  else if EventBridgeEvent.isMatch payload then
    (EventBridgeEvent.fromValue env payload).elim unknown eventBridgeEvent
  else if Payload.isKinesisRecord payload then
    (formats.kinesisRecord payload).elim unknown kinesisRecord
  else if StepFunctionEvent.isMatch payload then
    (StepFunctionEvent.new payload).elim unknown stepFunctionEvent
  else unknown

/-- The event as the span inferrer uses it. -/
def identified (env : TriggerEnv) (payload : Value) : TriggerEvent -> IdentifiedTrigger
  | apiGatewayHttpEvent trigger => .apiGatewayHttpEvent trigger
  | apiGatewayRestEvent trigger => .apiGatewayRestEvent trigger
  | apiGatewayWebSocketEvent trigger => .apiGatewayWebSocketEvent trigger
  | albEvent trigger => .albEvent trigger
  | lambdaFunctionUrlEvent trigger => .lambdaFunctionUrlEvent trigger
  | mskEvent trigger => .mskEvent trigger
  | sqsRecord record => .sqsRecord (record.trigger env payload) record.body
      (extractTraceContextFromAwsTraceHeader record.attributes.awsTraceHeader)
  | snsRecord record => .snsRecord (record.trigger env payload) record.sns.message
  | dynamoDbRecord trigger pointers => .dynamoDbRecord trigger pointers
  | s3Record trigger pointers => .s3Record trigger pointers
  | eventBridgeEvent event => .eventBridgeEvent (event.trigger env)
  | kinesisRecord trigger => .kinesisRecord trigger
  | stepFunctionEvent event =>
    .stepFunctionEvent (event.trigger env) (event.getSpanContext env)
  | unknown => .unknown

end TriggerEvent

/-- The record built around an SNS message found in an SQS body. -/
def SnsEntity.wrapped (entity : SnsEntity) : SnsRecord :=
  { sns := entity, eventSubscriptionArn := none }

/-- How payloads, and the texts wrapped in them, parse to triggers.  A wrapped
SNS record has no payload of its own. -/
def triggersOf (env : TriggerEnv) (formats : TriggerFormats) : Triggers where
  fromValue := fun payload => (TriggerEvent.fromValue env formats payload).identified env payload
  snsFromBody := fun body => (SnsEntity.fromStr env body).map
    (fun entity => entity.wrapped.trigger env .null)
  eventBridgeFromText := fun text => (EventBridgeEvent.fromStr env text).map
    (fun event => event.trigger env)

/-! ## A plain environment -/

/-- Nothing is configured, no text parses, no carrier holds a trace context, and
every digest is zero. -/
def TriggerEnv.plain : TriggerEnv where
  libraries :=
    { jsonToString := fun _ => none
      jsonFromStr := fun _ => none
      floatToString := fun _ => ""
      parseF64 := fun _ => none
      base64ToString := fun _ => none
      toLowercase := id
      extractFromMap := fun _ => none
      extractFromJson := fun _ => none }
  config := ⟨∅, true, "us-east-1"⟩
  parseStruct := fun _ => none
  parseDateTime := fun _ => none
  parseDouble := fun _ => none
  sha256 := fun _ => Vector.replicate 32 0

/-- Payloads of the triggers that are not read field by field are refused. -/
def TriggerFormats.plain : TriggerFormats where
  apiGatewayHttpEvent := fun _ => none
  apiGatewayRestEvent := fun _ => none
  apiGatewayWebSocketEvent := fun _ => none
  albEvent := fun _ => none
  lambdaFunctionUrlEvent := fun _ => none
  mskEvent := fun _ => none
  dynamoDbRecord := fun _ => none
  s3Record := fun _ => none
  kinesisRecord := fun _ => none

end Lifecycle
end Bottlecap
