import Bottlecap.Foundations.Lists
import Bottlecap.Lifecycle.SpanInferrer
import Bottlecap.Logs.HeldLogs

namespace Bottlecap
namespace Appsec

open Foundations
open Lifecycle (Span SpanPointer Tags)
open Logs (IterationOrder)

/-!
# App & API Protection

`appsec/processor/mod.rs` keeps a security context for each of the last requests,
`appsec/processor/context.rs` says what a context collects.  A trace whose `aws.lambda`
span belongs to a request without a response is held in the context of that request
and passed on when the response is seen or the context leaves the buffer.

What the WAF reports for a payload is part of the payload, and whether the API Security
sampler decides for an endpoint is part of the call.  Holding a trace does not depend
on either.
-/

inductive TagName where
  | appsecEnabled
  | appsecEvent
  | appsecEventRulesVersion
  | appsecJson
  | appsecWafDuration
  | appsecWafTimeouts
  | appsecWafVersion
  | origin
  | httpUrl
  | httpMethod
  | httpRoute
  | httpStatusCode
  | networkClientIp
  | samplingPriorityV1
  | dynamic (name : String)
  deriving DecidableEq

def TagName.asStr : TagName -> String
  | appsecEnabled => "_dd.appsec.enabled"
  | appsecEvent => "appsec.event"
  | appsecEventRulesVersion => "_dd.appsec.event_rules.version"
  | appsecJson => "_dd.appsec.json"
  | appsecWafDuration => "_dd.appsec.waf.duration"
  | appsecWafTimeouts => "_dd.appsec.waf.timeouts"
  | appsecWafVersion => "_dd.appsec.waf.version"
  | origin => "_dd.origin"
  | httpUrl => "http.url"
  | httpMethod => "http.method"
  | httpRoute => "http.route"
  | httpStatusCode => "http.status_code"
  | networkClientIp => "network.client.ip"
  | samplingPriorityV1 => "_sampling_priority_v1"
  | dynamic name => name

inductive TagValue where
  | always (value : String)
  | onEvent (value : Value)
  | appSecEvents (triggers : List Value)
  | metric (value : Rat)

inductive ExpectedResponseFormat where
  | apiGatewayResponse
  | raw
  | unknown
  deriving DecidableEq

/-- What one evaluation of the WAF ruleset returns.  Attributes and events that do not
convert to text or JSON are already left out; a duration counts nanoseconds. -/
structure RunOutput where
  duration : Nat
  timeout : Bool
  keep : Bool
  attributes : List (String × String)
  events : Option (List Value)

/-- An `InvocationPayload`: the tags that `collect_span_tags` takes from it, and what the
WAF returns for its address data, if it has any and the run does not fail. -/
structure Payload where
  correspondingResponseFormat : ExpectedResponseFormat
  spanTags : List (TagName × TagValue)
  evaluation : Option RunOutput

/-- What the processor is constructed with, and the library behaviour it relies on. -/
structure Env where
  wafVersion : String
  rulesetVersion : String
  wafTimeout : Nat
  valueToString : Value -> String
  iterate : IterationOrder (Sigma fun _ : TagName => TagValue)

/-- The fields of a context that the evaluation of payloads writes. -/
structure Findings where
  expectedResponseFormat : ExpectedResponseFormat
  wafTimeout : Nat
  wafDuration : Nat
  wafTimedOutOccurrences : Nat
  hasEvents : Bool
  traceTags : AList (fun _ : TagName => TagValue)

namespace Findings

/-- The tags of `Context::new`. -/
def new (env : Env) : Findings where
  expectedResponseFormat := .unknown
  wafTimeout := env.wafTimeout
  wafDuration := 0
  wafTimedOutOccurrences := 0
  hasEvents := false
  traceTags :=
    let tags := ((∅ : AList (fun _ : TagName => TagValue)).insert .appsecEnabled
      (.metric 1)).insert .appsecWafVersion (.always env.wafVersion)
    if env.rulesetVersion.isEmpty then tags
    else tags.insert .appsecEventRulesVersion (.always env.rulesetVersion)

/-- The triggers of earlier events, to which the new ones are added. -/
def triggers (findings : Findings) : List Value :=
  match findings.traceTags.lookup .appsecJson with
  | some (.appSecEvents triggers) => triggers
  | _ => []

def processEvents (events : Option (List Value)) (findings : Findings) : Findings :=
  match events with
  | some (event :: rest) =>
    { findings with
      hasEvents := true
      traceTags := (findings.traceTags.insert .appsecEvent (.always "true")).insert
        .appsecJson (.appSecEvents (findings.triggers ++ event :: rest)) }
  | _ => findings

def processResult (output : RunOutput) (findings : Findings) : Findings :=
  let tags := findings.traceTags
  let tags := if output.keep then tags.insert .samplingPriorityV1 (.metric 2) else tags
  let tags := output.attributes.foldl (fun tags pair =>
    tags.insert (.dynamic pair.1) (.always pair.2)) tags
  { findings with
    wafTimeout := findings.wafTimeout - output.duration
    wafDuration := findings.wafDuration + output.duration
    wafTimedOutOccurrences :=
      if output.timeout then findings.wafTimedOutOccurrences + 1
      else findings.wafTimedOutOccurrences
    traceTags := tags }.processEvents output.events

/-- `Context::run` -/
def run (payload : Payload) (findings : Findings) : Findings :=
  if findings.wafTimeout = 0 then
    { findings with wafTimedOutOccurrences := findings.wafTimedOutOccurrences + 1 }
  else
    let findings := { findings with
      expectedResponseFormat :=
        if findings.expectedResponseFormat = .unknown then
          payload.correspondingResponseFormat
        else findings.expectedResponseFormat
      traceTags := payload.spanTags.foldl (fun tags tag => tags.insert tag.1 tag.2)
        findings.traceTags }
    match payload.evaluation with
    | some output => findings.processResult output
    | none => findings

variable (env : Env)

def setMeta (key : TagName) (value : String) (span : Span) : Span :=
  { span with metaTags := span.metaTags.insert key.asStr value }

def setMetric (key : TagName) (value : Rat) (span : Span) : Span :=
  { span with metrics := span.metrics.insert key.asStr value }

def applyTag (findings : Findings) (span : Span) (tag : Sigma fun _ : TagName => TagValue) : Span :=
  match tag.2 with
  | .always value => setMeta tag.1 value span
  | .appSecEvents triggers =>
    setMeta tag.1 (env.valueToString (.object [("triggers", .array triggers)])) span
  | .onEvent value =>
    if findings.hasEvents then
      match value with
      | .string text => setMeta tag.1 text span
      | other => setMeta tag.1 (env.valueToString other) span
    else span
  | .metric value => setMetric tag.1 value span

/-- `Context::process_span` -/
def processSpan (findings : Findings) (span : Span) : Span :=
  let span := (env.iterate.arrange findings.traceTags.entries).foldl (findings.applyTag env) span
  let span := setMetric .appsecWafDuration ((findings.wafDuration / 1000 : Nat) : Rat) span
  let span := setMetric .appsecWafTimeouts (findings.wafTimedOutOccurrences : Rat) span
  match span.metaTags.lookup TagName.origin.asStr with
  | some _ => span
  | none => setMeta .origin "appsec" span

end Findings

/-! ## Contexts -/

abbrev Trace := List Span

/-- What is kept with a held trace, apart from the configuration and the tags provider,
which never change. -/
structure HoldArguments where
  bodySize : Nat
  spanPointers : Option (List SpanPointer)
  headerTags : Tags

/-- One call of `process_traces`, with which traces are passed on for sending. -/
structure Submission where
  traces : List Trace
  arguments : HoldArguments

/-- A trace is held only as long as the response has not been seen. -/
structure Context where
  rid : String
  findings : Findings
  responseSeen : Bool
  heldTrace : Option (Trace × HoldArguments)
  released : responseSeen = true -> heldTrace = none

def invocationSpanResource : String := "dd-tracer-serverless-span"

def isServiceEntry (span : Span) : Bool :=
  span.name == "aws.lambda" && span.resource != invocationSpanResource

/-- `service_entry_span_mut` followed by a change of the span. -/
def onServiceEntry (change : Span -> Span) : Trace -> Trace := modifyFirst isServiceEntry change

namespace Context

variable (env : Env)

def new (rid : String) : Context :=
  ⟨rid, Findings.new env, false, none, fun _ => rfl⟩

def onFindings (change : Findings -> Findings) (context : Context) : Context :=
  { context with findings := change context.findings }

/-- `set_response_seen`: the held trace is tagged once more and sent by a sender without
App & API Protection, which passes it on as it is. -/
def setResponseSeen (context : Context) : Context × List Submission :=
  ({ context with responseSeen := true, heldTrace := none, released := fun _ => rfl },
    if context.responseSeen then []
    else
      match context.heldTrace with
      | some (trace, arguments) =>
        [⟨[onServiceEntry (context.findings.processSpan env) trace], arguments⟩]
      | none => [])

/-- `hold_trace` -/
def holdTrace (trace : Trace) (arguments : HoldArguments) (context : Context) : Context :=
  if pending : context.responseSeen = false then
    { context with
      heldTrace := some (trace, arguments)
      released := fun seen => Bool.noConfusion (pending.symm.trans seen) }
  else context

end Context

/-! ## The processor -/

/-- The capacity is the one of the `VecDeque`, which never grows. -/
structure Processor where
  contextBuffer : List Context
  capacity : Nat

namespace Processor

variable (env : Env)

def withCapacity (capacity : Nat) : Processor := ⟨[], capacity⟩

/-- `Processor::new` -/
def new : Processor := withCapacity 5

def isFor (rid : String) (context : Context) : Bool := context.rid == rid

def getContext (rid : String) (processor : Processor) : Option Context :=
  processor.contextBuffer.find? (isFor rid)

/-- `get_context_mut` followed by an assignment through the reference. -/
def update (rid : String) (change : Context -> Context) (processor : Processor) : Processor :=
  { processor with contextBuffer := modifyFirst (isFor rid) change processor.contextBuffer }

def deleteContext (rid : String) (processor : Processor) : Processor :=
  { processor with contextBuffer := processor.contextBuffer.eraseP (isFor rid) }

/-- The context that a new one for this request displaces, and the others. -/
def makeRoom (rid : String) (processor : Processor) : Option Context × List Context :=
  if (processor.getContext rid).isSome then
    (processor.getContext rid, processor.contextBuffer.eraseP (isFor rid))
  else if processor.contextBuffer.length = processor.capacity then
    (processor.contextBuffer.head?, processor.contextBuffer.tail)
  else (none, processor.contextBuffer)

/-- `new_context`, and the change made through the reference it returns. -/
def newContext (rid : String) (change : Context -> Context) (processor : Processor) :
    Processor × List Submission :=
  let (dropped, kept) := processor.makeRoom rid
  ({ processor with contextBuffer := kept ++ [change (Context.new env rid)] },
    match dropped with
    | some context => (context.setResponseSeen env).2
    | none => [])

/-- `process_invocation_next`; a trigger that is not identified has no payload. -/
def processInvocationNext (rid : String) (payload : Option Payload) (processor : Processor) :
    Processor × List Submission :=
  match payload with
  | none => (processor, [])
  | some payload => processor.newContext env rid (Context.onFindings (Findings.run payload))

/-- The response of an invocation: how it parses in a known format, and what the WAF
returns when the sampler asks for the schemas of its endpoint. -/
structure Response where
  parse : ExpectedResponseFormat -> Option Payload
  extractSchemas : Option RunOutput

/-- What the response adds to the findings. -/
def Response.evaluate (response : Response) (findings : Findings) : Findings :=
  let payload :=
    if findings.expectedResponseFormat = .unknown then none
    else response.parse findings.expectedResponseFormat
  let findings :=
    match payload with
    | some payload => findings.run payload
    | none => findings
  match response.extractSchemas with
  | some output => findings.processResult output
  | none => findings

def processInvocationResult (rid : String) (response : Response) (processor : Processor) :
    Processor × List Submission :=
  match processor.getContext rid with
  | none => (processor, [])
  | some context =>
    let (seen, submitted) := (context.onFindings response.evaluate).setResponseSeen env
    (processor.update rid (fun _ => seen), submitted)

/-- The context of the request that the `aws.lambda` span of a trace belongs to. -/
def contextOf (trace : Trace) (processor : Processor) : Option Context :=
  ((trace.find? isServiceEntry).bind (fun span => span.metaTags.lookup "request_id")).bind
    (fun rid => processor.getContext rid)

/-- What `send_processed_traces` does with one trace: the trace is kept, or held in the
context of its request. -/
def offer (arguments : HoldArguments) (processor : Processor) (trace : Trace) :
    Processor × Option Trace :=
  match processor.contextOf trace with
  | none => (processor, some trace)
  | some context =>
    let tagged := onServiceEntry (context.findings.processSpan env) trace
    if context.responseSeen then (processor.deleteContext context.rid, some tagged)
    else (processor.update context.rid (Context.holdTrace tagged arguments), none)

/-- The closure of `filter_map` over the traces. -/
def offerAll (arguments : HoldArguments) : Processor -> List Trace -> Processor × List Trace
  | processor, [] => (processor, [])
  | processor, trace :: rest =>
    let (next, kept) := processor.offer env arguments trace
    let (last, later) := offerAll arguments next rest
    (last, kept.toList ++ later)

/-- `send_processed_traces` of a sender with App & API Protection. -/
def sendProcessedTraces (traces : List Trace) (arguments : HoldArguments) (processor : Processor) :
    Processor × List Submission :=
  let (processor, traces) := offerAll env arguments processor traces
  (processor, if traces.isEmpty then [] else [⟨traces, arguments⟩])

end Processor

/-! ## Runs -/

/-- The calls of the three entry points, which a mutex puts in some order. -/
inductive Call where
  | sendProcessedTraces (traces : List Trace) (arguments : HoldArguments)
  | processInvocationNext (rid : String) (payload : Option Payload)
  | processInvocationResult (rid : String) (response : Processor.Response)

def Call.traces : Call -> List Trace
  | sendProcessedTraces traces _ => traces
  | _ => []

def Processor.handle (env : Env) (processor : Processor) : Call -> Processor × List Submission
  | .sendProcessedTraces traces arguments => processor.sendProcessedTraces env traces arguments
  | .processInvocationNext rid payload => processor.processInvocationNext env rid payload
  | .processInvocationResult rid response => processor.processInvocationResult env rid response

/-- The processor, with the traces it was given and the submissions it made so far. -/
structure History where
  processor : Processor
  given : List Trace
  submitted : List Submission

namespace History

def start (processor : Processor) : History := ⟨processor, [], []⟩

def step (env : Env) (history : History) (call : Call) : History :=
  let (processor, submitted) := history.processor.handle env call
  ⟨processor, history.given ++ call.traces, history.submitted ++ submitted⟩

end History
end Appsec
end Bottlecap
