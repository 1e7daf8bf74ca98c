import Bottlecap.Extension.Events
import Bottlecap.Logs.HeldLogs

namespace Bottlecap
namespace Logs

open Foundations Extension

/-!
# From telemetry events to intake logs

The first half of `LambdaProcessor` (`logs/lambda/processor.rs`): `get_message`
turns a telemetry event into a message and keeps the request id of the active
invocation, `get_intake_log` completes the message to an intake log or queues
it as an orphan, and the processing rules of `logs/processor.rs` filter and mask
the text of a log.

What other crates do is a field of `LogLibraries`: JSON texts, the float and
debug formats of `format!`, and Unicode upper case.  A compiled regular
expression is given by what it matches and what it replaces.  A duration in
milliseconds is rational.
-/

structure LogLibraries where
  /-- `serde_json::to_string` of an object -/
  jsonToString : Value -> Option String
  /-- `Value::to_string` -/
  valueToString : Value -> String
  /-- `serde_json::from_str::<Value>` -/
  jsonFromStr : String -> Option Value
  /-- the format `:.2` of a float -/
  fixed : Rat -> String
  /-- the format `:?` of a string -/
  debug : String -> String
  toUppercase : String -> String

structure Regex where
  isMatch : String -> Bool
  replaceAll : String -> String -> String

inductive RuleKind where
  | excludeAtMatch
  | includeAtMatch
  | maskSequences
  deriving DecidableEq

structure Rule where
  kind : RuleKind
  regex : Regex
  placeholder : String

/-- What a `LambdaProcessor` is constructed with. -/
structure ProcessorEnv extends LogsEnv where
  libraries : LogLibraries
  functionArn : String
  service : String
  tags : String
  rules : Option (List Rule)
  logsEnabled : Bool

/-- One processing rule: `none` if it rejects the message. -/
def Rule.apply (rule : Rule) (message : String) : Option String :=
  match rule.kind with
  | .excludeAtMatch => if rule.regex.isMatch message then none else some message
  | .includeAtMatch => if rule.regex.isMatch message then some message else none
  | .maskSequences => some (rule.regex.replaceAll message rule.placeholder)

/-- `apply_rules`: `none` where the source returns `false`, otherwise the message
as the rules leave it. -/
def applyRules (rules : Option (List Rule)) (message : String) : Option String :=
  (rules.getD []).foldlM (fun text rule => rule.apply text) message

/-! ## Reading a record -/

def oomErrors : List String :=
  ["fatal error: runtime: out of memory",
    "java.lang.OutOfMemoryError",
    "JavaScript heap out of memory",
    "Runtime exited with error: signal: killed",
    "MemoryError",
    "failed to allocate memory (NoMemoryError)",
    "OutOfMemoryException"]

def isOomError (errorMsg : String) : Bool := oomErrors.any (fun text => contains errorMsg text)

/-- The execution id and name in a durable execution ARN. -/
def parseDurableExecutionArn (arn : String) : Option (String × String) :=
  let separator := "/durable-execution/".toList
  match (afterText separator arn.toList).map (beforeText separator) with
  | none => none
  | some durablePart =>
    match splitOnce '/' durablePart with
    | some (execName, execId) =>
      if execName.isEmpty || execId.isEmpty then none
      else some (String.ofList execId, String.ofList execName)
    | none => none

example : parseDurableExecutionArn "arn:f:1/durable-execution/name/id" = some ("id", "name") := by
  decide

def mapLogLevelToStatus (libraries : LogLibraries) (level : String) : Option String :=
  let level := libraries.toUppercase level
  if level = "FATAL" ∨ level = "CRITICAL" then some "critical"
  else if level = "ERROR" ∨ level = "ERR" then some "error"
  else if level = "WARN" ∨ level = "WARNING" then some "warn"
  else if level = "INFO" ∨ level = "INFORMATION" then some "info"
  else if level = "DEBUG" then some "debug"
  else if level = "TRACE" then some "trace"
  else none

/-- `is_http_library_record` (`logger/mod.rs`) -/
def isHttpLibraryRecord (record : Value) : Bool :=
  let messageStart := "DD_EXTENSION | "
  match record with
  | .string line =>
    startsWith line "\x7b\"target\":\"" && contains line (",\"message\":\"" ++ messageStart)
  | .object _ =>
    (record.get "target").isSome &&
      (((record.get "message").bind Value.asStr).any (fun text => startsWith text messageStart))
  | _ => false

def Message.new (message : String) (requestId : Option String) (functionArn : String)
    (timestamp : Int) (status : Option String) : Message where
  message := message
  lambda := ⟨functionArn, requestId, none, none, none, none⟩
  timestamp := timestamp
  status := status.getD "info"

/-- The request id, the text and the durable execution that a function record
carries. -/
def readFunctionRecord (libraries : LogLibraries) (record : Value) :
    Option String × Option String × Option (String × String) :=
  match record with
  | .object _ =>
    (((record.get "requestId").or (record.get "AWSRequestId")).bind Value.asStr,
      some ((libraries.jsonToString record).getD ""),
      ((record.get "executionArn").bind Value.asStr).bind parseDurableExecutionArn)
  | .string text => (none, some text, none)
  | _ => (none, none, none)

def readExtensionRecord (libraries : LogLibraries) (record : Value) : Option String :=
  match record with
  | .object _ => some ((libraries.jsonToString record).getD "")
  | .string text => some text
  | _ => none

/-- A log of the durable execution SDK carries its execution. -/
def Message.setExecution (execution : Option (String × String)) (message : Message) : Message :=
  match execution with
  | some (execId, execName) => { message with lambda := { message.lambda with
      durableExecutionId := some execId
      durableExecutionName := some execName } }
  | none => message

/-! ## The texts of platform events -/

/-- The text and the status of the END line. -/
def endLine (libraries : LogLibraries) (requestId : String) (status : Status)
    (errorType : Option String) (metrics : Option RuntimeDoneMetrics) : String × String :=
  let message := "END RequestId: " ++ requestId
  match metrics with
  | some metrics =>
    if status = .timeout then
      (message ++ " Task timed out after " ++ libraries.fixed (metrics.durationMs / 1000) ++
        " seconds", "error")
    else if status = .error then
      (message ++ " Task failed: " ++ libraries.debug (errorType.getD ""), "error")
    else (message, "info")
  | none =>
    if status = .timeout then (message ++ " Task timed out", "error") else (message, "info")

/-- The text and the status of the REPORT line of a Managed Instance. -/
def managedReportLine (libraries : LogLibraries) (requestId : String)
    (metrics : ManagedInstanceReportMetrics) (status : Status) (errorType : Option String) :
    String × String :=
  let message := "REPORT RequestId: " ++ requestId ++ " Runtime Duration: " ++
    libraries.fixed metrics.durationMs ++ " ms"
  match status with
  | .timeout =>
    (message ++ " Task timed out after " ++ libraries.fixed (metrics.durationMs / 1000) ++
      " seconds", "error")
  | .error =>
    (message ++ (match errorType with
      | none => " Task failed with an unknown error"
      | some error => " Task failed: " ++ error), "error")
  | _ => (message, "info")

/-- The suffix of the REPORT line for an outcome that is not a success. -/
def statusSuffix (status : Status) (errorType : Option String) : String × Option String :=
  let detail := match errorType with
    | some error => " Error Type: " ++ error
    | none => ""
  match status with
  | .timeout => (" Status: timeout", some "error")
  | .error => (" Status: error" ++ detail, some "error")
  | .failure => (" Status: failure" ++ detail, some "error")
  | .success => ("", none)

/-- The runtime duration and the post runtime duration that a REPORT line prints
when the processor remembers `runtimeDurationMs`. -/
def printedDurations (runtimeDurationMs : Rat) (metrics : OnDemandReportMetrics) : Rat × Rat :=
  (runtimeDurationMs, if 0 < runtimeDurationMs then metrics.durationMs - runtimeDurationMs else 0)

/-- The text and the status of the On-Demand REPORT line, with the two durations it
prints. -/
def reportLine (libraries : LogLibraries) (requestId : String) (durations : Rat × Rat)
    (metrics : OnDemandReportMetrics) (status : Status) (errorType : Option String) :
    String × Option String :=
  let message := "REPORT RequestId: " ++ requestId ++
    " Duration: " ++ libraries.fixed metrics.durationMs ++ " ms" ++
    " Runtime Duration: " ++ libraries.fixed durations.1 ++ " ms" ++
    " Post Runtime Duration: " ++ libraries.fixed durations.2 ++ " ms" ++
    " Billed Duration: " ++ toString metrics.billedDurationMs.toNat ++ " ms" ++
    " Memory Size: " ++ toString metrics.memorySizeMb.toNat ++ " MB" ++
    " Max Memory Used: " ++ toString metrics.maxMemoryUsedMb.toNat ++ " MB"
  let message := match metrics.initDurationMs with
    | some duration => message ++ " Init Duration: " ++ libraries.fixed duration ++ " ms"
    | none => message
  let suffix := statusSuffix status errorType
  (message ++ suffix.1, suffix.2)

/-! ## The processor -/

/-- The state of `LambdaProcessor`.  Of the invocation context it uses the
request id and the runtime duration; `eventBus` lists what it sent to the main
event bus, `buffers` are the fields that holding and releasing logs uses. -/
structure LambdaProcessor where
  requestId : String
  runtimeDurationMs : Rat
  orphanLogs : List IntakeLog
  buffers : HeldLogs
  eventBus : List Event

namespace LambdaProcessor

variable (env : ProcessorEnv)

def new : LambdaProcessor where
  requestId := ""
  runtimeDurationMs := 0
  orphanLogs := []
  buffers := HeldLogs.new
  eventBus := []

def currentRequestId (processor : LambdaProcessor) : Option String :=
  if processor.requestId = "" then none else some processor.requestId

def send (event : Event) (processor : LambdaProcessor) : LambdaProcessor :=
  { processor with eventBus := processor.eventBus ++ [event] }

/-- A text that tells of an out of memory error is reported on the event bus. -/
def sendOom (text : String) (requestId : Option String) (time : DateTime)
    (processor : LambdaProcessor) : LambdaProcessor :=
  if isOomError text then processor.send (.outOfMemory requestId time.timestamp)
  else processor

def getMessage (event : TelemetryEvent) (processor : LambdaProcessor) :
    LambdaProcessor × Except String Message :=
  let message := fun text requestId status =>
    Message.new text requestId env.functionArn event.time.timestampMillis status
  let forwarded := processor.send (.telemetry event)
  match event.record with
  | .function record =>
    match readFunctionRecord env.libraries record with
    | (requestId, some text, execution) =>
      (processor.sendOom text (requestId.or processor.currentRequestId) event.time,
        Except.ok ((message text requestId none).setExecution execution))
    | (_, none, _) => (processor, Except.error "Unable to parse log")
  | .extension record =>
    if isHttpLibraryRecord record then
      (processor, Except.error "HTTP library log, kept out of Datadog")
    else
      match readExtensionRecord env.libraries record with
      | some text =>
        (processor.sendOom text processor.currentRequestId event.time,
          Except.ok (message text none none))
      | none => (processor, Except.error "Unable to parse log")
  | .platformInitStart _ _ runtimeVersion runtimeVersionArn =>
    let rv := runtimeVersion.getD "?"
    let rvArn := runtimeVersionArn.getD "?"
    ({ forwarded with buffers :=
        forwarded.buffers.platformInitStart env.toLogsEnv (contains rv "DurableFunction") },
      Except.ok (message ("INIT_START Runtime Version: " ++ rv ++ " Runtime Version ARN: " ++ rvArn)
        none none))
  | .platformStart requestId version =>
    ({ forwarded with requestId := requestId },
      Except.ok (message ("START RequestId: " ++ requestId ++ " Version: " ++
        version.getD "$LATEST") (some requestId) none))
  | .platformRuntimeDone requestId status errorType metrics =>
    let line := endLine env.libraries requestId status errorType metrics
    ({ forwarded with
        requestId := ""
        runtimeDurationMs :=
          (metrics.map RuntimeDoneMetrics.durationMs).getD forwarded.runtimeDurationMs },
      Except.ok (message line.1 (some requestId) (some line.2)))
  | .platformReport requestId status errorType metrics _ =>
    match metrics with
    | .managedInstance metrics =>
      let line := managedReportLine env.libraries requestId metrics status errorType
      ({ forwarded with requestId := "", runtimeDurationMs := metrics.durationMs },
        Except.ok (message line.1 (some requestId) (some line.2)))
    | .onDemand metrics =>
      let line := reportLine env.libraries requestId
        (printedDurations forwarded.runtimeDurationMs metrics) metrics status errorType
      (forwarded, Except.ok (message line.1 (some requestId) line.2))
  | .platformInitReport _ _ _ => (forwarded, Except.error "Unsupported event type")
  | .platformRestoreStart => (forwarded, Except.error "Unsupported event type")
  | .platformRestoreReport _ _ _ =>
    (forwarded, Except.error "Unsupported event type")
  | _ => (processor, Except.error "Unsupported event type")

/-- The tags and the message of a log whose message is a JSON object. -/
def extractTagsAndGetMessage (members : List (String × Value)) (tags originalMessage : String) :
    String × String :=
  let object := Value.object members
  match (object.get "ddtags").bind Value.asStr with
  | some messageTags =>
    (tags ++ "," ++ messageTags,
      (env.libraries.jsonToString (Value.object (Value.remove "ddtags" members))).getD
        originalMessage)
  | none =>
    match object.get "message" with
    | some (.object inner) =>
      match ((Value.object inner).get "ddtags").bind Value.asStr with
      | some messageTags =>
        (tags ++ "," ++ messageTags,
          env.libraries.valueToString (Value.object (Value.remove "ddtags" inner)))
      | none => (tags, originalMessage)
    | _ => (tags, originalMessage)

/-- The request id of a log: that of its message, otherwise that of the active
invocation unless several can be active. -/
def logRequestId (processor : LambdaProcessor) (requestId : Option String) : Option String :=
  match requestId with
  | some requestId => some requestId
  | none =>
    if processor.requestId = "" ∨ env.isManagedInstanceMode = true then none
    else some processor.requestId

/-- The log that `get_intake_log` builds. -/
def intakeLog (processor : LambdaProcessor) (message : Message) : IntakeLog :=
  let message := { message with lambda := { message.lambda with
    requestId := processor.logRequestId env message.lambda.requestId } }
  match env.libraries.jsonFromStr message.message with
  | some (.object members) =>
    let extracted := extractTagsAndGetMessage env members env.tags message.message
    let object := Value.object members
    let status := ((((object.get "level").or (object.get "status")).bind Value.asStr).bind
      (mapLogLevelToStatus env.libraries)).getD message.status
    { hostname := env.functionArn
      source := "lambda"
      service := env.service
      tags := extracted.1
      message := { message with message := extracted.2, status := status } }
  | _ =>
    { hostname := env.functionArn
      source := "lambda"
      service := env.service
      tags := env.tags
      message := message }

def getIntakeLog (message : Message) (processor : LambdaProcessor) :
    LambdaProcessor × Except String IntakeLog :=
  let log := processor.intakeLog env message
  if log.message.lambda.requestId.isSome || env.isManagedInstanceMode then
    (processor, Except.ok log)
  else
    ({ processor with orphanLogs := processor.orphanLogs ++ [log] },
      Except.error "No request_id available, queueing for later")

def makeLog (event : TelemetryEvent) (processor : LambdaProcessor) :
    LambdaProcessor × Except String IntakeLog :=
  match processor.getMessage env event with
  | (processor, Except.ok message) => processor.getIntakeLog env message
  | (processor, Except.error error) => (processor, Except.error error)

end LambdaProcessor
end Logs
end Bottlecap
