import Bottlecap.Logs.Messages

namespace Bottlecap
namespace Logs

open Foundations Extension

/-!
# The log processor and its agent

The second half of `LambdaProcessor`: a log that passes the processing rules is
queued, the orphans follow it under the request id that is known now, and what
has become ready is handed to the aggregator.  `LogsProcessor`
(`logs/processor.rs`) adds the durable context updates, and `LogsAgent::spin`
(`logs/agent.rs`) is the loop over both channels with the shutdown that follows
its cancellation.

A call that queues a log may run the eviction loop of `hold_log`, so it takes
the number of iterations that each loop may use.  The aggregator's channel is
unbounded and open: `insert_batch` succeeds.
-/

namespace LambdaProcessor

variable (env : ProcessorEnv)

/-- The log as the processing rules leave it, if they pass it. -/
def passRules (log : IntakeLog) : Option IntakeLog :=
  (applyRules env.rules log.message.message).map (fun text =>
    { log with message := { log.message with message := text } })

/-- The log that is sent: logs are enabled and the rules pass it. -/
def keep (log : IntakeLog) : Option IntakeLog :=
  if env.logsEnabled then passRules env log else none

def processAndQueueLog (fuel : Nat) (processor : LambdaProcessor) (log : IntakeLog) :
    Option LambdaProcessor :=
  match keep env log with
  | some log =>
    (processor.buffers.queueLogAfterRules env.toLogsEnv fuel log).map (fun buffers =>
      { processor with buffers := buffers })
  | none => some processor

/-- An orphan gets the request id of the invocation context. -/
def adopt (requestId : String) (orphan : IntakeLog) : IntakeLog :=
  { orphan with message := { orphan.message with lambda := { orphan.message.lambda with
    requestId := some requestId } } }

/-- The loop over the taken orphans. -/
def processOrphans (fuel : Nat) (processor : LambdaProcessor) : Option LambdaProcessor :=
  processor.orphanLogs.foldlM
    (fun current orphan =>
      current.processAndQueueLog env fuel (adopt current.requestId orphan))
    { processor with orphanLogs := [] }

def takeReadyLogs (processor : LambdaProcessor) : List String × LambdaProcessor :=
  (processor.buffers.takeReadyLogs.1,
    { processor with buffers := processor.buffers.takeReadyLogs.2 })

/-- The part of `process` before the ready logs are handed over. -/
def queueEvent (fuel : Nat) (event : TelemetryEvent) (processor : LambdaProcessor) :
    Option LambdaProcessor :=
  match processor.makeLog env event with
  | (made, Except.ok log) =>
    (made.processAndQueueLog env fuel log).bind (fun queued => queued.processOrphans env fuel)
  | (made, Except.error _) => some made

/-- `process`, with the batch that it hands to the aggregator. -/
def process (fuel : Nat) (event : TelemetryEvent) (processor : LambdaProcessor) :
    Option (List String × LambdaProcessor) :=
  (processor.queueEvent env fuel event).map takeReadyLogs

end LambdaProcessor

structure DurableContextUpdate where
  requestId : String
  executionId : String
  executionName : String
  firstInvocation : Option Bool
  executionStatus : Option String

def DurableContextUpdate.context (update : DurableContextUpdate) : DurableExecutionContext where
  executionId := update.executionId
  executionName := update.executionName
  firstInvocation := update.firstInvocation
  executionStatus := update.executionStatus

/-- A processor with the batches it has handed to the aggregator. -/
structure LogsProcessor where
  lambda : LambdaProcessor
  aggregator : List (List String)

namespace LogsProcessor

variable (env : ProcessorEnv)

def new : LogsProcessor where
  lambda := LambdaProcessor.new
  aggregator := []

/-- Empty batches are not inserted. -/
def insertBatch (batch : List String) (logs : LogsProcessor) : LogsProcessor :=
  if batch.isEmpty then logs else { logs with aggregator := logs.aggregator ++ [batch] }

/-- `take_ready_logs` and the `insert_batch` that follows each of its calls. -/
def handOver (logs : LogsProcessor) : LogsProcessor :=
  insertBatch logs.lambda.takeReadyLogs.1 { logs with lambda := logs.lambda.takeReadyLogs.2 }

def process (fuel : Nat) (event : TelemetryEvent) (logs : LogsProcessor) : Option LogsProcessor :=
  (logs.lambda.process env fuel event).map (fun processed =>
    insertBatch processed.1 { logs with lambda := processed.2 })

def insertToDurableMap (update : DurableContextUpdate) (logs : LogsProcessor) : LogsProcessor :=
  let buffers :=
    logs.lambda.buffers.insertToDurableContextMap env.toLogsEnv update.requestId update.context
  { logs with lambda := { logs.lambda with buffers := buffers } }

def processDurableContextUpdate (update : DurableContextUpdate) (logs : LogsProcessor) :
    LogsProcessor :=
  (logs.insertToDurableMap env update).handOver

/-- `LambdaProcessor::drain_held_logs` -/
def drainToReady (logs : LogsProcessor) : LogsProcessor :=
  let buffers := logs.lambda.buffers.drainHeldLogs env.toLogsEnv
  { logs with lambda := { logs.lambda with buffers := buffers } }

def drainHeldLogs (logs : LogsProcessor) : LogsProcessor :=
  (logs.drainToReady env).handOver

end LogsProcessor

/-- What the agent receives on its two channels. -/
inductive AgentInput where
  | event (event : TelemetryEvent)
  | update (update : DurableContextUpdate)

namespace LogsAgent

variable (env : ProcessorEnv)

/-- One turn of the agent's loop. -/
def step (fuel : Nat) (logs : LogsProcessor) : AgentInput -> Option LogsProcessor
  | .event event => logs.process env fuel event
  | .update update => some (logs.processDurableContextUpdate env update)

def sendTombstone (logs : LogsProcessor) : LogsProcessor :=
  { logs with lambda := logs.lambda.send .tombstone }

/-- A whole run of the agent: the inputs its `select!` took before it saw the
cancellation, the events left in the channel, the updates left in theirs. -/
def spin (fuel : Nat) (selected : List AgentInput) (drained : List TelemetryEvent)
    (pending : List DurableContextUpdate) (logs : LogsProcessor) : Option LogsProcessor :=
  (selected.foldlM (step env fuel) logs).bind (fun served =>
    (drained.foldlM (fun (current : LogsProcessor) event => current.process env fuel event)
      served).map
      (fun closed =>
        sendTombstone ((pending.foldl (fun (current : LogsProcessor) update =>
          current.processDurableContextUpdate env update) closed).drainHeldLogs env)))

end LogsAgent

/-! ## A processor for concrete runs -/

/-- An attribute that is left out of the JSON text when it has no value. -/
def optionalAttribute (name : String) (value : Option String) : String :=
  match value with
  | some value => ",\"" ++ name ++ "\":\"" ++ value ++ "\""
  | none => ""

/-- The JSON text of a log whose strings need no escapes. -/
def IntakeLog.plainText (log : IntakeLog) : String :=
  let lambda := log.message.lambda
  "\x7b\"message\":\x7b\"message\":\"" ++ log.message.message ++
    "\",\"lambda\":\x7b\"arn\":\"" ++ lambda.arn ++ "\",\"request_id\":" ++
    (match lambda.requestId with
      | some id => "\"" ++ id ++ "\""
      | none => "null") ++
    optionalAttribute "durable_function.execution_id" lambda.durableExecutionId ++
    optionalAttribute "durable_function.execution_name" lambda.durableExecutionName ++
    (match lambda.firstInvocation with
      | some first => ",\"durable_function.first_invocation\":" ++ toString first
      | none => "") ++
    optionalAttribute "durable_function.execution_status" lambda.durableExecutionStatus ++
    "\x7d,\"timestamp\":" ++ toString log.message.timestamp ++ ",\"status\":\"" ++
    log.message.status ++ "\"\x7d,\"hostname\":\"" ++ log.hostname ++ "\",\"service\":\"" ++
    log.service ++ "\",\"ddtags\":\"" ++ log.tags ++ "\",\"ddsource\":\"" ++ log.source ++
    "\"\x7d"

/-- A processor without rules for plain texts, none of which is JSON. -/
def ProcessorEnv.plain (logsEnabled : Bool) : ProcessorEnv where
  lambdaDurableFunctionLogBufferSize := 50
  isManagedInstanceMode := false
  serialize := fun log => some log.plainText
  iterate := IterationOrder.listed _
  libraries := {
    jsonToString := fun _ => none
    valueToString := fun _ => ""
    jsonFromStr := fun _ => none
    fixed := fun value => toString value.num
    debug := fun text => "\"" ++ text ++ "\""
    toUppercase := id }
  functionArn := "arn"
  service := "service"
  tags := ""
  rules := none
  logsEnabled := logsEnabled

/-- A line that the function wrote. -/
def TelemetryEvent.line (text : String) : TelemetryEvent :=
  ⟨0, .function (.string text)⟩

def TelemetryEvent.start (requestId : String) : TelemetryEvent :=
  ⟨0, .platformStart requestId none⟩

end Logs
end Bottlecap
