import Mathlib.Data.List.AList
import Bottlecap.Foundations.Loop
import Bottlecap.Foundations.Text

namespace Bottlecap
namespace Logs

open Foundations

/-!
# Logs held for durable functions

`logs/lambda/processor.rs` parks the logs of a request until it is known
whether the function is durable and, if it is, until the durable execution
context of that request arrives.  This module is the part of
`LambdaProcessor` that does so: the held logs with their eviction order, the
durable contexts with theirs, and the logs ready to be aggregated.

The eviction loop of `hold_log` is a `while` loop of the source without a
bound, so `holdLog` takes the number of iterations the loop may use and fails
when they do not suffice.  A call of the source returns exactly when some
number does.

`serde_json::to_string` and the iteration order of a `HashMap` are not fixed
by the source.  Both are part of `LogsEnv`; the order is any permutation.
-/

/-- `Lambda`, the attributes of a message that name its invocation. -/
structure Lambda where
  arn : String
  requestId : Option String
  durableExecutionId : Option String
  durableExecutionName : Option String
  firstInvocation : Option Bool
  durableExecutionStatus : Option String
  deriving DecidableEq

structure Message where
  message : String
  lambda : Lambda
  timestamp : Int
  status : String
  deriving DecidableEq

structure IntakeLog where
  message : Message
  hostname : String
  service : String
  tags : String
  source : String
  deriving DecidableEq

structure DurableExecutionContext where
  executionId : String
  executionName : String
  firstInvocation : Option Bool
  executionStatus : Option String
  deriving DecidableEq

/-- The held logs of the source's `HashMap<String, Vec<IntakeLog>>`. -/
abbrev HeldMap := AList (fun _ : String => List IntakeLog)

/-- An order in which a hash map hands out its entries. -/
structure IterationOrder (Entry : Type) where
  arrange : List Entry -> List Entry
  perm : forall entries, (arrange entries).Perm entries

/-- The entries as they are listed. -/
def IterationOrder.listed (Entry : Type) : IterationOrder Entry :=
  ⟨id, fun entries => List.Perm.refl entries⟩

/-- What a `LambdaProcessor` is constructed with, and the two library
behaviours its source leaves open. -/
structure LogsEnv where
  lambdaDurableFunctionLogBufferSize : Nat
  isManagedInstanceMode : Bool
  serialize : IntakeLog -> Option String
  iterate : IterationOrder (Sigma fun _ : String => List IntakeLog)

/-- The fields of `LambdaProcessor` that holding and releasing logs uses. -/
structure HeldLogs where
  isDurableFunction : Option Bool
  heldLogs : HeldMap
  heldLogsOrder : List String
  durableContextMap : AList (fun _ : String => DurableExecutionContext)
  durableContextOrder : List String
  readyLogs : List String

def durableContextMapCapacity : Nat := 500

def isPlatformLog (message : String) : Bool :=
  startsWith message "START RequestId:" || startsWith message "END RequestId:" ||
    startsWith message "REPORT RequestId:"

namespace HeldLogs

variable (env : LogsEnv)

/-- The initial values `LambdaProcessor::new` gives these fields. -/
def new : HeldLogs where
  isDurableFunction := none
  heldLogs := ∅
  heldLogsOrder := []
  durableContextMap := ∅
  durableContextOrder := []
  readyLogs := []

/-- `if let Ok(s) = serde_json::to_string(&log) { self.ready_logs.push(s) }` -/
def pushReady (logs : HeldLogs) (log : IntakeLog) : HeldLogs :=
  match env.serialize log with
  | some text => { logs with readyLogs := logs.readyLogs ++ [text] }
  | none => logs

/-- The log that `set_durable_context_and_mark_ready` serializes. -/
def withDurableContext (context : DurableExecutionContext) (log : IntakeLog) : IntakeLog :=
  let text := log.message.message
  let lambda := { log.message.lambda with
    durableExecutionId := some context.executionId
    durableExecutionName := some context.executionName }
  let lambda := if isPlatformLog text then
    { lambda with firstInvocation := context.firstInvocation } else lambda
  let lambda :=
    if startsWith text "END RequestId:" ||
        (env.isManagedInstanceMode && startsWith text "REPORT RequestId:") then
      { lambda with durableExecutionStatus := context.executionStatus }
    else lambda
  { log with message := { log.message with lambda := lambda } }

def setDurableContextAndMarkReady (context : DurableExecutionContext) (logs : HeldLogs)
    (log : IntakeLog) : HeldLogs :=
  logs.pushReady env (withDurableContext env context log)

def takeReadyLogs (logs : HeldLogs) : List String × HeldLogs :=
  (logs.readyLogs, { logs with readyLogs := [] })

/-- The guard of the eviction loop of `hold_log`. -/
def evictionGuard (logs : HeldLogs) : Bool :=
  decide (env.lambdaDurableFunctionLogBufferSize <= logs.heldLogs.keys.length)

/-- One iteration of the eviction loop.  When the order is empty, or names a
request that is not held, the iteration removes no key. -/
def evictOldest (logs : HeldLogs) : HeldLogs :=
  match logs.heldLogsOrder with
  | [] => logs
  | oldest :: rest =>
    match logs.heldLogs.lookup oldest with
    | none => { logs with heldLogsOrder := rest }
    | some evicted =>
      evicted.foldl (pushReady env)
        { logs with heldLogsOrder := rest, heldLogs := logs.heldLogs.erase oldest }

/-- `self.held_logs.entry(request_id).or_default().push(log)` -/
def appendHeld (requestId : String) (log : IntakeLog) (logs : HeldLogs) : HeldLogs :=
  { logs with heldLogs :=
      logs.heldLogs.insert requestId ((logs.heldLogs.lookup requestId).getD [] ++ [log]) }

def holdLog (fuel : Nat) (requestId : String) (log : IntakeLog) (logs : HeldLogs) :
    Option HeldLogs :=
  if env.lambdaDurableFunctionLogBufferSize = 0 then
    some logs
  else if requestId ∈ logs.heldLogs then
    some (logs.appendHeld requestId log)
  else
    (whileLoop (evictionGuard env) (evictOldest env) fuel logs).map (fun evicted =>
      appendHeld requestId log
        { evicted with heldLogsOrder := evicted.heldLogsOrder ++ [requestId] })

def queueLogAfterRules (fuel : Nat) (log : IntakeLog) (logs : HeldLogs) : Option HeldLogs :=
  if log.message.lambda.durableExecutionId.isSome then
    some (logs.pushReady env log)
  else if env.lambdaDurableFunctionLogBufferSize = 0 then
    some (logs.pushReady env log)
  else
    match logs.isDurableFunction with
    | none =>
      match log.message.lambda.requestId with
      | some requestId => logs.holdLog env fuel requestId log
      | none => some (logs.pushReady env log)
    | some false => some (logs.pushReady env log)
    | some true =>
      match log.message.lambda.requestId.bind (fun id => logs.durableContextMap.lookup id) with
      | some context => some (logs.setDurableContextAndMarkReady env context log)
      | none =>
        match log.message.lambda.requestId with
        | some requestId => logs.holdLog env fuel requestId log
        | none => some (logs.pushReady env log)

def drainHeldLogsForRequestId (requestId : String) (logs : HeldLogs) : HeldLogs :=
  match logs.heldLogs.lookup requestId with
  | none => logs
  | some held =>
    let drained := { logs with
      heldLogs := logs.heldLogs.erase requestId
      heldLogsOrder := logs.heldLogsOrder.filter (fun other => other != requestId) }
    match drained.durableContextMap.lookup requestId with
    | none => drained
    | some context => held.foldl (setDurableContextAndMarkReady env context) drained

def insertToDurableContextMap (requestId : String) (context : DurableExecutionContext)
    (logs : HeldLogs) : HeldLogs :=
  if requestId ∈ logs.durableContextMap then
    logs
  else
    let trimmed :=
      if durableContextMapCapacity <= logs.durableContextOrder.length then
        match logs.durableContextOrder with
        | [] => logs
        | oldest :: rest => { logs with
            durableContextOrder := rest
            durableContextMap := logs.durableContextMap.erase oldest }
      else logs
    drainHeldLogsForRequestId env requestId { trimmed with
      durableContextOrder := trimmed.durableContextOrder ++ [requestId]
      durableContextMap := trimmed.durableContextMap.insert requestId context }

def drainHeldLogs (logs : HeldLogs) : HeldLogs :=
  (env.iterate.arrange logs.heldLogs.entries).foldl
    (fun drained entry => entry.2.foldl (pushReady env) drained)
    { logs with heldLogs := ∅, heldLogsOrder := [] }

/-- One entry of the loop over the taken map when the function is durable. -/
def resolveEntry (logs : HeldLogs) (entry : Sigma fun _ : String => List IntakeLog) :
    HeldLogs :=
  match logs.durableContextMap.lookup entry.1 with
  | some context => entry.2.foldl (setDurableContextAndMarkReady env context) logs
  | none => { logs with heldLogs := logs.heldLogs.insert entry.1 entry.2 }

/-- The held map is put back without its eviction order: the source clears
`held_logs_order` and the entries that stay are inserted only into the map. -/
def resolveHeldLogsOnDurableFunctionSet (isDurable : Bool) (logs : HeldLogs) : HeldLogs :=
  let held := env.iterate.arrange logs.heldLogs.entries
  let taken := { logs with heldLogs := ∅, heldLogsOrder := [] }
  if isDurable then
    held.foldl (resolveEntry env) taken
  else
    held.foldl (fun drained entry => entry.2.foldl (pushReady env) drained) taken

/-- The two statements of `get_message` that handle `platform.initStart`. -/
def platformInitStart (isDurable : Bool) (logs : HeldLogs) : HeldLogs :=
  resolveHeldLogsOnDurableFunctionSet env isDurable
    { logs with isDurableFunction := some isDurable }

end HeldLogs
end Logs
end Bottlecap
