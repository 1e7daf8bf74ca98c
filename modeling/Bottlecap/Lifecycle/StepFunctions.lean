import Bottlecap.Lifecycle.MessageTriggers

namespace Bottlecap
namespace Lifecycle

open Foundations

/-!
# Step Functions

The Step Functions trigger, whose trace context is not read from a carrier but
computed from the context object (`triggers/step_function_event.rs`).  A Lambda
at the root of the trace has put its own trace id and propagation tags in the
object; otherwise both ids are digests of names in it.
-/

structure Execution where
  id : String
  redriveCount : UInt16

structure StepState where
  name : String
  enteredTime : String
  retryCount : UInt16

structure StateMachine where
  id : String

structure StepFunctionEvent where
  execution : Execution
  state : StepState
  stateMachine : Option StateMachine
  traceId : Option String
  traceTags : Option String
  rootExecutionId : Option String
  serverlessVersion : Option String

namespace StepFunctionEvent

def executionFromValue (value : Value) : Option Execution := do
  let field <- value.structFields ["Id", "RedriveCount"]
  let id <- (field "Id").bind Value.asStr
  let redriveCount <- (field "RedriveCount").bind Value.asU16
  some { id, redriveCount }

def stateFromValue (value : Value) : Option StepState := do
  let field <- value.structFields ["Name", "EnteredTime", "RetryCount"]
  let name <- (field "Name").bind Value.asStr
  let enteredTime <- (field "EnteredTime").bind Value.asStr
  let retryCount <- (field "RetryCount").bind Value.asU16
  some { name, enteredTime, retryCount }

def stateMachineFromValue (value : Value) : Option StateMachine := do
  let field <- value.structFields ["Id"]
  let id <- (field "Id").bind Value.asStr
  some { id }

def fromValue (value : Value) : Option StepFunctionEvent := do
  let field <- value.structFields ["Execution", "State", "StateMachine", "x-datadog-trace-id",
    "x-datadog-tags", "RootExecutionId", "serverless-version"]
  let execution <- (field "Execution").bind executionFromValue
  let state <- (field "State").bind stateFromValue
  let stateMachine <- Value.optional stateMachineFromValue (field "StateMachine")
  let traceId <- Value.optional Value.asStr (field "x-datadog-trace-id")
  let traceTags <- Value.optional Value.asStr (field "x-datadog-tags")
  let rootExecutionId <- Value.optional Value.asStr (field "RootExecutionId")
  let serverlessVersion <- Value.optional Value.asStr (field "serverless-version")
  some { execution, state, stateMachine, traceId, traceTags, rootExecutionId, serverlessVersion }

/-- Where the context object of a payload is: under `Payload` for legacy
Lambdas, and under `_datadog` for JSONata ones. -/
def contextObject (payload : Value) : Value :=
  let outer := (payload.get "Payload").getD payload
  (outer.get datadogCarrierKey).getD outer

def isMatch (payload : Value) : Bool :=
  let context := contextObject payload
  let state := context.get "State"
  ((context.get "Execution").bind (Value.get "Id")).isSome &&
    (state.bind (Value.get "Name")).isSome && (state.bind (Value.get "EnteredTime")).isSome

def new (payload : Value) : Option StepFunctionEvent :=
  fromValue (contextObject payload)

/-- The bits `get_positive_u64` keeps. -/
def positiveMask : UInt64 := ~~~((1 : UInt64) <<< 63)

/-- `(acc << 8) + u64::from(byte)` -/
def appendByte (acc : UInt64) (byte : UInt8) : UInt64 := (acc <<< (8 : UInt64)) + byte.toUInt64

def getPositiveU64 (hashBytes : List UInt8) : UInt64 :=
  let result := (hashBytes.take 8).foldl appendByte 0
  let result := result &&& positiveMask
  if result = 0 then 1 else result

/-- `generate_trace_id`: the lower and the higher bits. -/
def generateTraceId (env : TriggerEnv) (executionArn : String) : UInt64 × UInt64 :=
  let hash := (env.sha256 executionArn).toList
  (getPositiveU64 ((hash.drop 8).take 8), getPositiveU64 (hash.take 8))

def generateParentId (env : TriggerEnv) (executionId stateName stateEnteredTime : String)
    (retryCount redriveCount : UInt16) : UInt64 :=
  let uniqueString := executionId ++ "#" ++ stateName ++ "#" ++ stateEnteredTime
  let uniqueString :=
    if retryCount ≠ 0 ∨ redriveCount ≠ 0 then
      uniqueString ++ "#" ++ toString retryCount.toNat ++ "#" ++ toString redriveCount.toNat
    else uniqueString
  getPositiveU64 ((env.sha256 uniqueString).toList.take 8)

/-- The execution whose ARN is hashed to the trace id. -/
def executionArn (event : StepFunctionEvent) : String :=
  event.rootExecutionId.getD event.execution.id

/-- The format `{hi_tid:x}`. -/
def lowerHex (number : UInt64) : String :=
  String.ofList (Nat.toDigits 16 number.toNat)

/-- The lower half of the trace id and the propagation tags. -/
def traceIdAndTags (env : TriggerEnv) (event : StepFunctionEvent) : UInt64 × Tags :=
  match event.traceId, event.traceTags with
  | some traceId, some traceTags =>
    ((parseU64 traceId).getD (generateTraceId env event.execution.id).1,
      extractPropagationTags traceTags)
  | _, _ =>
    let (low, high) := generateTraceId env event.executionArn
    (low, tagsOf [(higherOrderTraceIdBitsKey, lowerHex high)])

def getSpanContext (env : TriggerEnv) (event : StepFunctionEvent) : SpanContext :=
  { traceId := (event.traceIdAndTags env).1.toBitVec.setWidth 128
    spanId := generateParentId env event.execution.id event.state.name event.state.enteredTime
      event.state.retryCount event.execution.redriveCount
    tags := (event.traceIdAndTags env).2
    samplingPriority := some 1 }

def resolver : ServiceNameResolver where
  specificIdentifier := ""
  genericIdentifier := "lambda_stepfunction"

def trigger (env : TriggerEnv) (event : StepFunctionEvent) : Trigger where
  enrichSpan := fun span => span
  getTags := tagsOf [(functionTriggerEventSourceTag, "states")]
  getArn := (event.stateMachine.map StateMachine.id).getD ""
  getCarrier := ∅
  isAsync := true
  getDsmCheckpoints := []
  getDdResourceKey := none
  hasServiceMappingEntry := resolver.hasServiceMappingEntry env.config.serviceMapping

theorem traceIdAndTags_of_generated (env : TriggerEnv) {event : StepFunctionEvent}
    (generated : event.traceId = none ∨ event.traceTags = none) :
    event.traceIdAndTags env = ((generateTraceId env event.executionArn).1,
      tagsOf [(higherOrderTraceIdBitsKey, lowerHex (generateTraceId env event.executionArn).2)]) := by
  rcases generated with unset | unset
  · rw [traceIdAndTags, unset]
  · rw [traceIdAndTags, unset]
    cases event.traceId <;> rfl

/-! ## The digests as numbers -/

theorem toNat_positiveMask : positiveMask.toNat = 2 ^ 63 - 1 := by
  decide

theorem foldl_appendByte (start : UInt64) (bytes : List UInt8) :
    bytes.foldl appendByte start =
      UInt64.ofNat (bytes.foldl (fun value byte => value * 256 + byte.toNat) start.toNat) := by
  induction bytes generalizing start with
  | nil => rw [List.foldl_nil, List.foldl_nil, UInt64.ofNat_toNat]
  | cons byte rest ih =>
    rw [List.foldl_cons, List.foldl_cons, ih]
    rw [foldl_bytes, foldl_bytes (start.toNat * 256 + byte.toNat)]
    apply UInt64.toNat_inj.mp
    rw [UInt64.toNat_ofNat', UInt64.toNat_ofNat', appendByte, UInt64.toNat_add, UInt64.toNat_shiftLeft,
      Nat.shiftLeft_eq]
    change ((start.toNat * 256 % 2 ^ 64 + byte.toNat) % 2 ^ 64 * 256 ^ rest.length +
      bytesToNat rest) % 2 ^ 64 = _
    rw [Nat.mod_add_mod, Nat.add_mod, Nat.mod_mul_mod, <- Nat.add_mod]

/-- The digest without its highest bit, and one in place of zero. -/
theorem toNat_getPositiveU64 (bytes : List UInt8) (eight : bytes.length = 8) :
    (getPositiveU64 bytes).toNat = max 1 (bytesToNat bytes % 2 ^ 63) := by
  have folded : (bytes.take 8).foldl appendByte 0 = u64FromBeBytes bytes := by
    rw [List.take_of_length_le (Nat.le_of_eq eight), foldl_appendByte]
    rfl
  have masked : (u64FromBeBytes bytes &&& positiveMask).toNat = bytesToNat bytes % 2 ^ 63 := by
    rw [UInt64.toNat_and, toNat_positiveMask, toNat_u64FromBeBytes bytes (Nat.le_of_eq eight),
      Nat.and_two_pow_sub_one_eq_mod]
  rw [getPositiveU64]
  rw [folded]
  by_cases zero : u64FromBeBytes bytes &&& positiveMask = 0
  · have vanishes : bytesToNat bytes % 2 ^ 63 = 0 := by
      rw [<- masked, zero]
      rfl
    rw [if_pos zero, vanishes]
    rfl
  · have positive : bytesToNat bytes % 2 ^ 63 ≠ 0 := by
      intro vanishes
      exact zero (UInt64.toNat_inj.mp (masked.trans vanishes))
    rw [if_neg zero]
    omega

end StepFunctionEvent
end Lifecycle
end Bottlecap
