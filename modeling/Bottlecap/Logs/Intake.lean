import Bottlecap.Logs.LambdaProcessor

namespace Bottlecap
namespace Logs

open Foundations Extension

/-!
# What an event brings to the queue

`get_message` and `get_intake_log` decide three things about an event: the
request id that its message carries, the request id that is active after it, and
whether its log is queued or joins the orphans.  The first two depend on the
event alone (`carriedId`, `activeAfter`).  The lemmas below say this once for all
records; nothing later looks into `get_message` again.
-/

/-- The request id that the message of an event carries, `none` if the event has
no message. -/
def carriedId (libraries : LogLibraries) (event : TelemetryEvent) : Option (Option String) :=
  match event.record with
  | .function record =>
    match readFunctionRecord libraries record with
    | (requestId, some _, _) => some requestId
    | (_, none, _) => none
  | .extension record =>
    if isHttpLibraryRecord record then none
    else (readExtensionRecord libraries record).map (fun _ => none)
  | .platformInitStart _ _ _ _ => some none
  | .platformStart requestId _ => some (some requestId)
  | .platformRuntimeDone requestId _ _ _ => some (some requestId)
  | .platformReport requestId _ _ _ _ => some (some requestId)
  | _ => none

/-- The request id that is active after an event. -/
def activeAfter (active : String) (event : TelemetryEvent) : String :=
  match event.record with
  | .platformStart requestId _ => requestId
  | .platformRuntimeDone _ _ _ _ => ""
  | .platformReport _ _ _ (.managedInstance _) _ => ""
  | _ => active

/-- The duration that an event leaves in the processor, if it writes one. -/
def measured (event : TelemetryEvent) : Option Rat :=
  match event.record with
  | .platformRuntimeDone _ _ _ metrics => metrics.map RuntimeDoneMetrics.durationMs
  | .platformReport _ _ _ (.managedInstance metrics) _ =>
    some metrics.durationMs
  | _ => none

namespace LambdaProcessor

variable (env : ProcessorEnv)

variable (processor : LambdaProcessor)

theorem sendOom_eq (text : String) (requestId : Option String) (time : DateTime) :
    Exists fun eventBus =>
      processor.sendOom text requestId time = { processor with eventBus := eventBus } := by
  rw [sendOom]
  split
  · exact ⟨_, rfl⟩
  · exact ⟨_, rfl⟩

/-- The message of an event, if it has one, carries the request id of the event. -/
def CarriedBy (event : TelemetryEvent) (result : Except String Message) : Prop :=
  match carriedId env.libraries event, result with
  | some requestId, Except.ok message => message.lambda.requestId = requestId
  | none, Except.error _ => True
  | _, _ => False

theorem setExecution_requestId (execution : Option (String × String)) (message : Message) :
    (message.setExecution execution).lambda.requestId = message.lambda.requestId := by
  cases execution with
  | none => rfl
  | some => rfl

/-- What `get_message` does to a processor, the event bus apart.  Only `platform.initStart`
touches the buffers before its log is queued. -/
structure Gets (event : TelemetryEvent) (processor after : LambdaProcessor) : Prop where
  requestId : after.requestId = activeAfter processor.requestId event
  runtimeDurationMs : after.runtimeDurationMs = (measured event).getD processor.runtimeDurationMs
  orphanLogs : after.orphanLogs = processor.orphanLogs
  buffers : after.buffers = processor.buffers ∨ Exists fun isDurable =>
    after.buffers = processor.buffers.platformInitStart env.toLogsEnv isDurable

theorem getMessage_spec (event : TelemetryEvent) :
    Gets env event processor (processor.getMessage env event).1 ∧
      CarriedBy env event (processor.getMessage env event).2 := by
  have plain : forall (time : DateTime) (text : String) (requestId : Option String)
      (record : TelemetryRecord), activeAfter processor.requestId ⟨time, record⟩ =
        processor.requestId -> measured ⟨time, record⟩ = none ->
      Gets env ⟨time, record⟩ processor (processor.sendOom text requestId time) := by
    intro time text requestId record active unmeasured
    rcases sendOom_eq processor text requestId time with ⟨eventBus, sends⟩
    rw [sends]
    exact ⟨active.symm, unmeasured ▸ rfl, rfl, Or.inl rfl⟩
  rcases event with ⟨time, record⟩
  cases record with
  | function record =>
    simp only [getMessage, CarriedBy, carriedId]
    rcases readFunctionRecord env.libraries record with ⟨requestId, text, execution⟩
    cases text with
    | none => exact ⟨⟨rfl, rfl, rfl, Or.inl rfl⟩, trivial⟩
    | some text =>
      exact ⟨plain time text _ _ rfl rfl, setExecution_requestId execution _⟩
  | extension record =>
    simp only [getMessage, CarriedBy, carriedId]
    split
    · exact ⟨⟨rfl, rfl, rfl, Or.inl rfl⟩, trivial⟩
    · cases readExtensionRecord env.libraries record with
      | none => exact ⟨⟨rfl, rfl, rfl, Or.inl rfl⟩, trivial⟩
      | some text => exact ⟨plain time text _ _ rfl rfl, rfl⟩
  | platformReport _ _ _ metrics =>
    cases metrics with
    | onDemand | managedInstance => exact ⟨⟨rfl, rfl, rfl, Or.inl rfl⟩, rfl⟩
  | platformInitStart => exact ⟨⟨rfl, rfl, rfl, Or.inr ⟨_, rfl⟩⟩, rfl⟩
  | platformStart | platformRuntimeDone => exact ⟨⟨rfl, rfl, rfl, Or.inl rfl⟩, rfl⟩
  | _ => exact ⟨⟨rfl, rfl, rfl, Or.inl rfl⟩, trivial⟩

/-! ## The log of an event -/

/-- The log that `get_intake_log` produces for an event. -/
def producedLog (event : TelemetryEvent) (processor : LambdaProcessor) : Option IntakeLog :=
  match processor.getMessage env event with
  | (after, Except.ok message) => some (after.intakeLog env message)
  | (_, Except.error _) => none

/-- A log is queued at once if its request id is known or several invocations
can be active. -/
def Queues (log : IntakeLog) : Prop :=
  log.message.lambda.requestId.isSome = true ∨ env.isManagedInstanceMode = true

instance (log : IntakeLog) : Decidable (Queues env log) := instDecidableOr

theorem intakeLog_requestId (message : Message) :
    (processor.intakeLog env message).message.lambda.requestId =
      processor.logRequestId env message.lambda.requestId := by
  simp only [intakeLog]
  split <;> rfl

/-- The three outcomes of `make_log`: no log, a log to queue, an orphan. -/
theorem makeLog_cases (event : TelemetryEvent) :
    (Exists fun error => processor.producedLog env event = none ∧
        processor.makeLog env event = ((processor.getMessage env event).1, Except.error error)) ∨
      (Exists fun log => processor.producedLog env event = some log ∧
        Queues env log ∧
        processor.makeLog env event = ((processor.getMessage env event).1, Except.ok log)) ∨
      (Exists fun log => Exists fun error =>
        processor.producedLog env event = some log ∧ ¬ Queues env log ∧
        processor.makeLog env event =
          ({ (processor.getMessage env event).1 with
              orphanLogs := processor.orphanLogs ++ [log] }, Except.error error)) := by
  have orphans := (getMessage_spec env processor event).1.orphanLogs
  simp only [producedLog, makeLog]
  rcases made : processor.getMessage env event with ⟨after, result⟩
  rw [made] at orphans
  cases result with
  | error error => exact Or.inl ⟨error, rfl, rfl⟩
  | ok message =>
    right
    by_cases queues : Queues env (after.intakeLog env message)
    · refine Or.inl ⟨_, rfl, queues, ?_⟩
      have test := Bool.or_eq_true_iff.mpr queues
      simp only [getIntakeLog, test, if_true]
    · refine Or.inr ⟨_, "No request_id available, queueing for later", rfl, queues, ?_⟩
      have test := Bool.eq_false_iff.mpr (fun passes => queues (Bool.or_eq_true_iff.mp passes))
      simp only [getIntakeLog, test, Bool.false_eq_true, if_false]
      rw [orphans]

/-! ## Queueing

Queueing changes the buffers alone.  So the effect of an event splits into what
it queues, which is decided before, and what the buffers do with it. -/

/-- The buffers after a log was passed to `process_and_queue_log`. -/
def queueKept (fuel : Nat) (buffers : HeldLogs) (log : IntakeLog) : Option HeldLogs :=
  match keep env log with
  | some kept => buffers.queueLogAfterRules env.toLogsEnv fuel kept
  | none => some buffers

def withBuffers (processor : LambdaProcessor) (buffers : HeldLogs) : LambdaProcessor :=
  { processor with buffers := buffers }

theorem processAndQueueLog_eq (fuel : Nat) (log : IntakeLog) :
    processor.processAndQueueLog env fuel log =
      (queueKept env fuel processor.buffers log).map processor.withBuffers := by
  rw [processAndQueueLog, queueKept]
  cases keep env log with
  | none => rfl
  | some => rfl

theorem foldlM_orphans_eq (fuel : Nat) (orphans : List IntakeLog) :
    orphans.foldlM (fun (current : LambdaProcessor) orphan =>
        current.processAndQueueLog env fuel (adopt current.requestId orphan)) processor =
      ((orphans.map (adopt processor.requestId)).foldlM (queueKept env fuel)
        processor.buffers).map processor.withBuffers := by
  induction orphans generalizing processor with
  | nil => rfl
  | cons orphan _ ih =>
    rw [List.foldlM_cons, List.map_cons, List.foldlM_cons, processAndQueueLog_eq]
    cases queueKept env fuel processor.buffers (adopt processor.requestId orphan) with
    | none => rfl
    | some buffers => exact ih (processor.withBuffers buffers)

/-- The logs that an event passes to `process_and_queue_log`, in this order. -/
def queuedLogs (event : TelemetryEvent) (processor : LambdaProcessor) : List IntakeLog :=
  match processor.producedLog env event with
  | some log =>
    if Queues env log then
      log :: processor.orphanLogs.map (adopt (activeAfter processor.requestId event))
    else []
  | none => []

/-- The orphans that an event leaves. -/
def orphansAfter (event : TelemetryEvent) (processor : LambdaProcessor) : List IntakeLog :=
  match processor.producedLog env event with
  | some log => if Queues env log then [] else processor.orphanLogs ++ [log]
  | none => processor.orphanLogs

/-- An event, apart from what the buffers do with the logs it queues. -/
theorem queueEvent_eq (fuel : Nat) (event : TelemetryEvent) :
    processor.queueEvent env fuel event =
      ((processor.queuedLogs env event).foldlM (queueKept env fuel)
        (processor.getMessage env event).1.buffers).map
        ({ (processor.getMessage env event).1 with
          orphanLogs := processor.orphansAfter env event } : LambdaProcessor).withBuffers := by
  have spec := (getMessage_spec env processor event).1
  rcases makeLog_cases env processor event with
    ⟨error, produced, made⟩ | ⟨log, produced, queues, made⟩ | ⟨log, error, produced, waits, made⟩
  · simp only [queueEvent, made, queuedLogs, orphansAfter, produced, <- spec.orphanLogs]
    rfl
  · simp only [queueEvent, made, queuedLogs, orphansAfter, produced, if_pos queues,
      List.foldlM_cons, processAndQueueLog_eq]
    cases queueKept env fuel (processor.getMessage env event).1.buffers log with
    | none => rfl
    | some =>
      rw [<- spec.requestId, <- spec.orphanLogs]
      exact foldlM_orphans_eq env _ fuel _
  · simp only [queueEvent, made, queuedLogs, orphansAfter, produced, if_neg waits]
    rfl

end LambdaProcessor
end Logs
end Bottlecap
