import Bottlecap.Logs.LogAccounts

namespace Bottlecap
namespace Logs

open Foundations Extension

/-!
# Orphans and the events that release them

In On-Demand mode a log whose message carries no request id takes that of the
active invocation, or waits as an orphan when there is none.  Every event that
queues a log releases the orphans with the request id that is active after it.
An event that carries a request id of its own queues its log whether or not an
invocation is active, so it may release the orphans under the empty id: only
`platform.start` makes its request id the active one.
-/

/-- The message of the event carries a request id. -/
def Names (libraries : LogLibraries) (event : TelemetryEvent) : Prop :=
  Exists fun requestId => carriedId libraries event = some (some requestId)

/-- The event has a message that carries no request id. -/
def Unnamed (libraries : LogLibraries) (event : TelemetryEvent) : Prop :=
  carriedId libraries event = some none

instance (libraries : LogLibraries) (event : TelemetryEvent) :
    Decidable (Unnamed libraries event) :=
  inferInstanceAs (Decidable (_ = _))

variable {libraries : LogLibraries} {event : TelemetryEvent}

theorem Unnamed.not_names (unnamed : Unnamed libraries event) : ¬ Names libraries event := by
  rintro ⟨requestId, named⟩
  rw [unnamed] at named
  cases named

/-- Only an event that carries a request id changes the active one, and only
`platform.start` sets it. -/
theorem activeAfter_cases (libraries : LogLibraries) (active : String) (event : TelemetryEvent) :
    activeAfter active event = active ∨
      (Names libraries event ∧ (activeAfter active event = "" ∨
        Exists fun version =>
          event.record = .platformStart (activeAfter active event) version)) := by
  rcases event with ⟨time, record⟩
  cases record with
  | platformStart requestId version =>
    exact Or.inr ⟨⟨requestId, rfl⟩, Or.inr ⟨version, rfl⟩⟩
  | platformRuntimeDone requestId =>
    exact Or.inr ⟨⟨requestId, rfl⟩, Or.inl rfl⟩
  | platformReport requestId _ _ metrics =>
    cases metrics with
    | onDemand => exact Or.inl rfl
    | managedInstance => exact Or.inr ⟨⟨requestId, rfl⟩, Or.inl rfl⟩
  | _ => exact Or.inl rfl

theorem activeAfter_start {active requestId : String} {version : Option String}
    (started : event.record = .platformStart requestId version) :
    activeAfter active event = requestId := by
  rw [activeAfter, started]

theorem carriedId_start {requestId : String} {version : Option String}
    (started : event.record = .platformStart requestId version) :
    carriedId libraries event = some (some requestId) := by
  rw [carriedId, started]

theorem activeAfter_of_not_names (unnamed : ¬ Names libraries event) (active : String) :
    activeAfter active event = active := by
  rcases activeAfter_cases libraries active event with same | ⟨named, _⟩
  · exact same
  · exact absurd named unnamed

namespace LambdaProcessor

variable (env : ProcessorEnv)

/-- The log of an event has the request id that its message carries, otherwise
the active one. -/
theorem producedLog_spec (event : TelemetryEvent) (processor : LambdaProcessor) :
    match carriedId env.libraries event with
    | none => processor.producedLog env event = none
    | some requestId => Exists fun log => processor.producedLog env event = some log ∧
        log.message.lambda.requestId =
          (processor.getMessage env event).1.logRequestId env requestId := by
  have carried := (getMessage_spec env processor event).2
  simp only [producedLog]
  rcases made : processor.getMessage env event with ⟨after, result⟩
  rw [made] at carried
  simp only [CarriedBy] at carried
  cases known : carriedId env.libraries event with
  | none =>
    cases result with
    | error => rfl
    | ok => rw [known] at carried; exact absurd carried id
  | some =>
    cases result with
    | error => rw [known] at carried; exact absurd carried id
    | ok =>
      rw [known] at carried
      refine ⟨_, rfl, ?_⟩
      rw [intakeLog_requestId]
      exact congrArg _ carried

variable {env} (onDemand : env.isManagedInstanceMode = false)

variable {event : TelemetryEvent} {processor : LambdaProcessor}

include onDemand

theorem queues_iff (log : IntakeLog) :
    Queues env log <-> log.message.lambda.requestId.isSome = true := by
  rw [Queues, onDemand]
  exact or_iff_left Bool.false_ne_true

omit onDemand in
/-- An event without a message queues nothing. -/
theorem queuedLogs_of_silent (silent : carriedId env.libraries event = none)
    (processor : LambdaProcessor) :
    processor.queuedLogs env event = [] ∧
      processor.orphansAfter env event = processor.orphanLogs := by
  have produced := producedLog_spec env event processor
  simp only [silent] at produced
  simp only [queuedLogs, orphansAfter, produced, and_self]

/-- An event that carries a request id queues its log under that id, and the
orphans under the active one. -/
theorem queuedLogs_of_names {requestId : String}
    (named : carriedId env.libraries event = some (some requestId)) (processor : LambdaProcessor) :
    processor.orphansAfter env event = [] ∧
      Exists fun log => log.message.lambda.requestId = some requestId ∧
        processor.queuedLogs env event =
          log :: processor.orphanLogs.map (adopt (activeAfter processor.requestId event)) := by
  have produced := producedLog_spec env event processor
  simp only [named] at produced
  rcases produced with ⟨log, produced, id⟩
  have queues : Queues env log := (queues_iff onDemand log).mpr (by rw [id]; rfl)
  simp only [queuedLogs, orphansAfter, produced, if_pos queues]
  exact ⟨trivial, log, id, rfl⟩

/-- Without an active invocation, a log without a request id becomes an orphan. -/
theorem queuedLogs_of_unnamed (unnamed : Unnamed env.libraries event)
    (idle : processor.requestId = "") :
    processor.queuedLogs env event = [] ∧
      Exists fun log => processor.producedLog env event = some log ∧
        ¬ Queues env log ∧
        processor.orphansAfter env event = processor.orphanLogs ++ [log] := by
  have produced := producedLog_spec env event processor
  rw [show carriedId env.libraries event = some none from unnamed] at produced
  rcases produced with ⟨log, produced, id⟩
  have active : (processor.getMessage env event).1.requestId = "" := by
    rw [(getMessage_spec env processor event).1.requestId, activeAfter_of_not_names unnamed.not_names, idle]
  have waits : ¬ Queues env log := by
    rw [queues_iff onDemand, id, logRequestId, active]
    exact Bool.false_ne_true
  simp only [queuedLogs, orphansAfter, produced, if_neg waits]
  exact ⟨trivial, log, rfl, waits, rfl⟩

/-- During an invocation, a log without a request id is queued under the active
one. -/
theorem queuedLogs_of_active (unnamed : Unnamed env.libraries event)
    (active : processor.requestId ≠ "") :
    processor.orphansAfter env event = [] ∧
      Exists fun log => log.message.lambda.requestId = some processor.requestId ∧
        processor.queuedLogs env event =
          log :: processor.orphanLogs.map (adopt processor.requestId) := by
  have same := activeAfter_of_not_names unnamed.not_names processor.requestId
  have produced := producedLog_spec env event processor
  rw [show carriedId env.libraries event = some none from unnamed] at produced
  rcases produced with ⟨log, produced, id⟩
  have named : log.message.lambda.requestId = some processor.requestId := by
    rw [id, logRequestId, (getMessage_spec env processor event).1.requestId, same, onDemand]
    simp only [active, Bool.false_eq_true, or_self, if_false]
  have queues : Queues env log := (queues_iff onDemand log).mpr (by rw [named]; rfl)
  simp only [queuedLogs, orphansAfter, produced, if_pos queues, same]
  exact ⟨trivial, log, named, rfl⟩

/-- A log that becomes an orphan carries no request id, and no invocation is
active. -/
theorem orphaned_iff {log : IntakeLog} (produced : processor.producedLog env event = some log) :
    ¬ Queues env log <-> Unnamed env.libraries event ∧ processor.requestId = "" := by
  have id := producedLog_spec env event processor
  constructor
  · intro waits
    rw [queues_iff onDemand] at waits
    cases known : carriedId env.libraries event with
    | none =>
      rw [known] at id
      rw [id] at produced
      cases produced
    | some requestId =>
      rw [known] at id
      rcases id with ⟨other, same, id⟩
      rw [same] at produced
      cases produced
      cases requestId with
      | some => exact absurd (by rw [id]; rfl) waits
      | none =>
        refine ⟨known, ?_⟩
        by_contra active
        rcases (queuedLogs_of_active onDemand known active).2 with ⟨queued, named, list⟩
        simp only [queuedLogs, same] at list
        split at list
        next queues => exact waits ((queues_iff onDemand _).mp queues)
        next => cases list
  · rintro ⟨unnamed, idle⟩
    rcases (queuedLogs_of_unnamed onDemand unnamed idle).2 with ⟨other, same, waits, _⟩
    rw [same] at produced
    cases produced
    exact waits

end LambdaProcessor
end Logs
end Bottlecap
