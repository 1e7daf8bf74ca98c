import Bottlecap.Lifecycle.NamedEvents

namespace Bottlecap
namespace Lifecycle

open Foundations Extension

/-!
# The invocation and errors metrics, and concurrent invocations

The metric of the first On-Demand invocation is held back until
`platform.initStart` has been seen, and released by that event or at shutdown.
Counting what is held back as well, every call of `on_invoke_event` counts once.

The errors metric has two sources: the status of the end of a runtime, and an end
event that leaves the span of its invocation marked.  Neither looks at the other.
`errors_at_most_once_iff` says that one of them has to stay silent.

In Managed Instance mode the counter of concurrent invocations is kept apart from the
contexts: a report decrements it without looking for its request.
-/

/-- The commands whose handler calls `on_invoke_event`. -/
def Command.callsOnInvokeEvent (env : Env) : Command -> Bool
  | invokeEvent _ => true
  | platformStart _ _ => env.isManagedInstanceMode
  | _ => false

namespace Gauge

variable (env : Env) (ambient : Ambient)

/-- A metric is held back. -/
def held (gauge : Gauge) : Bool :=
  match gauge.status with
  | .heldBack _ => true
  | _ => false

def counted (gauge : Gauge) : Nat := gauge.invocations + gauge.held.toNat

variable (gauge : Gauge)

theorem counted_countInvocation (isManagedInstanceMode : Bool) (now : Int) :
    (gauge.countInvocation isManagedInstanceMode now).counted = gauge.counted + 1 := by
  rw [countInvocation]
  cases isManagedInstanceMode with
  | true =>
    unfold counted held
    simp only [if_true]
    omega
  | false =>
    cases status : gauge.status with
    | pending => simp only [Bool.false_eq_true, if_false, counted, held, status, Bool.toNat_false,
        Bool.toNat_true, Nat.add_zero]
    | initStartSeen | resolved => simp only [Bool.false_eq_true, if_false, counted, held, status,
        Bool.toNat_false, Nat.add_zero]
    | heldBack => simp only [Bool.false_eq_true, if_false, counted, held, status,
        Bool.toNat_true]

theorem counted_seeInitStart : gauge.seeInitStart.counted = gauge.counted := by
  rw [seeInitStart]
  split
  · rename_i pending
    unfold counted held
    rw [pending]
  · rfl

theorem counted_flushPending : gauge.flushPending.counted = gauge.counted := by
  rw [flushPending]
  cases status : gauge.status with
  | heldBack => simp only [counted, held, status, Bool.toNat_false, Bool.toNat_true,
      Nat.add_zero]
  | _ => rfl

theorem held_flushPending : gauge.flushPending.held = false := by
  rw [flushPending, held]
  cases status : gauge.status with
  | heldBack => rfl
  | _ => simp only [status]

theorem counted_addInfo (info : ReparentingInfo) :
    (gauge.addInfo info).counted = gauge.counted := by
  rw [addInfo]
  split <;> rfl

/-- A command counts one invocation if it calls `on_invoke_event`, and none
otherwise. -/
theorem counted_after (errors : Nat) (command : Command) :
    (gauge.after env ambient errors command).counted =
      gauge.counted + (command.callsOnInvokeEvent env).toNat := by
  cases command with
  | invokeEvent => exact counted_countInvocation _ _ _
  | platformInitStart =>
    exact (counted_flushPending gauge.seeInitStart).trans (counted_seeInitStart gauge)
  | platformStart =>
    simp only [after, Command.callsOnInvokeEvent]
    cases env.isManagedInstanceMode with
    | true =>
      exact counted_countInvocation _ true ambient.unixSeconds
    | false => rfl
  | addReparenting => exact counted_addInfo gauge _
  | updateReparenting infos => exact foldl_project counted refresh (fun _ _ => rfl) infos gauge
  | onShutdownEvent => exact counted_flushPending gauge
  | _ => rfl

end Gauge

namespace Processor

variable (env : Env)

theorem counted_run (processor : Processor) (inputs : List Input) :
    (processor.run env inputs).gauge.counted =
      processor.gauge.counted +
        inputs.countP (fun input => input.command.callsOnInvokeEvent env) := by
  induction inputs generalizing processor with
  | nil => rfl
  | cons input _ ih =>
    have tail := ih (processor.step env input)
    rw [gauge_step, Gauge.counted_after] at tail
    rw [List.countP_cons]
    refine tail.trans ?_
    cases input.command.callsOnInvokeEvent env with
    | false =>
      simp only [Bool.toNat_false, Bool.false_eq_true, if_false]
      omega
    | true =>
      simp only [Bool.toNat_true, if_true]
      omega

/-- In both modes and for every sequence of commands, the increments of the
invocation metric and the one that is held back are as many as the calls of
`on_invoke_event`; a shutdown leaves none held back. -/
theorem invocations_counted_once (inputs : List Input) :
    (Processor.new.run env inputs).gauge.invocations +
        (Processor.new.run env inputs).gauge.held.toNat =
      inputs.countP (fun input => input.command.callsOnInvokeEvent env) ∧
    forall ambient, ((Processor.new.run env inputs).step env
        ⟨ambient, .onShutdownEvent⟩).gauge.invocations =
      inputs.countP (fun input => input.command.callsOnInvokeEvent env) := by
  have counts : (Processor.new.run env inputs).gauge.counted =
      inputs.countP (fun input => input.command.callsOnInvokeEvent env) :=
    (counted_run env Processor.new inputs).trans (Nat.zero_add _)
  refine ⟨counts, ?_⟩
  intro ambient
  have released : ((Processor.new.run env inputs).step env
      ⟨ambient, .onShutdownEvent⟩).gauge =
        (Processor.new.run env inputs).gauge.flushPending := gauge_step env _ _
  rw [released, <- counts, <- Gauge.counted_flushPending]
  rw [Gauge.counted]
  rw [Gauge.held_flushPending]
  rfl

/-! ## Errors -/

/-- The request for which a command may count errors. -/
def errorSubject (processor : Processor) (command : Command) : Option String :=
  match command with
  | .platformRuntimeDone requestId _ _ _ _ => some requestId
  | .platformReport requestId (.managedInstance _) _ _ _ _ => some requestId
  | .universalInstrumentationEnd _ _ =>
    (processor.view.endProcessed env command).map Processed.requestId
  | _ => none

/-- The increments of the errors metric in one step, if they are for the
request. -/
def errorsCounted (requestId : String) (processor : Processor) (input : Input) : Nat :=
  if processor.errorSubject env input.command = some requestId then
    (processor.step env input).gauge.errors - processor.gauge.errors
  else 0

/-- The increments of the errors metric for the request in a whole run. -/
def errorsFor (requestId : String) (inputs : List Input) : Nat :=
  Machine.tally (step env) (errorsCounted env requestId) Processor.new inputs

/-- The step counts the end of the runtime of the request as a failure. -/
def failsFor (requestId : String) (processor : Processor) (input : Input) : Bool :=
  input.command.finishes requestId && processor.countsFailure input.command

/-- The step processes an end event of the request that leaves its span marked. -/
def marksFor (requestId : String) (processor : Processor) (input : Input) : Bool :=
  (processor.view.endProcessed env input.command).any (fun processed =>
    processed.isFor requestId && processor.endMarks env processed.requestId processed.event)

theorem errors_usage_step (processor : Processor) (input : Input) :
    ((processor.step env input).gauge.errors, (processor.step env input).gauge.usage) =
      (processor.gauge.errors + processor.errorsOf env input.command,
        processor.gauge.usage.after env input.command) := by
  rcases input with ⟨ambient, command⟩
  rw [gauge_step]
  cases command with
  | invokeEvent =>
    rw [Gauge.after, Gauge.countInvocation]
    split
    · rfl
    · split <;> rfl
  | platformInitStart =>
    rw [Gauge.after, Gauge.flushPending, Gauge.seeInitStart]
    split <;> split <;> rfl
  | platformStart =>
    rw [Gauge.after]
    split <;> rfl
  | addReparenting =>
    rw [Gauge.after, Gauge.addInfo]
    split <;> rfl
  | updateReparenting infos =>
    exact foldl_project (fun gauge => (gauge.errors, gauge.usage)) Gauge.refresh
      (fun _ _ => rfl) infos processor.gauge
  | onShutdownEvent =>
    rw [Gauge.after, Gauge.flushPending]
    split <;> rfl
  | _ => rfl

variable (requestId : String)

/-- The end of a runtime counts for its own request. -/
theorem failsFor_eq (processor : Processor) (input : Input) :
    processor.failsFor requestId input =
      (decide (processor.errorSubject env input.command = some requestId) &&
        processor.countsFailure input.command) := by
  rcases input with ⟨ambient, command⟩
  rw [Bool.eq_iff_iff]
  cases command with
  | platformRuntimeDone =>
    simp only [failsFor, Command.finishes, errorSubject, Bool.and_eq_true, beq_iff_eq,
      decide_eq_true_eq, Option.some.injEq]
  | platformReport _ metrics =>
    cases metrics with
    | managedInstance =>
      simp only [failsFor, Command.finishes, errorSubject, Bool.and_eq_true, beq_iff_eq,
        decide_eq_true_eq, Option.some.injEq]
    | onDemand => rfl
  | _ => simp only [failsFor, countsFailure, Bool.and_false]

theorem errorSubject_of_endProcessed {processor : Processor} {command : Command}
    {processed : Processed} (paired : processor.view.endProcessed env command = some processed) :
    processor.errorSubject env command = some processed.requestId := by
  have opened : forall (id : String) (found : Bool) (met : Option UniversalInstrumentationData),
      met.map (fun event => (⟨id, event, found⟩ : Processed)) = some processed ->
        some id = some processed.requestId := by
    intro id found met mapped
    rcases Option.map_eq_some_iff.mp mapped with ⟨event, _, rfl⟩
    rfl
  cases command with
  | platformRuntimeDone id => exact opened id _ _ paired
  | platformReport id metrics =>
    cases metrics with
    | managedInstance =>
      unfold Tracker.endProcessed at paired
      simp only at paired
      split at paired
      · exact opened id _ _ paired
      · cases paired
    | onDemand => cases paired
  | universalInstrumentationEnd =>
    unfold errorSubject
    rw [paired]
    rfl
  | _ => cases paired

theorem marksFor_eq (processor : Processor) (input : Input) :
    processor.marksFor env requestId input =
      (decide (processor.errorSubject env input.command = some requestId) &&
        processor.countsMark env input.command) := by
  rw [marksFor, countsMark]
  cases paired : processor.view.endProcessed env input.command with
  | none => simp only [Option.any_none, Bool.and_false]
  | some =>
    rw [errorSubject_of_endProcessed env paired]
    simp only [Option.some.injEq]
    rfl

/-- A step counts one error for a failure and one for a marked span. -/
theorem errorsCounted_eq (processor : Processor) (input : Input) :
    processor.errorsCounted env requestId input =
      (processor.failsFor requestId input).toNat + (processor.marksFor env requestId input).toNat := by
  have grown : (processor.step env input).gauge.errors - processor.gauge.errors =
      processor.errorsOf env input.command := by
    have counted := congrArg Prod.fst (errors_usage_step env processor input)
    simp only at counted
    omega
  rw [errorsCounted]
  rw [failsFor_eq env, marksFor_eq, grown]
  split
  · rename_i subject
    simp only [subject]
    rfl
  · rename_i another
    simp only [another, decide_false, Bool.false_and, Bool.toNat_false]

theorem errorsFor_eq (inputs : List Input) :
    errorsFor env requestId inputs =
      Machine.tally (step env) (fun processor input => (processor.failsFor requestId input).toNat)
          Processor.new inputs +
        Machine.tally (step env)
          (fun processor input => (processor.marksFor env requestId input).toNat)
          Processor.new inputs := by
  rw [errorsFor]
  rw [<- Machine.tally_add]
  congr 1
  funext processor input
  exact errorsCounted_eq env requestId processor input

/-- Only the end of the runtime of the request counts a failure for it. -/
theorem failures_le (inputs : List Input) :
    Machine.tally (step env) (fun processor input => (processor.failsFor requestId input).toNat)
        Processor.new inputs <=
      inputs.countP (fun input => input.command.finishes requestId) := by
  apply Machine.tally_le_countP
  intro processor input
  rw [failsFor]
  cases input.command.finishes requestId with
  | false => exact Nat.le_refl 0
  | true => exact Bool.toNat_le _

/-- Only an end event processed for the request counts a mark for it. -/
theorem marks_le (inputs : List Input) :
    Machine.tally (step env) (fun processor input => (processor.marksFor env requestId input).toNat)
        Processor.new inputs <=
      ((Processor.new.run env inputs).ended.filter (Processed.isFor requestId)).length := by
  have bound : forall (processor : Processor) (input : Input),
      (processor.marksFor env requestId input).toNat +
          (processor.ended.filter (Processed.isFor requestId)).length <=
        ((processor.step env input).ended.filter (Processed.isFor requestId)).length := by
    intro processor input
    rw [ended_step, List.filter_append, List.length_append, Nat.add_comm]
    apply Nat.add_le_add_left
    rw [marksFor]
    cases processor.view.endProcessed env input.command with
    | none => exact Nat.le_refl 0
    | some processed =>
      rw [Option.any_some, Option.toList_some, List.filter_singleton]
      cases processed.isFor requestId with
      | false => exact Nat.le_refl 0
      | true => exact Bool.toNat_le _
  exact Machine.tally_le_growth bound Processor.new inputs

/-- For a request whose runtime ends once and that has one end event at most, the
errors metric is incremented at most once exactly if the end of the runtime is not
counted as a failure, or no end event leaves the span of the invocation marked. -/
theorem errors_at_most_once_iff (requestId : String) (inputs : List Input)
    (once : inputs.countP (fun input => input.command.finishes requestId) <= 1)
    (single : ((Processor.new.run env inputs).ended.filter
      (Processed.isFor requestId)).length <= 1) :
    errorsFor env requestId inputs <= 1 <->
      Machine.Along (step env)
          (fun processor input => processor.failsFor requestId input = false) Processor.new inputs ∨
        Machine.Along (step env)
          (fun processor input => processor.marksFor env requestId input = false)
          Processor.new inputs := by
  have failures := failures_le env requestId inputs
  have marks := marks_le env requestId inputs
  have silent : forall counts : Processor -> Input -> Bool,
      Machine.tally (step env) (fun processor input => (counts processor input).toNat)
          Processor.new inputs = 0 <->
        Machine.Along (step env) (fun processor input => counts processor input = false)
          Processor.new inputs := by
    intro counts
    rw [Machine.tally_eq_zero_iff]
    simp only [Bool.toNat_eq_zero]
  rw [errorsFor_eq, <- silent, <- silent]
  omega

/-- A tracer that reports an error by its header alone. -/
def failedEnd (requestId : String) : Command :=
  .universalInstrumentationEnd ⟨[⟨"x-datadog-invocation-error", "true"⟩].toAList, .null⟩
    (some requestId)

theorem errors_at_most_once_iff_header_only :
    errorsFor (Env.plain false) "r1" [(Command.invokeEvent "r1").still,
      (Command.runtimeDoneOf "r1" .success).still, (failedEnd "r1").still] <= 1 :=
  (errors_at_most_once_iff (Env.plain false) "r1" _ (by decide) (by decide)).mpr
    (Or.inl ⟨rfl, rfl, rfl, trivial⟩)

/-- The status of the runtime and the headers of the end event both say that the
invocation failed, and each counts. -/
theorem failure_counted_twice :
    ¬ forall (env : Env) (requestId : String) (inputs : List Input),
      inputs.countP (fun input => input.command.finishes requestId) = 1 ->
      ((Processor.new.run env inputs).ended.filter (Processed.isFor requestId)).length <= 1 ->
      errorsFor env requestId inputs <= 1 := by
  intro always
  have counted := always (Env.plain false) "r1" [(Command.invokeEvent "r1").still,
    (Command.runtimeDoneOf "r1" .error).still, (failedEnd "r1").still] (by decide) (by decide)
  exact absurd counted (by decide)

end Processor

/-! ## Concurrent invocations -/

/-- The request of a Managed Instance report. -/
def Command.settles : Command -> Option String
  | platformReport id (.managedInstance _) _ _ _ _ => some id
  | _ => none

/-- The requests that are started and not yet reported, after one more command. -/
def Command.outstanding (requests : List String) : Command -> List String
  | invokeEvent id => id :: requests
  | platformStart id _ => id :: requests
  | platformReport id (.managedInstance _) _ _ _ _ => requests.erase id
  | _ => requests

/-- A report keeps the counter right exactly if its request is outstanding, or none
is. -/
theorem Usage.counts_after_iff {env : Env} (managed : env.isManagedInstanceMode = true)
    (metered : env.lambdaProcEnhancedMetrics = true) {usage : Usage} {requests : List String}
    (counts : usage.activeInvocations = requests.length) (command : Command) :
    (usage.after env command).activeInvocations = (command.outstanding requests).length ∧
      (command.settles.isSome = true -> (usage.pauses < (usage.after env command).pauses <->
        command.outstanding requests = [])) <->
      forall id, command.settles = some id -> id ∈ requests ∨ requests = [] := by
  cases command with
  | invokeEvent | platformStart =>
    simp [after, invoke, managed, metered, counts, Command.outstanding, Command.settles]
  | platformReport id metrics =>
    cases metrics with
    | onDemand => simp [after, report, counts, Command.outstanding, Command.settles]
    | managedInstance =>
      simp only [after, report, Command.outstanding, Command.settles, Option.some.injEq,
        forall_eq', Option.isSome_some, true_implies, <- List.length_eq_zero_iff, counts]
      by_cases member : id ∈ requests
      · rw [List.length_erase_of_mem member]
        simp only [member, true_or, iff_true, true_and]
        split <;> simp [*]
      · rw [List.erase_of_not_mem member]
        simp only [member, false_or]
        constructor
        · rintro ⟨same, _⟩
          omega
        · intro none
          simp [none]
  | _ => simp [after, counts, Command.outstanding, Command.settles]

namespace Processor

/-- The processor next to the outstanding requests. -/
def follow (env : Env) (state : Processor × List String) (input : Input) :
    Processor × List String :=
  (state.1.step env input, input.command.outstanding state.2)

/-- The counter is the number of outstanding requests in every state, and a report
pauses the usage monitoring exactly if none is outstanding. -/
def CountsOutstanding (env : Env) (inputs : List Input) : Prop :=
  Machine.Always (follow env) (fun state => state.1.activeInvocations = state.2.length)
      (Processor.new, []) inputs ∧
    Machine.Along (follow env) (fun state input => input.command.settles.isSome = true ->
      (state.1.gauge.usage.pauses < (follow env state input).1.gauge.usage.pauses <->
        (follow env state input).2 = [])) (Processor.new, []) inputs

/-- A Managed Instance with process metrics. -/
def managedEnv : Env := { Env.plain true with lambdaProcEnhancedMetrics := true }

def platformStartOf (requestId : String) : Input := (Command.platformStart requestId 0).still

def settleOf (requestId : String) : Input := (Command.managedReportOf requestId).still

end Processor
end Lifecycle
end Bottlecap
