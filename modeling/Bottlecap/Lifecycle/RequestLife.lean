import Bottlecap.Lifecycle.Simulation

namespace Bottlecap
namespace Lifecycle

open Foundations Extension

/-!
# The life of one request

Seen from a single request, most commands do nothing.  What is left is a short
list of events: its start or end event is processed, the end of its runtime is
recorded, an entry of `update_reparenting` fills in ids, or its context leaves
the buffer.  `Tracker.lifeEvents` reads these events off a command and the state
before it, and `life_handle` says that they determine the contexts of the request
and the number of times its spans were handed over.

A command that creates a context for the request begins such a life and is not
part of it.
-/

/-- `done` carries the end event that waited for the end of the runtime. -/
inductive LifeEvent where
  | start (event : UniversalInstrumentationData)
  | finish (event : UniversalInstrumentationData)
  | done (ambient : Ambient) (status : Status) (ended : Option UniversalInstrumentationData)
  | reparent (info : ReparentingInfo)
  | gone

/-- The contexts of a request, oldest first, and how often its spans were handed
over. -/
structure Life where
  entries : List Entry
  handedOver : Nat

/-- The end of the runtime, after the end event that was waiting for it. -/
def Entry.settled (ambient : Ambient) (status : Status)
    (ended : Option UniversalInstrumentationData) (entry : Entry) : Entry :=
  match ended with
  | some event => (entry.onEnd event.headers).onDone ambient status
  | none => entry.onDone ambient status

namespace Entry

theorem complete_iff (entry : Entry) :
    entry.complete = true <-> entry.traceId ≠ 0 ∧ entry.spanId ≠ 0 := by
  unfold complete
  rw [Bool.and_eq_true, bne_iff_ne, bne_iff_ne]

theorem requestId_onStart (env : Env) (event : UniversalInstrumentationData) (entry : Entry) :
    (entry.onStart env event).requestId = entry.requestId := by
  unfold onStart
  split <;> rfl

theorem requestId_onEnd (headers : Tags) (entry : Entry) :
    (entry.onEnd headers).requestId = entry.requestId := rfl

theorem requestId_onDone (ambient : Ambient) (status : Status) (entry : Entry) :
    (entry.onDone ambient status).requestId = entry.requestId := rfl

theorem requestId_reparent (info : ReparentingInfo) (entry : Entry) :
    (entry.reparent info).requestId = entry.requestId := rfl

end Entry

namespace Life

variable (env : Env) (tracerDetected : Bool)

def step (life : Life) : LifeEvent -> Life
  | .start event =>
    { life with entries := life.entries.modifyHead (Entry.onStart env event) }
  | .finish event =>
    { life with entries := life.entries.modifyHead (Entry.onEnd event.headers) }
  | .done ambient status ended =>
    match life.entries with
    | [] => life
    | entry :: rest =>
      let settled := entry.settled ambient status ended
      { entries := settled :: rest
        handedOver := if tracerDetected = true ∧ settled.complete = true then life.handedOver + 1
          else life.handedOver }
  | .reparent info =>
    match life.entries with
    | [] => life
    | entry :: rest =>
      { entries := entry.reparent info :: rest
        handedOver := if entry.complete = false ∧ (entry.reparent info).complete = true ∧
            entry.runtimeDone = true then life.handedOver + 1
          else life.handedOver }
  | .gone => { life with entries := life.entries.tail }

/-- A life without a context is over. -/
theorem step_of_empty {life : Life} (empty : life.entries = []) (event : LifeEvent) :
    life.step env tracerDetected event = life := by
  rcases life with ⟨entries, handedOver⟩
  subst empty
  cases event <;> rfl

theorem foldl_of_empty {life : Life} (empty : life.entries = []) (events : List LifeEvent) :
    events.foldl (step env tracerDetected) life = life := by
  induction events with
  | nil => rfl
  | cons _ _ ih => rw [List.foldl_cons, step_of_empty env tracerDetected empty, ih]

/-- An end event just before the end of the runtime is part of it. -/
theorem step_finish_done (life : Life) (event : UniversalInstrumentationData) (ambient : Ambient)
    (status : Status) :
    (life.step env tracerDetected (.finish event)).step env tracerDetected
        (.done ambient status none) =
      life.step env tracerDetected (.done ambient status (some event)) := by
  rcases life with ⟨entries, handedOver⟩
  cases entries <;> rfl

theorem empty_or_single {life : Life} (single : life.entries.length <= 1) :
    life.entries = [] ∨ Exists fun entry => life = ⟨[entry], life.handedOver⟩ := by
  rcases life with ⟨entries, handedOver⟩
  cases entries with
  | nil => exact Or.inl rfl
  | cons entry rest =>
    have alone : rest = [] :=
      List.length_eq_zero_iff.mp (Nat.le_zero.mp (Nat.le_of_succ_le_succ single))
    subst alone
    exact Or.inr ⟨entry, rfl⟩

end Life

def Milestone.isHandedOver (requestId : String) : Milestone -> Bool
  | handedOver _ id => id == requestId
  | _ => false

/-- The command creates a context for the request. -/
def Command.Begins (env : Env) (requestId : String) : Command -> Prop
  | invokeEvent id => id = requestId
  | platformStart id _ => env.isManagedInstanceMode = true ∧ id = requestId
  | platformInitStart _ _ => env.isManagedInstanceMode = true ∧ requestId = ""
  | _ => False

/-- The command reports the end of the runtime of the request. -/
def Command.finishes (requestId : String) : Command -> Bool
  | platformRuntimeDone id _ _ _ _ => id == requestId
  | platformReport id (.managedInstance _) _ _ _ _ => id == requestId
  | _ => false

namespace Tracker

variable (env : Env) (ambient : Ambient) (requestId : String) (tracker : Tracker)

def life : Life where
  entries := tracker.entries.filter (Entry.named requestId)
  handedOver := tracker.log.countP (Milestone.isHandedOver requestId)

/-- A context inserted into a full buffer takes the place of the oldest one. -/
def evictEvents : List LifeEvent :=
  if tracker.entries.length = tracker.capacity ∧
      (tracker.entries.head?.any (Entry.named requestId)) = true then [.gone]
  else []

/-- An invocation of another request inserts a context, or renames the one of the
init phase. -/
def enterEvents : List LifeEvent :=
  if env.isManagedInstanceMode = true ∧ tracker.awaitingFirstInvocation = true ∧
      (tracker.find "").isSome = true then
    if requestId = "" then [.gone] else []
  else tracker.evictEvents requestId

def doneEvents (status : Status) : List LifeEvent :=
  [.done ambient status (tracker.ends.opens (!env.isManagedInstanceMode) requestId).1]

/-- What a command that does not begin the life of the request means for it. -/
def lifeEvents (command : Command) : List LifeEvent :=
  match command with
  | .invokeEvent _ => tracker.enterEvents env requestId
  | .platformInitStart _ _ =>
    if env.isManagedInstanceMode then tracker.evictEvents requestId else []
  | .platformStart _ _ =>
    if env.isManagedInstanceMode then tracker.enterEvents env requestId else []
  | .platformRuntimeDone id _ status _ _ =>
    if id = requestId then tracker.doneEvents env ambient requestId status else []
  | .platformReport id metrics _ status _ _ =>
    if id = requestId then
      match metrics with
      | .managedInstance _ =>
        tracker.doneEvents env ambient requestId status ++ [.gone]
      | .onDemand _ => [.gone]
    else []
  | .universalInstrumentationStart event _ =>
    if tracker.paired env command = some requestId then [.start event] else []
  | .universalInstrumentationEnd event _ =>
    if tracker.paired env command = some requestId then [.finish event] else []
  | .updateReparenting infos =>
    (infos.filter (fun info => info.requestId == requestId)).map .reparent
  | _ => []

/-! ## What the operations of the tracker mean for a request -/

variable {requestId}

theorem named_disjoint {id : String} (other : id ≠ requestId) (entry : Entry)
    (matched : entry.named id = true) : entry.named requestId = false := by
  have same : entry.requestId = id := beq_iff_eq.mp matched
  exact beq_eq_false_iff_ne.mpr (same ▸ other)

theorem find_eq_head (requestId : String) (tracker : Tracker) :
    tracker.find requestId = (tracker.life requestId).entries.head? :=
  List.head?_filter.symm

theorem life_entries_of_find_none {tracker : Tracker} (missing : tracker.find requestId = none) :
    (tracker.life requestId).entries = [] := by
  rw [find_eq_head] at missing
  exact List.head?_eq_none_iff.mp missing

/-- An update of the contexts of a request, with what the log notes of it. -/
theorem life_update {change : Entry -> Entry}
    (keeps : forall entry, (change entry).requestId = entry.requestId) (id : String)
    (milestones : List Milestone) :
    ({ tracker.update id change with log := tracker.log ++ milestones } : Tracker).life requestId =
      { entries := if id = requestId then (tracker.life requestId).entries.modifyHead change
          else (tracker.life requestId).entries
        handedOver := (tracker.life requestId).handedOver +
          milestones.countP (Milestone.isHandedOver requestId) } := by
  have named : forall entry, entry.named id = true -> (change entry).named id = true := by
    intro entry matched
    unfold Entry.named at matched ⊢
    rw [keeps, matched]
  unfold update life
  simp only [List.countP_append, Life.mk.injEq, and_true]
  by_cases own : id = requestId
  · subst own
    rw [if_pos rfl]
    exact filter_modifyFirst_self named tracker.entries
  · rw [if_neg own]
    apply filter_modifyFirst_of_disjoint
    · exact named_disjoint own
    · intro entry matched
      exact named_disjoint own (change entry) (named entry matched)

/-- Spans that are handed over count for their own request. -/
theorem countP_handOver (path : SendPath) (id : String) (ready : Entry -> Bool) (count : Nat) :
    count + (tracker.handOver path id ready).countP (Milestone.isHandedOver requestId) =
      if id = requestId ∧ (tracker.life requestId).entries.head?.any ready = true then count + 1
      else count := by
  have noted : (milestonesOf path id).countP (Milestone.isHandedOver requestId) =
      if id = requestId then 1 else 0 := by
    cases path <;> simp [milestonesOf, List.countP_cons, Milestone.isHandedOver]
  unfold handOver
  rw [find_eq_head]
  by_cases own : id = requestId
  · subst own
    rw [if_pos rfl] at noted
    simp only [true_and]
    split
    · rw [noted]
    · rfl
  · rw [if_neg own] at noted
    rw [if_neg (fun both : id = requestId ∧ _ => own both.1)]
    split
    · rw [noted, Nat.add_zero]
    · rfl

variable (id : String) (tracerDetected : Bool)

variable (event : UniversalInstrumentationData)

theorem life_processStart :
    (tracker.processStart env id event).life requestId =
      (if id = requestId then [.start event] else []).foldl (Life.step env tracerDetected)
        (tracker.life requestId) := by
  rw [processStart_eq]
  refine (life_update tracker (Entry.requestId_onStart env event) id _).trans ?_
  split <;> rfl

theorem life_processEnd :
    (tracker.processEnd id event).life requestId =
      (if id = requestId then [.finish event] else []).foldl
        (Life.step env tracerDetected) (tracker.life requestId) := by
  rw [processEnd_eq, life_update tracker (Entry.requestId_onEnd event.headers)]
  split <;> rfl

theorem life_settle (status : Status) :
    (tracker.settle ambient id status).life requestId =
      (if id = requestId then [.done ambient status none] else []).foldl
        (Life.step env tracker.tracerDetected) (tracker.life requestId) := by
  rw [settle_eq, life_update tracker (Entry.requestId_onDone ambient status), countP_handOver]
  by_cases own : id = requestId
  · simp only [own, true_and]
    rcases tracker.life requestId with ⟨entries, handedOver⟩
    cases entries with
    | nil => rfl
    | cons =>
      simp only [List.head?_cons, Option.any_some, Bool.and_eq_true]
      rfl
  · simp only [own, false_and, if_false]
    rfl

theorem life_reparent (info : ReparentingInfo) :
    (tracker.reparent info).life requestId =
      (if info.requestId = requestId then [.reparent info] else []).foldl
        (Life.step env tracerDetected) (tracker.life requestId) := by
  rw [reparent_eq, life_update tracker (Entry.requestId_reparent info), countP_handOver]
  by_cases own : info.requestId = requestId
  · simp only [own, true_and]
    rcases tracker.life requestId with ⟨entries, handedOver⟩
    cases entries with
    | nil => rfl
    | cons =>
      simp only [List.head?_cons, Option.any_some, Bool.and_eq_true, Bool.not_eq_true']
      rfl
  · simp only [own, false_and, if_false]
    rfl

theorem life_release :
    (tracker.release id).life requestId =
      (if id = requestId then [.gone] else []).foldl (Life.step env tracerDetected)
        (tracker.life requestId) := by
  unfold release life
  by_cases own : id = requestId
  · subst own
    simp only [if_pos, List.foldl_cons, List.foldl_nil, Life.step, Life.mk.injEq, and_true]
    exact filter_eraseP_self tracker.entries
  · simp only [if_neg own, List.foldl_nil, Life.mk.injEq, and_true]
    exact filter_eraseP_of_disjoint (named_disjoint own) tracker.entries

theorem tracerDetected_pairEnd : (tracker.pairEnd env id).tracerDetected = tracker.tracerDetected := by
  unfold pairEnd
  simp only [processEnd_eq]
  split <;> rfl

theorem life_runtimeDone (status : Status) :
    (tracker.runtimeDone env ambient id status).life requestId =
      (if id = requestId then tracker.doneEvents env ambient requestId status else []).foldl
        (Life.step env tracker.tracerDetected) (tracker.life requestId) := by
  unfold runtimeDone doneEvents
  rw [life_settle env, tracerDetected_pairEnd]
  unfold pairEnd
  by_cases own : id = requestId
  · subst own
    simp only [if_pos]
    cases (tracker.ends.opens (!env.isManagedInstanceMode) id).1 with
    | none => rfl
    | some event =>
      rw [life_processEnd env _ id tracker.tracerDetected event, if_pos rfl]
      exact Life.step_finish_done env tracker.tracerDetected _ event ambient status
  · simp only [if_neg own, List.foldl_nil]
    split
    · rw [life_processEnd env _ id tracker.tracerDetected, if_neg own]
      rfl
    · rfl

variable {id}

theorem life_insert_other {entry : Entry} (other : entry.requestId ≠ requestId) :
    (tracker.insert entry).life requestId =
      (tracker.evictEvents requestId).foldl (Life.step env tracerDetected)
        (tracker.life requestId) := by
  have unnamed : entry.named requestId = false := beq_eq_false_iff_ne.mpr other
  unfold insert evictEvents life
  by_cases full : tracker.entries.length = tracker.capacity
  · simp only [full, if_true, true_and, List.filter_append, List.filter_cons, unnamed,
      Bool.false_eq_true, if_false, List.filter_nil, List.append_nil]
    cases tracker.entries with
    | nil => rfl
    | cons oldest =>
      simp only [List.head?_cons, Option.any_some, List.filter_cons]
      by_cases own : oldest.named requestId = true
      · simp only [own, if_true]
        rfl
      · simp only [own]
        rfl
  · simp only [full, if_false, false_and, List.filter_append, List.filter_cons, unnamed,
      Bool.false_eq_true, List.filter_nil, List.append_nil, List.foldl_nil, Life.mk.injEq, and_true]
    exact filter_eraseP_of_disjoint (named_disjoint other) tracker.entries

theorem life_rename_other (other : id ≠ requestId) :
    (tracker.update "" (fun entry => { entry with requestId := id })).life requestId =
      (if requestId = "" then [.gone] else []).foldl (Life.step env tracerDetected)
        (tracker.life requestId) := by
  unfold update life
  by_cases blank : requestId = ""
  · subst blank
    simp only [if_true, List.foldl_cons, List.foldl_nil, Life.step, Life.mk.injEq, and_true]
    apply filter_modifyFirst_of_leaves
    intro entry
    exact beq_eq_false_iff_ne.mpr other
  · simp only [if_neg blank, List.foldl_nil, Life.mk.injEq, and_true]
    apply filter_modifyFirst_of_disjoint
    · exact named_disjoint (Ne.symm blank)
    · intro entry _
      exact beq_eq_false_iff_ne.mpr other

theorem life_enter_other (other : id ≠ requestId) :
    (tracker.enter env id).life requestId =
      (tracker.enterEvents env requestId).foldl (Life.step env tracerDetected)
        (tracker.life requestId) := by
  unfold enter enterEvents
  by_cases first : env.isManagedInstanceMode = true ∧ tracker.awaitingFirstInvocation = true
  · simp only [first, true_and, and_self, if_true]
    split
    · exact life_rename_other env tracker tracerDetected other
    · exact life_insert_other env tracker tracerDetected other
  · rw [if_neg first, if_neg (fun all => first ⟨all.1, all.2.1⟩)]
    exact life_insert_other env tracker tracerDetected other

theorem life_invoke_other (other : id ≠ requestId) :
    (tracker.invoke env id).life requestId =
      (tracker.enterEvents env requestId).foldl (Life.step env tracerDetected)
        (tracker.life requestId) := by
  rw [<- life_enter_other env tracker tracerDetected other]
  unfold invoke pairStart
  simp only
  split
  · rw [life_processStart env _ id tracerDetected, if_neg other]
    rfl
  · rfl

theorem life_updateReparenting (infos : List ReparentingInfo) :
    (infos.foldl reparent tracker).life requestId =
      ((infos.filter (fun info => info.requestId == requestId)).map .reparent).foldl
        (Life.step env tracerDetected) (tracker.life requestId) := by
  induction infos generalizing tracker with
  | nil => rfl
  | cons info _ ih =>
    rw [List.foldl_cons, ih, life_reparent env tracker tracerDetected, List.filter_cons]
    simp only [beq_iff_eq]
    split <;> rfl

theorem life_report (id : String) (metrics : ReportMetrics) (timestamp : Int) (status : Status)
    (errorType : Option String) (spans : Option (List TelemetrySpan)) :
    (tracker.report env ambient id metrics status).life requestId =
      (tracker.lifeEvents env ambient requestId
        (.platformReport id metrics timestamp status errorType spans)).foldl
        (Life.step env tracker.tracerDetected) (tracker.life requestId) := by
  unfold report lifeEvents
  rw [life_release env _ id tracker.tracerDetected]
  cases metrics with
  | onDemand => rfl
  | managedInstance =>
    have finished : (if (tracker.find id).isSome then
        tracker.runtimeDone env ambient id status else tracker).life requestId =
        (if id = requestId then tracker.doneEvents env ambient requestId status else []).foldl
          (Life.step env tracker.tracerDetected) (tracker.life requestId) := by
      split
      · exact life_runtimeDone env ambient tracker id status
      · rename_i missing
        split
        · rename_i own
          rw [own] at missing
          have empty := life_entries_of_find_none (Option.not_isSome_iff_eq_none.mp missing)
          rw [Life.foldl_of_empty env _ empty]
        · rfl
    simp only [finished]
    by_cases own : id = requestId
    · simp only [if_pos own, List.foldl_append]
    · simp only [if_neg own, List.foldl_nil]

theorem life_start (id : Option String) :
    (tracker.start env event id).life requestId =
      (tracker.lifeEvents env ambient requestId
        (.universalInstrumentationStart event id)).foldl
        (Life.step env tracker.tracerDetected) (tracker.life requestId) := by
  rw [start_eq]
  unfold lifeEvents
  simp only
  cases tracker.paired env (.universalInstrumentationStart event id) with
  | none => rfl
  | some target =>
    simp only [Option.some.injEq]
    exact life_processStart env _ target tracker.tracerDetected event

theorem life_finish (id : Option String) :
    (tracker.finish event id).life requestId =
      (tracker.lifeEvents env ambient requestId
        (.universalInstrumentationEnd event id)).foldl
        (Life.step env tracker.tracerDetected) (tracker.life requestId) := by
  rw [finish_eq env]
  unfold lifeEvents
  simp only
  cases tracker.paired env (.universalInstrumentationEnd event id) with
  | none => rfl
  | some target =>
    simp only [Option.some.injEq]
    exact life_processEnd env _ target tracker.tracerDetected event

/-- A command that does not begin the life of a request acts on it by its life
events. -/
theorem life_handle (command : Command) (other : ¬ command.Begins env requestId) :
    (tracker.handle env ambient command).life requestId =
      (tracker.lifeEvents env ambient requestId command).foldl
        (Life.step env tracker.tracerDetected) (tracker.life requestId) := by
  cases command with
  | invokeEvent => exact life_invoke_other env tracker _ other
  | platformInitStart =>
    simp only [handle, lifeEvents]
    by_cases managed : env.isManagedInstanceMode = true
    · rw [if_pos managed, if_pos managed]
      have blank : "" ≠ requestId := fun same => other ⟨managed, same.symm⟩
      exact life_insert_other env tracker _ blank
    · rw [if_neg managed, if_neg managed, List.foldl_nil]
  | platformStart =>
    simp only [handle, lifeEvents]
    by_cases managed : env.isManagedInstanceMode = true
    · rw [if_pos managed, if_pos managed]
      exact life_invoke_other env tracker _ (fun same => other ⟨managed, same⟩)
    · rw [if_neg managed, if_neg managed, List.foldl_nil]
  | platformRuntimeDone id _ status => exact life_runtimeDone env ambient tracker id status
  | platformReport id metrics timestamp status errorType spans =>
    exact life_report env ambient tracker id metrics timestamp status errorType spans
  | universalInstrumentationStart event id => exact life_start env ambient tracker event id
  | universalInstrumentationEnd event id => exact life_finish env ambient tracker event id
  | recordDsmConsumeFromPayload =>
    simp only [handle, recordDsm]
    split <;> rfl
  | addReparenting =>
    simp only [handle, addReparenting]
    split <;> rfl
  | updateReparenting infos => exact life_updateReparenting env tracker _ infos
  | sendCtxSpans =>
    unfold handle note life
    rw [List.countP_append]
    rfl
  | _ => rfl

end Tracker

/-! ## The life of a request in the processor -/

def Effect.handsOver (requestId : String) : Effect -> Bool
  | sendCtxSpans _ context => context.requestId == requestId
  | _ => false

namespace Processor

variable {requestId : String}

/-- How often the spans of a request were handed over. -/
def handedOverCount (requestId : String) (processor : Processor) : Nat :=
  processor.effects.countP (Effect.handsOver requestId)

theorem life_handedOver (requestId : String) (processor : Processor) :
    (processor.view.life requestId).handedOver = processor.handedOverCount requestId := by
  unfold Tracker.life view handedOverCount
  simp only [List.countP_filterMap]
  apply List.countP_congr
  intro effect _
  cases effect with
  | sendSpans requestId => cases requestId <;> rfl
  | _ => rfl

theorem entry_mem_life {processor : Processor} {context : Context}
    (buffered : processor.contextBuffer.get requestId = some context) :
    context.entry ∈ (processor.view.life requestId).entries := by
  have found := get_entry processor requestId
  rw [buffered, Tracker.find_eq_head] at found
  exact List.mem_of_head? found.symm

/-- With a single context, a statement about the context is one about all the
entries. -/
theorem forall_life {processor : Processor} {meets : Entry -> Prop}
    (single : (processor.view.life requestId).entries.length <= 1)
    (each : forall context, processor.contextBuffer.get requestId = some context ->
      meets context.entry) :
    forall entry, entry ∈ (processor.view.life requestId).entries -> meets entry := by
  intro entry member
  rcases Life.empty_or_single single with empty | ⟨only, alone⟩
  · rw [empty] at member
    cases member
  · rw [alone] at member
    cases List.mem_singleton.mp member
    have found := get_entry processor requestId
    rw [Tracker.find_eq_head, alone] at found
    rcases Option.map_eq_some_iff.mp found with ⟨context, buffered, same⟩
    exact same ▸ each context buffered

end Processor
end Lifecycle
end Bottlecap
