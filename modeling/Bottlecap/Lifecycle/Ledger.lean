import Bottlecap.Lifecycle.Pairing

namespace Bottlecap
namespace Lifecycle

open Foundations Extension

/-!
# What is recorded of requests

Besides the events that wait for their counterpart, a tracker records of a request
that it has a context, that it has a reparenting entry, and that its data streams
payload was processed.  `ledger_handle` gives these three records after every
command of an On-Demand function.
-/

/-- The ids of the contexts, of the reparenting entries and of the processed
payloads. -/
structure Ledger where
  ids : List String
  reparenting : List String
  dsm : Finset String

/-- The command is the report of the request. -/
def Command.reports (requestId : String) : Command -> Bool
  | platformReport id _ _ _ _ _ => id == requestId
  | _ => false

namespace Tracker

variable (env : Env) (ambient : Ambient) (tracker : Tracker)

def ids : List String := tracker.entries.map Entry.requestId

def ledger : Ledger := ⟨tracker.ids, tracker.reparenting, tracker.dsm⟩

theorem mem_ids (requestId : String) :
    requestId ∈ tracker.ids <-> (tracker.find requestId).isSome = true := by
  unfold ids find Entry.named
  rw [List.mem_map, List.find?_isSome]
  simp only [beq_iff_eq]

/-! ## What a command does -/

/-- An invocation enters its context, and a report removes it. -/
def idsAfter : Command -> List String
  | .invokeEvent requestId =>
    (if tracker.ids.length = tracker.capacity then tracker.ids.tail
      else tracker.ids.erase requestId) ++ [requestId]
  | .platformReport requestId _ _ _ _ _ => tracker.ids.erase requestId
  | _ => tracker.ids

def reparentingAfter : Command -> List String
  | .addReparenting requestId _ _ => (tracker.addReparenting requestId).reparenting
  | .platformReport requestId _ _ _ _ _ =>
    tracker.reparenting.filter (fun id => id != requestId)
  | _ => tracker.reparenting

def dsmAfter (command : Command) : Finset String :=
  match command with
  | .recordDsmConsumeFromPayload requestId _ => env.mark requestId tracker.dsm
  | .platformReport requestId _ _ _ _ _ => tracker.dsm.erase requestId
  | _ => env.marked tracker.dsm (tracker.startProcessed env command)

def ledgerAfter (command : Command) : Ledger where
  ids := tracker.idsAfter command
  reparenting := tracker.reparentingAfter command
  dsm := tracker.dsmAfter env command

/-! ## The operations -/

theorem ledger_update {change : Entry -> Entry}
    (keeps : forall entry, (change entry).requestId = entry.requestId) (requestId : String) :
    (tracker.update requestId change).ledger = tracker.ledger := by
  have same : (modifyFirst (Entry.named requestId) change tracker.entries).map Entry.requestId =
      tracker.entries.map Entry.requestId :=
    map_modifyFirst Entry.requestId (fun entry _ => keeps entry) tracker.entries
  unfold update ledger ids
  simp only [same]

variable (event : UniversalInstrumentationData)

theorem ledger_processStart (requestId : String) :
    (tracker.processStart env requestId event).ledger =
      { tracker.ledger with
        dsm := env.marked tracker.dsm (some ⟨requestId, event, (tracker.find requestId).isSome⟩) } := by
  rw [processStart_eq]
  exact congrArg (fun ledger : Ledger => { ledger with
    dsm := env.marked tracker.dsm
      (some ⟨requestId, event, (tracker.find requestId).isSome⟩) })
    (ledger_update tracker (Entry.requestId_onStart env event) requestId)

theorem ledger_processEnd (requestId : String) :
    (tracker.processEnd requestId event).ledger = tracker.ledger := by
  rw [processEnd_eq]
  exact ledger_update tracker (Entry.requestId_onEnd event.headers) requestId

theorem ledger_runtimeDone (requestId : String) (status : Status) :
    (tracker.runtimeDone env ambient requestId status).ledger = tracker.ledger := by
  unfold runtimeDone
  rw [settle_eq]
  refine (ledger_update _ (Entry.requestId_onDone ambient status) requestId).trans ?_
  unfold pairEnd
  simp only
  split
  · rw [ledger_processEnd]
    rfl
  · rfl

theorem ledger_release (requestId : String) :
    (tracker.release requestId).ledger =
      ⟨tracker.ids.erase requestId, tracker.reparenting.filter (fun id => id != requestId),
        tracker.dsm.erase requestId⟩ := by
  have erased : (tracker.entries.eraseP (Entry.named requestId)).map Entry.requestId =
      (tracker.entries.map Entry.requestId).erase requestId := by
    rw [List.erase_eq_eraseP', List.eraseP_map]
    rfl
  unfold release ledger ids
  simp only [erased]

theorem ledger_report (requestId : String) (metrics : ReportMetrics) (status : Status) :
    (tracker.report env ambient requestId metrics status).ledger =
      ⟨tracker.ids.erase requestId, tracker.reparenting.filter (fun id => id != requestId),
        tracker.dsm.erase requestId⟩ := by
  have finished : forall current : Tracker, current.ledger = tracker.ledger ->
      (current.release requestId).ledger = (tracker.release requestId).ledger := by
    intro current same
    have ids : current.ids = tracker.ids := congrArg Ledger.ids same
    have reparenting : current.reparenting = tracker.reparenting := congrArg Ledger.reparenting same
    have dsm : current.dsm = tracker.dsm := congrArg Ledger.dsm same
    rw [ledger_release, ledger_release, ids, reparenting, dsm]
  rw [<- ledger_release]
  apply finished
  cases metrics with
  | onDemand => rfl
  | managedInstance =>
    simp only
    split
    · exact ledger_runtimeDone env ambient tracker requestId status
    · rfl

theorem ledger_reparent (info : ReparentingInfo) :
    (tracker.reparent info).ledger = tracker.ledger := by
  rw [reparent_eq]
  exact ledger_update tracker (Entry.requestId_reparent info) info.requestId

theorem ledger_start (requestId : Option String) :
    (tracker.start env event requestId).ledger =
      { tracker.ledger with dsm := env.marked tracker.dsm (tracker.startProcessed env
          (.universalInstrumentationStart event requestId)) } := by
  rw [start_eq]
  unfold startProcessed
  simp only
  cases tracker.paired env (.universalInstrumentationStart event requestId) with
  | none => rfl
  | some target => exact ledger_processStart env _ event target

theorem ledger_finish (requestId : Option String) :
    (tracker.finish event requestId).ledger = tracker.ledger := by
  unfold finish
  simp only
  split
  · rw [ledger_processEnd]
    rfl
  · rfl

/-! ## On-Demand functions -/

section OnDemand

variable {env} (onDemand : env.isManagedInstanceMode = false)

include onDemand

theorem enter_onDemand (requestId : String) :
    tracker.enter env requestId = tracker.insert { requestId := requestId } := by
  unfold enter
  simp only [onDemand, Bool.false_eq_true, false_and, if_false]

theorem ledger_invoke (requestId : String) :
    (tracker.invoke env requestId).ledger =
      tracker.ledgerAfter env (.invokeEvent requestId) := by
  have buffered := find_enter env tracker requestId
  rw [enter_onDemand tracker onDemand] at buffered
  have erased : (tracker.entries.eraseP (Entry.named requestId)).map Entry.requestId =
      (tracker.entries.map Entry.requestId).erase requestId :=
    congrArg Ledger.ids (ledger_release tracker requestId)
  have entered : (tracker.insert { requestId := requestId }).ids =
      tracker.idsAfter (.invokeEvent requestId) := by
    unfold insert idsAfter ids
    simp only [List.map_append, List.map_cons, List.map_nil, List.length_map]
    split
    · rw [List.map_tail]
    · rw [erased]
  unfold invoke pairStart
  rw [enter_onDemand tracker onDemand]
  unfold ledgerAfter dsmAfter startProcessed
  have same : (tracker.insert { requestId := requestId }).starts = tracker.starts := rfl
  rw [same, <- entered]
  rcases Option.eq_none_or_eq_some (tracker.starts.opens (!env.isManagedInstanceMode) requestId).1
    with alone | ⟨event, met⟩
  · simp only [alone, Option.map_none]
    rfl
  · simp only [met, Option.map_some]
    have found : ({ tracker.insert { requestId := requestId } with
        starts := (tracker.starts.opens (!env.isManagedInstanceMode) requestId).2 }.find
          requestId).isSome = true := buffered
    rw [ledger_processStart, found]
    rfl

/-- Every command acts on the records as described. -/
theorem ledger_handle (command : Command) :
    (tracker.handle env ambient command).ledger = tracker.ledgerAfter env command := by
  cases command with
  | invokeEvent requestId => exact ledger_invoke tracker onDemand requestId
  | platformInitStart =>
    simp only [handle, onDemand]
    rfl
  | platformStart =>
    simp only [handle, ledgerAfter, dsmAfter, startProcessed, onDemand]
    rfl
  | platformRuntimeDone requestId _ status =>
    exact ledger_runtimeDone env ambient tracker requestId status
  | platformReport requestId metrics _ status =>
    exact ledger_report env ambient tracker requestId metrics status
  | universalInstrumentationStart event requestId => exact ledger_start env tracker event requestId
  | universalInstrumentationEnd event requestId => exact ledger_finish tracker event requestId
  | recordDsmConsumeFromPayload =>
    simp only [handle, recordDsm, ledgerAfter, dsmAfter, Env.mark]
    split <;> rfl
  | addReparenting =>
    simp only [handle, ledgerAfter, reparentingAfter, addReparenting]
    split <;> rfl
  | updateReparenting infos =>
    exact foldl_project ledger reparent (fun current info => ledger_reparent current info)
      infos tracker
  | _ => rfl

theorem ids_handle (command : Command) :
    (tracker.handle env ambient command).ids = tracker.idsAfter command :=
  congrArg Ledger.ids (ledger_handle ambient tracker onDemand command)

theorem reparenting_handle (command : Command) :
    (tracker.handle env ambient command).reparenting = tracker.reparentingAfter command :=
  congrArg Ledger.reparenting (ledger_handle ambient tracker onDemand command)

theorem dsm_handle (command : Command) :
    (tracker.handle env ambient command).dsm = tracker.dsmAfter env command :=
  congrArg Ledger.dsm (ledger_handle ambient tracker onDemand command)

/-! ## Contexts over a step -/

variable {tracker} {requestId : String} {command : Command}

/-- An invocation does not make the buffer drop a context. -/
def HasSpace (tracker : Tracker) (command : Command) : Prop :=
  forall id, command = .invokeEvent id -> tracker.ids.length ≠ tracker.capacity

/-- A context comes from an invocation. -/
theorem mem_ids_handle (member : requestId ∈ (tracker.handle env ambient command).ids) :
    requestId ∈ tracker.ids ∨ command = .invokeEvent requestId := by
  rw [ids_handle ambient tracker onDemand] at member
  cases command with
  | invokeEvent =>
    rcases List.mem_append.mp member with kept | new
    · refine Or.inl ?_
      split at kept
      · exact List.mem_of_mem_tail kept
      · exact List.mem_of_mem_erase kept
    · rw [List.mem_singleton.mp new]
      exact Or.inr rfl
  | platformReport =>
    exact Or.inl (List.mem_of_mem_erase member)
  | _ => exact Or.inl member

/-- A context leaves the buffer when its request is reported. -/
theorem mem_ids_of_unreported (space : tracker.HasSpace command)
    (buffered : requestId ∈ tracker.ids) (unreported : command.reports requestId = false) :
    requestId ∈ (tracker.handle env ambient command).ids := by
  rw [ids_handle ambient tracker onDemand]
  cases command with
  | invokeEvent id =>
    simp only [idsAfter, if_neg (space id rfl)]
    by_cases own : requestId = id
    · exact List.mem_append_right _ (List.mem_singleton.mpr own)
    · exact List.mem_append_left _ ((List.mem_erase_of_ne own).mpr buffered)
  | platformReport id =>
    have own : id ≠ requestId := beq_eq_false_iff_ne.mp unreported
    exact (List.mem_erase_of_ne (Ne.symm own)).mpr buffered
  | _ => exact buffered

theorem nodup_ids_handle (space : tracker.HasSpace command) (distinct : tracker.ids.Nodup) :
    (tracker.handle env ambient command).ids.Nodup := by
  rw [ids_handle ambient tracker onDemand]
  cases command with
  | invokeEvent id =>
    simp only [idsAfter, if_neg (space id rfl)]
    exact nodup_snoc (distinct.erase id) distinct.not_mem_erase
  | platformReport id => exact distinct.erase id
  | _ => exact distinct

end OnDemand

end Tracker
end Lifecycle
end Bottlecap
