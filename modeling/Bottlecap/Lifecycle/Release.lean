import Mathlib.Data.Finset.Card
import Bottlecap.Lifecycle.Ledger

namespace Bottlecap
namespace Lifecycle

open Foundations Extension

/-!
# What a report leaves behind

A report releases the context of its request and prunes its reparenting entry and
its mark of processed data streams payloads.  It does not look at the four
structures that pair events.  A request is absent if its id occurs in none of the
seven structures.  In On-Demand mode the theorems say exactly when the report of a
request makes it absent, and exactly which later commands bring it back.

The second half is about size.  If every report finds its request out of the
pairing structures, and nothing is filed for a request without a context but a
start event that comes first, then no structure is larger than the number of
requests in flight.
-/

/-- The request that an invocation or a named start event brings in flight. -/
def Command.enters : Command -> Option String
  | invokeEvent id => some id
  | universalInstrumentationStart _ id => id
  | _ => none

def Command.isStart : Command -> Bool
  | universalInstrumentationStart _ _ => true
  | _ => false

namespace Tracker

/-- Nothing is recorded of the request besides its context and the start event
that is filed under its id. -/
structure Unrecorded (requestId : String) (tracker : Tracker) : Prop where
  waiting : requestId ∉ tracker.starts.waiting
  ends : tracker.ends.Free requestId
  reparenting : requestId ∉ tracker.reparenting
  dsm : requestId ∉ tracker.dsm

/-- The id of the request occurs in none of the structures. -/
structure Absent (requestId : String) (tracker : Tracker) : Prop
    extends Unrecorded requestId tracker where
  buffered : requestId ∉ tracker.ids
  keyed : requestId ∉ tracker.starts.keyed

/-- The command files something under the id of an absent request: an invocation,
an event that carries the id, a data streams payload or a reparenting entry, or an
end of its runtime for which no unnamed end event is queued. -/
def Files (env : Env) (requestId : String) (tracker : Tracker) : Command -> Prop
  | .invokeEvent id => id = requestId
  | .platformRuntimeDone id _ _ _ _ => id = requestId ∧ tracker.ends.queued = []
  | .universalInstrumentationStart _ id => id = some requestId
  | .universalInstrumentationEnd _ id => id = some requestId
  | .recordDsmConsumeFromPayload id _ => id = requestId ∧ env.dsmEnabled = true
  | .addReparenting id _ _ => id = requestId
  | _ => False

/-- A report finds its request out of the pairing structures.  A report that
reports the end of the runtime as well takes an end event, and needs one. -/
structure Cleared (requestId : String) (metrics : ReportMetrics) (tracker : Tracker) : Prop where
  single : tracker.ids.count requestId <= 1
  starts : tracker.starts.Free requestId
  waiting : requestId ∉ tracker.ends.waiting
  ends : match metrics with
    | .managedInstance _ =>
      if requestId ∈ tracker.ids then requestId ∈ tracker.ends.keyed ∨ tracker.ends.queued ≠ []
      else requestId ∉ tracker.ends.keyed
    | .onDemand _ => requestId ∉ tracker.ends.keyed

section OnDemand

variable {env : Env} (ambient : Ambient) {tracker : Tracker} {requestId : String}
  (onDemand : env.isManagedInstanceMode = false)

include onDemand

/-! ## Where an id comes from -/

variable {command : Command}

theorem startsAfter_onDemand (event : UniversalInstrumentationData) (id : Option String) :
    tracker.startsAfter env (.universalInstrumentationStart event id) =
      (tracker.starts.arrives id event).2 := by
  unfold startsAfter
  simp only [startsAtOnce_onDemand tracker onDemand, Option.isSome_none, Bool.false_eq_true,
    if_false]

theorem startsAfter_platformStart (id : String) (time : DateTime) :
    tracker.startsAfter env (.platformStart id time) = tracker.starts := by
  unfold startsAfter
  simp only [onDemand, Bool.false_eq_true, if_false]

theorem mem_waiting_handle
    (member : requestId ∈ (tracker.handle env ambient command).starts.waiting) :
    requestId ∈ tracker.starts.waiting ∨ command = .invokeEvent requestId := by
  rw [starts_handle] at member
  cases command with
  | invokeEvent id =>
    rcases List.mem_append.mp ((Rendezvous.waiting_opens_sublist _ id _).subset member) with
      kept | new
    · exact Or.inl kept
    · rw [List.mem_singleton.mp new]
      exact Or.inr rfl
  | platformStart =>
    rw [startsAfter_platformStart onDemand] at member
    exact Or.inl member
  | universalInstrumentationStart event id =>
    rw [startsAfter_onDemand onDemand] at member
    exact Or.inl ((Rendezvous.waiting_arrives_sublist id event _).subset member)
  | _ => exact Or.inl member

theorem mem_keyed_handle (member : requestId ∈ (tracker.handle env ambient command).starts.keyed) :
    requestId ∈ tracker.starts.keyed ∨ Exists fun event =>
      command = .universalInstrumentationStart event (some requestId) := by
  rw [starts_handle] at member
  cases command with
  | invokeEvent =>
    simp only [startsAfter, Rendezvous.keyed_opens] at member
    exact Or.inl (AList.mem_erase.mp member).2
  | platformStart =>
    rw [startsAfter_platformStart onDemand] at member
    exact Or.inl member
  | universalInstrumentationStart event =>
    rw [startsAfter_onDemand onDemand] at member
    rcases Rendezvous.mem_keyed_arrives member with kept | named
    · exact Or.inl kept
    · rw [named]
      exact Or.inr ⟨event, rfl⟩
  | _ => exact Or.inl member

/-- The end of the runtime of a request without a context waits, if no end event
is queued. -/
theorem free_ends_handle (free : tracker.ends.Free requestId) (unbuffered : requestId ∉ tracker.ids)
    (quiet : tracker.Files env requestId command -> command.isStart = true) :
    (tracker.handle env ambient command).ends.Free requestId := by
  rw [ends_handle]
  cases command with
  | platformRuntimeDone id =>
    simp only [endsAfter, onDemand]
    by_cases own : id = requestId
    · subst own
      refine (Rendezvous.free_opens_self true id _).mpr ⟨free.1, Or.inr (Or.inr ?_)⟩
      intro empty
      cases quiet ⟨rfl, empty⟩
    · exact (Rendezvous.free_opens_other (Ne.symm own) _ _).mpr free
  | platformReport id metrics timestamp status errorType spans =>
    cases metrics with
    | onDemand => exact free
    | managedInstance metrics =>
      simp only [endsAfter]
      split
      · rename_i buffered
        have other : requestId ≠ id := by
          intro same
          rw [<- mem_ids, <- same] at buffered
          exact unbuffered buffered
        exact (Rendezvous.free_opens_other other _ _).mpr free
      · exact free
  | universalInstrumentationEnd event id =>
    refine (Rendezvous.free_arrives free id event).mpr ?_
    intro named
    cases quiet named
  | _ => exact free

theorem mem_reparenting_handle
    (member : requestId ∈ (tracker.handle env ambient command).reparenting) :
    requestId ∈ tracker.reparenting ∨ Exists fun ids : UInt64 × UInt64 =>
      command = .addReparenting requestId ids.1 ids.2 := by
  rw [reparenting_handle ambient tracker onDemand] at member
  cases command with
  | addReparenting _ spanId parentId =>
    simp only [reparentingAfter, addReparenting] at member
    split at member
    · exact Or.inl member
    · rcases List.mem_append.mp member with kept | new
      · refine Or.inl ?_
        split at kept
        · exact List.mem_of_mem_tail kept
        · exact kept
      · rw [List.mem_singleton.mp new]
        exact Or.inr ⟨(spanId, parentId), rfl⟩
  | platformReport =>
    exact Or.inl (List.mem_filter.mp member).1
  | _ => exact Or.inl member

omit onDemand in
theorem mem_mark {id : String} {dsm : Finset String} (member : requestId ∈ env.mark id dsm) :
    requestId ∈ dsm ∨ requestId = id ∧ env.dsmEnabled = true := by
  unfold Env.mark at member
  split at member
  · rename_i enabled
    rcases Finset.mem_insert.mp member with same | kept
    · exact Or.inr ⟨same, enabled⟩
    · exact Or.inl kept
  · exact Or.inl member

/-- A payload is processed for a request that has a context, or by the command that
carries it. -/
theorem mem_dsm_handle (member : requestId ∈ (tracker.handle env ambient command).dsm) :
    requestId ∈ tracker.dsm ∨ requestId ∈ tracker.ids ∨ command = .invokeEvent requestId ∨
      env.dsmEnabled = true ∧ Exists fun payload =>
        command = .recordDsmConsumeFromPayload requestId payload := by
  have processed : forall processed : Option Processed,
      requestId ∈ env.marked tracker.dsm processed -> requestId ∈ tracker.dsm ∨
        Exists fun event => processed = some ⟨requestId, event, true⟩ := by
    intro processed marked
    unfold Env.marked at marked
    split at marked
    · rename_i id event
      rcases mem_mark marked with kept | ⟨same, enabled⟩
      · exact Or.inl kept
      · rw [same]
        exact Or.inr ⟨event, rfl⟩
    · exact Or.inl marked
  rw [dsm_handle ambient tracker onDemand] at member
  cases command with
  | invokeEvent =>
    rcases processed _ member with kept | ⟨event, met⟩
    · exact Or.inl kept
    · rcases Option.map_eq_some_iff.mp met with ⟨found, _, same⟩
      cases same
      exact Or.inr (Or.inr (Or.inl rfl))
  | platformStart =>
    simp only [dsmAfter, startProcessed, onDemand] at member
    exact Or.inl member
  | platformReport =>
    exact Or.inl (Finset.mem_of_mem_erase member)
  | universalInstrumentationStart =>
    rcases processed _ member with kept | ⟨found, met⟩
    · exact Or.inl kept
    · rcases Option.map_eq_some_iff.mp met with ⟨target, _, same⟩
      rw [Processed.mk.injEq] at same
      rcases same with ⟨own, _, buffered⟩
      rw [own, <- mem_ids] at buffered
      exact Or.inr (Or.inl buffered)
  | recordDsmConsumeFromPayload _ payload =>
    rcases mem_mark member with kept | ⟨same, enabled⟩
    · exact Or.inl kept
    · rw [same]
      exact Or.inr (Or.inr (Or.inr ⟨enabled, payload, rfl⟩))
  | _ => exact Or.inl member

/-! ## Absent requests -/

/-- A request without a context stays unrecorded while nothing is filed for it, a
start event apart. -/
theorem Unrecorded.handle (unrecorded : tracker.Unrecorded requestId)
    (unbuffered : requestId ∉ tracker.ids)
    (quiet : tracker.Files env requestId command -> command.isStart = true) :
    (tracker.handle env ambient command).Unrecorded requestId := by
  constructor
  · intro member
    rcases mem_waiting_handle ambient onDemand member with kept | invoked
    · exact unrecorded.waiting kept
    · subst invoked
      cases quiet rfl
  · exact free_ends_handle ambient onDemand unrecorded.ends unbuffered quiet
  · intro member
    rcases mem_reparenting_handle ambient onDemand member with kept | ⟨ids, added⟩
    · exact unrecorded.reparenting kept
    · subst added
      cases quiet rfl
  · intro member
    rcases mem_dsm_handle ambient onDemand member with
      kept | buffered | invoked | ⟨enabled, payload, recorded⟩
    · exact unrecorded.dsm kept
    · exact unbuffered buffered
    · subst invoked
      cases quiet rfl
    · subst recorded
      cases quiet ⟨rfl, enabled⟩

theorem Absent.handle (absent : tracker.Absent requestId)
    (quiet : ¬ tracker.Files env requestId command) :
    (tracker.handle env ambient command).Absent requestId where
  toUnrecorded := absent.toUnrecorded.handle ambient onDemand absent.buffered
    (fun files => absurd files quiet)
  buffered := by
    intro member
    rcases mem_ids_handle ambient onDemand member with kept | invoked
    · exact absent.buffered kept
    · subst invoked
      exact quiet rfl
  keyed := by
    intro member
    rcases mem_keyed_handle ambient onDemand member with kept | ⟨event, started⟩
    · exact absent.keyed kept
    · subst started
      exact quiet rfl

theorem not_absent_of_files (absent : tracker.Absent requestId)
    (files : tracker.Files env requestId command) :
    ¬ (tracker.handle env ambient command).Absent requestId := by
  intro after
  cases command with
  | invokeEvent =>
    cases files
    have unbuffered := after.buffered
    rw [ids_handle ambient tracker onDemand] at unbuffered
    exact unbuffered (List.mem_append_right _ List.mem_cons_self)
  | platformRuntimeDone id =>
    rcases files with ⟨same, empty⟩
    subst same
    have free := after.ends
    rw [ends_handle] at free
    simp only [endsAfter, onDemand] at free
    rcases ((Rendezvous.free_opens_self true id _).mp free).2 with impossible | named | queued
    · cases impossible
    · exact absent.ends.2 named
    · exact queued empty
  | universalInstrumentationStart event id =>
    have free : (tracker.handle env ambient
        (.universalInstrumentationStart event id)).starts.Free requestId :=
      ⟨after.waiting, after.keyed⟩
    rw [starts_handle, startsAfter_onDemand onDemand] at free
    exact (Rendezvous.free_arrives ⟨absent.waiting, absent.keyed⟩ id event).mp free files
  | universalInstrumentationEnd event id =>
    have free := after.ends
    rw [ends_handle] at free
    exact (Rendezvous.free_arrives absent.ends id event).mp free files
  | recordDsmConsumeFromPayload id =>
    rcases files with ⟨same, enabled⟩
    subst same
    have unlisted := after.dsm
    rw [dsm_handle ambient tracker onDemand] at unlisted
    simp only [dsmAfter, Env.mark, if_pos enabled] at unlisted
    exact unlisted (Finset.mem_insert_self id tracker.dsm)
  | addReparenting =>
    cases files
    have unlisted := after.reparenting
    rw [reparenting_handle ambient tracker onDemand] at unlisted
    simp only [reparentingAfter, addReparenting, if_neg absent.reparenting] at unlisted
    exact unlisted (List.mem_append_right _ List.mem_cons_self)
  | _ => exact files

/-- An absent request stays absent exactly if the command files nothing for it. -/
theorem absent_handle_iff (absent : tracker.Absent requestId) (command : Command) :
    (tracker.handle env ambient command).Absent requestId <->
      ¬ tracker.Files env requestId command :=
  ⟨fun after files => not_absent_of_files ambient onDemand absent files after,
    absent.handle ambient onDemand⟩

theorem free_ends_report (tracker : Tracker) (requestId : String) (metrics : ReportMetrics)
    (timestamp : Int) (status : Status) (errorType : Option String) (spans : Option (List TelemetrySpan)) :
    (tracker.endsAfter env
      (.platformReport requestId metrics timestamp status errorType spans)).Free
        requestId <->
      requestId ∉ tracker.ends.waiting ∧
        match metrics with
        | .managedInstance _ =>
          if requestId ∈ tracker.ids then
            requestId ∈ tracker.ends.keyed ∨ tracker.ends.queued ≠ []
          else requestId ∉ tracker.ends.keyed
        | .onDemand _ => requestId ∉ tracker.ends.keyed := by
  cases metrics with
  | onDemand => exact Iff.rfl
  | managedInstance =>
    simp only [endsAfter, onDemand, Bool.not_false, <- mem_ids]
    split
    · rw [Rendezvous.free_opens_self]
      simp only [Bool.true_eq_false, false_or]
    · exact Iff.rfl

/-- A report makes its request absent exactly if it finds it cleared. -/
theorem absent_report_iff (metrics : ReportMetrics) (timestamp : Int) (status : Status)
    (errorType : Option String) (spans : Option (List TelemetrySpan)) :
    (tracker.handle env ambient
      (.platformReport requestId metrics timestamp status errorType spans)).Absent
        requestId <-> tracker.Cleared requestId metrics := by
  have buffered : requestId ∉ (tracker.handle env ambient
      (.platformReport requestId metrics timestamp status errorType spans)).ids <->
      tracker.ids.count requestId <= 1 := by
    rw [ids_handle ambient tracker onDemand, <- List.count_eq_zero]
    simp only [idsAfter, List.count_erase_self]
    omega
  have ends := free_ends_report onDemand tracker requestId metrics timestamp status errorType
    spans
  rw [<- ends_handle env ambient] at ends
  have starts : (tracker.handle env ambient
      (.platformReport requestId metrics timestamp status errorType spans)).starts =
      tracker.starts := starts_handle env ambient tracker _
  constructor
  · intro absent
    rcases ends.mp absent.ends with ⟨waiting, keyed⟩
    exact ⟨buffered.mp absent.buffered, starts ▸ ⟨absent.waiting, absent.keyed⟩, waiting, keyed⟩
  · intro cleared
    refine ⟨⟨starts ▸ cleared.starts.1, ends.mpr ⟨cleared.waiting, cleared.ends⟩, ?_, ?_⟩,
      buffered.mpr cleared.single, starts ▸ cleared.starts.2⟩
    · rw [reparenting_handle ambient tracker onDemand]
      intro member
      have other := (List.mem_filter.mp member).2
      rw [bne_self_eq_false] at other
      cases other
    · rw [dsm_handle ambient tracker onDemand]
      exact Finset.notMem_erase requestId tracker.dsm

end OnDemand

/-! ## Sizes -/

/-- The requests in flight: those with a context, and those whose start event came
first. -/
def inFlight (tracker : Tracker) : Finset String :=
  tracker.ids.toFinset ∪ tracker.starts.keyed.keys.toFinset

theorem mem_inFlight {requestId : String} {tracker : Tracker} :
    requestId ∈ tracker.inFlight <-> requestId ∈ tracker.ids ∨ requestId ∈ tracker.starts.keyed := by
  unfold inFlight
  rw [Finset.mem_union, List.mem_toFinset, List.mem_toFinset, AList.mem_keys]

/-- The sizes of the seven structures. -/
def sizes (tracker : Tracker) : List Nat :=
  [tracker.ids.length, tracker.starts.waiting.length, tracker.ends.waiting.length,
    tracker.starts.keyed.keys.length, tracker.ends.keyed.keys.length, tracker.reparenting.length,
    tracker.dsm.card]

/-- A request is invoked while it has no context, in a buffer with space.  The end
of its runtime is reported once, and it, named end events, payloads and reparenting
entries come while the request has a context.  Its report finds it cleared. -/
def Orderly (tracker : Tracker) : Command -> Prop
  | .invokeEvent id => id ∉ tracker.ids ∧ tracker.ids.length ≠ tracker.capacity
  | .platformRuntimeDone id _ _ _ _ => id ∈ tracker.ids ∧ id ∉ tracker.ends.waiting
  | .platformReport id metrics _ _ _ _ => tracker.Cleared id metrics
  | .universalInstrumentationEnd _ (some id) => id ∈ tracker.ids
  | .recordDsmConsumeFromPayload id _ => id ∈ tracker.ids
  | .addReparenting id _ _ => id ∈ tracker.ids
  | _ => True

/-- Besides, at most `limit` requests are in flight. -/
structure Tidy (limit : Nat) (tracker : Tracker) (command : Command) : Prop where
  orderly : tracker.Orderly command
  space : forall id, command.enters = some id ->
    id ∈ tracker.inFlight ∨ tracker.inFlight.card < limit

/-- Whatever is recorded belongs to a request with a context, once in each
structure. -/
structure Kept (limit : Nat) (tracker : Tracker) : Prop where
  ids : tracker.ids.Nodup
  waiting : tracker.starts.waiting.Nodup
  dones : tracker.ends.waiting.Nodup
  reparenting : tracker.reparenting.Nodup
  recorded : forall requestId, requestId ∉ tracker.ids -> tracker.Unrecorded requestId
  bounded : tracker.inFlight.card <= limit

theorem Kept.sizes {limit : Nat} {tracker : Tracker} (kept : tracker.Kept limit) :
    forall size, size ∈ tracker.sizes -> size <= limit := by
  have within : forall records : List String, records.Nodup ->
      (forall id, id ∈ records -> id ∈ tracker.inFlight) -> records.length <= limit := by
    intro records distinct contained
    rw [<- List.toFinset_card_of_nodup distinct]
    refine (Finset.card_le_card ?_).trans kept.bounded
    intro id member
    exact contained id (List.mem_toFinset.mp member)
  have owned : forall id, ¬ tracker.Unrecorded id -> id ∈ tracker.inFlight := by
    intro id recorded
    by_contra outside
    exact recorded (kept.recorded id (fun buffered => outside (mem_inFlight.mpr (Or.inl buffered))))
  unfold Tracker.sizes
  simp only [List.forall_mem_cons, List.not_mem_nil, false_implies, implies_true, and_true]
  refine ⟨?_, ?_, ?_, ?_, ?_, ?_, ?_⟩
  · exact within _ kept.ids (fun id member => mem_inFlight.mpr (Or.inl member))
  · exact within _ kept.waiting (fun id member => owned id (fun none => none.waiting member))
  · exact within _ kept.dones (fun id member => owned id (fun none => none.ends.1 member))
  · refine within _ (AList.keys_nodup _) ?_
    intro id member
    exact mem_inFlight.mpr (Or.inr (AList.mem_keys.mpr member))
  · refine within _ (AList.keys_nodup _) ?_
    intro id member
    exact owned id (fun none => none.ends.2 (AList.mem_keys.mpr member))
  · exact within _ kept.reparenting (fun id member => owned id (fun none => none.reparenting member))
  · refine (Finset.card_le_card ?_).trans kept.bounded
    intro id member
    exact owned id (fun none => none.dsm member)

section Tidy

variable {env : Env} (ambient : Ambient) {limit : Nat} {tracker : Tracker} {command : Command}
  (onDemand : env.isManagedInstanceMode = false)

include onDemand

omit onDemand in
theorem Orderly.hasSpace (orderly : tracker.Orderly command) : tracker.HasSpace command := by
  intro id invokes
  subst invokes
  exact orderly.2

theorem Kept.nodup_waiting (kept : tracker.Kept limit) (orderly : tracker.Orderly command) :
    (tracker.handle env ambient command).starts.waiting.Nodup := by
  rw [starts_handle]
  cases command with
  | invokeEvent id =>
    have fresh := (kept.recorded id orderly.1).waiting
    exact (nodup_snoc kept.waiting fresh).sublist (Rendezvous.waiting_opens_sublist _ id _)
  | platformStart =>
    rw [startsAfter_platformStart onDemand]
    exact kept.waiting
  | universalInstrumentationStart event id =>
    rw [startsAfter_onDemand onDemand]
    exact kept.waiting.sublist (Rendezvous.waiting_arrives_sublist id event _)
  | _ => exact kept.waiting

omit onDemand in
theorem Kept.nodup_dones (kept : tracker.Kept limit) (orderly : tracker.Orderly command) :
    (tracker.handle env ambient command).ends.waiting.Nodup := by
  rw [ends_handle]
  cases command with
  | platformRuntimeDone id =>
    exact (nodup_snoc kept.dones orderly.2).sublist (Rendezvous.waiting_opens_sublist _ id _)
  | platformReport id metrics =>
    cases metrics with
    | onDemand => exact kept.dones
    | managedInstance =>
      simp only [endsAfter]
      split
      · exact (nodup_snoc kept.dones orderly.waiting).sublist
          (Rendezvous.waiting_opens_sublist _ id _)
      · exact kept.dones
  | universalInstrumentationEnd event id =>
    exact kept.dones.sublist (Rendezvous.waiting_arrives_sublist id event _)
  | _ => exact kept.dones

theorem Kept.nodup_reparenting (kept : tracker.Kept limit) :
    (tracker.handle env ambient command).reparenting.Nodup := by
  rw [reparenting_handle ambient tracker onDemand]
  cases command with
  | addReparenting id spanId parentId =>
    simp only [reparentingAfter, addReparenting]
    split
    · exact kept.reparenting
    · rename_i fresh
      split
      · exact nodup_snoc kept.reparenting.tail (fun member => fresh (List.mem_of_mem_tail member))
      · exact nodup_snoc kept.reparenting fresh
  | platformReport =>
    exact kept.reparenting.filter _
  | _ => exact kept.reparenting

/-- A request loses its context only when it is reported. -/
theorem absent_of_released {requestId : String} (orderly : tracker.Orderly command)
    (buffered : requestId ∈ tracker.ids)
    (released : requestId ∉ (tracker.handle env ambient command).ids) :
    (tracker.handle env ambient command).Absent requestId := by
  cases reported : command.reports requestId with
  | false =>
    exact absurd (mem_ids_of_unreported ambient onDemand orderly.hasSpace buffered reported)
      released
  | true =>
    cases command with
    | platformReport _ metrics timestamp status errorType spans =>
      cases beq_iff_eq.mp reported
      exact (absent_report_iff ambient onDemand metrics timestamp status errorType spans).mpr
        orderly
    | _ => cases reported

theorem Kept.unrecorded (kept : tracker.Kept limit) (orderly : tracker.Orderly command)
    (requestId : String) (released : requestId ∉ (tracker.handle env ambient command).ids) :
    (tracker.handle env ambient command).Unrecorded requestId := by
  by_cases buffered : requestId ∈ tracker.ids
  · exact (absent_of_released ambient onDemand orderly buffered released).toUnrecorded
  · refine (kept.recorded requestId buffered).handle ambient onDemand buffered ?_
    intro files
    cases command with
    | invokeEvent =>
      cases files
      rw [ids_handle ambient tracker onDemand] at released
      exact absurd (List.mem_append_right _ List.mem_cons_self) released
    | platformRuntimeDone =>
      exact absurd (files.1 ▸ orderly.1) buffered
    | universalInstrumentationStart => rfl
    | universalInstrumentationEnd =>
      cases files
      exact absurd orderly buffered
    | recordDsmConsumeFromPayload => exact absurd (files.1 ▸ orderly) buffered
    | addReparenting => exact absurd (files ▸ orderly) buffered
    | _ => exact absurd files id

theorem mem_inFlight_handle {requestId : String}
    (member : requestId ∈ (tracker.handle env ambient command).inFlight) :
    requestId ∈ tracker.inFlight ∨ command.enters = some requestId := by
  rcases mem_inFlight.mp member with buffered | filed
  · rcases mem_ids_handle ambient onDemand buffered with old | invoked
    · exact Or.inl (mem_inFlight.mpr (Or.inl old))
    · rw [invoked]
      exact Or.inr rfl
  · rcases mem_keyed_handle ambient onDemand filed with old | ⟨event, started⟩
    · exact Or.inl (mem_inFlight.mpr (Or.inr old))
    · rw [started]
      exact Or.inr rfl

theorem Kept.card_inFlight (kept : tracker.Kept limit) (tidy : tracker.Tidy limit command) :
    (tracker.handle env ambient command).inFlight.card <= limit := by
  cases enters : command.enters with
  | none =>
    refine (Finset.card_le_card ?_).trans kept.bounded
    intro requestId member
    rcases mem_inFlight_handle ambient onDemand member with old | entered
    · exact old
    · rw [enters] at entered
      cases entered
  | some id =>
    have contained : (tracker.handle env ambient command).inFlight ⊆
        Insert.insert id tracker.inFlight := by
      intro requestId member
      rcases mem_inFlight_handle ambient onDemand member with old | entered
      · exact Finset.mem_insert_of_mem old
      · rw [enters] at entered
        cases entered
        exact Finset.mem_insert_self id tracker.inFlight
    refine (Finset.card_le_card contained).trans ?_
    rcases tidy.space id enters with known | space
    · rw [Finset.insert_eq_of_mem known]
      exact kept.bounded
    · exact (Finset.card_insert_le id tracker.inFlight).trans space

theorem Kept.handle (kept : tracker.Kept limit) (tidy : tracker.Tidy limit command) :
    (tracker.handle env ambient command).Kept limit where
  ids := nodup_ids_handle ambient onDemand tidy.orderly.hasSpace kept.ids
  waiting := kept.nodup_waiting ambient onDemand tidy.orderly
  dones := kept.nodup_dones ambient tidy.orderly
  reparenting := kept.nodup_reparenting ambient onDemand
  recorded := kept.unrecorded ambient onDemand tidy.orderly
  bounded := kept.card_inFlight ambient onDemand tidy

end Tidy

end Tracker

/-! ## The processor -/

namespace Processor

variable {env : Env}

/-- The id of the request occurs in no structure of the context buffer, and no
payload is marked as processed for it. -/
structure Forgotten (requestId : String) (processor : Processor) : Prop where
  buffer : requestId ∉ processor.contextBuffer.buffer.map Context.requestId
  invokeEvents : requestId ∉ processor.contextBuffer.invokeEventsRequestIds
  runtimeDoneEvents : requestId ∉ processor.contextBuffer.platformRuntimeDoneEventsRequestIds
  startEvents : requestId ∉ processor.contextBuffer.universalInstrumentationStartEventsWithId
  endEvents : requestId ∉ processor.contextBuffer.universalInstrumentationEndEventsWithId
  reparenting :
    requestId ∉ processor.contextBuffer.sortedReparentingInfo.map ReparentingInfo.requestId
  dsm : requestId ∉ processor.dsmProcessedRequestIds

/-- The sizes of these structures. -/
def sizes (processor : Processor) : List Nat :=
  [processor.contextBuffer.buffer.length,
    processor.contextBuffer.invokeEventsRequestIds.length,
    processor.contextBuffer.platformRuntimeDoneEventsRequestIds.length,
    processor.contextBuffer.universalInstrumentationStartEventsWithId.keys.length,
    processor.contextBuffer.universalInstrumentationEndEventsWithId.keys.length,
    processor.contextBuffer.sortedReparentingInfo.length,
    processor.dsmProcessedRequestIds.card]

theorem ids_view (processor : Processor) :
    processor.view.ids = processor.contextBuffer.buffer.map Context.requestId :=
  List.map_map

theorem forgotten_iff_absent (requestId : String) (processor : Processor) :
    processor.Forgotten requestId <-> processor.view.Absent requestId := by
  constructor
  · intro forgotten
    exact ⟨⟨forgotten.invokeEvents, ⟨forgotten.runtimeDoneEvents, forgotten.endEvents⟩,
      forgotten.reparenting, forgotten.dsm⟩, ids_view processor ▸ forgotten.buffer,
      forgotten.startEvents⟩
  · intro absent
    exact ⟨ids_view processor ▸ absent.buffered, absent.waiting, absent.ends.1, absent.keyed,
      absent.ends.2, absent.reparenting, absent.dsm⟩

theorem sizes_view (processor : Processor) : processor.view.sizes = processor.sizes := by
  unfold Tracker.sizes sizes
  rw [ids_view]
  unfold view
  simp only [List.length_map]
  rfl

theorem kept_new (limit : Nat) : Processor.new.view.Kept limit where
  ids := List.nodup_nil
  waiting := List.nodup_nil
  dones := List.nodup_nil
  reparenting := List.nodup_nil
  recorded := fun requestId _ => ⟨List.not_mem_nil, ⟨List.not_mem_nil, AList.notMem_empty requestId⟩,
    List.not_mem_nil, Finset.notMem_empty requestId⟩
  bounded := Nat.zero_le limit

theorem always_forgotten_iff (onDemand : env.isManagedInstanceMode = false) (requestId : String)
    (processor : Processor) (later : List Input) :
    Machine.Always (Processor.step env) (Forgotten requestId) processor later <->
      processor.view.Absent requestId ∧ Machine.Along (Processor.step env)
        (fun processor input => ¬ processor.view.Files env requestId input.command)
        processor later := by
  have same : Forgotten requestId =
      fun processor : Processor => processor.view.Absent requestId := by
    funext processor
    exact propext (forgotten_iff_absent requestId processor)
  rw [same]
  apply Machine.always_iff_along
  intro current input absent
  rw [view_step]
  exact Tracker.absent_handle_iff input.ambient onDemand absent input.command

/-- After its report a request is forgotten for good exactly if the report finds it
out of the pairing structures and nothing is filed for it later.  In a tidy run no
structure is larger than the number of requests in flight. -/
theorem forgotten_after_report (onDemand : env.isManagedInstanceMode = false) :
    (forall (requestId : String) (metrics : ReportMetrics) (timestamp : Int) (status : Status)
      (errorType : Option String) (spans : Option (List TelemetrySpan)) (ambient : Ambient)
      (history later : List Input),
      let before := Processor.new.run env history
      let reported := before.step env
        ⟨ambient, .platformReport requestId metrics timestamp status errorType spans⟩
      Machine.Always (Processor.step env) (Forgotten requestId) reported later <->
        before.view.Cleared requestId metrics ∧ Machine.Along (Processor.step env)
          (fun processor input => ¬ processor.view.Files env requestId input.command)
          reported later) ∧
    forall (limit : Nat) (inputs : List Input),
      Machine.Along (Processor.step env)
          (fun processor input => processor.view.Tidy limit input.command) Processor.new inputs ->
        Machine.Always (Processor.step env)
          (fun processor => forall size, size ∈ processor.sizes -> size <= limit)
          Processor.new inputs := by
  constructor
  · intro requestId metrics timestamp status errorType spans ambient history later before reported
    rw [always_forgotten_iff onDemand]
    have view : reported.view = before.view.handle env ambient
        (.platformReport requestId metrics timestamp status errorType spans) :=
      view_step env before _
    rw [view, Tracker.absent_report_iff ambient onDemand]
  · intro limit inputs tidy
    have kept : Machine.Always (Processor.step env) (fun processor => processor.view.Kept limit)
        Processor.new inputs := by
      refine tidy.always ?_ (kept_new limit)
      intro processor input current met
      rw [view_step]
      exact current.handle input.ambient onDemand met
    refine kept.mono ?_
    intro processor current
    rw [<- sizes_view]
    exact current.sizes

/-- An invocation that a tracer reports in full, but for its report. -/
def tracedInvocation : List Input :=
  [Command.tracerStart.still, (Command.invokeEvent "r1").still, (Command.endOf "5" "6").still,
    (Command.runtimeDoneOf "r1" .success).still]

/-- Its report leaves nothing behind, also when another request is invoked. -/
theorem forgotten_after_report_traced :
    Machine.Always (Processor.step (Env.plain false)) (Forgotten "r1")
        ((Processor.new.run (Env.plain false) tracedInvocation).step (Env.plain false)
          (Command.reportOf "r1").still) [(Command.invokeEvent "r2").still] ∧
      Machine.Always (Processor.step (Env.plain false))
        (fun processor => forall size, size ∈ processor.sizes -> size <= 1) Processor.new
        tracedInvocation := by
  constructor
  · refine ((forgotten_after_report rfl).1 "r1" _ _ _ _ _ _ tracedInvocation _).mpr ?_
    refine ⟨⟨by decide, ⟨by decide, by decide⟩, by decide, by decide⟩, ?_, trivial⟩
    intro same
    have impossible : "r2" = "r1" := same
    exact absurd impossible (by decide)
  · refine (forgotten_after_report rfl).2 1 tracedInvocation ⟨⟨trivial, ?_⟩,
      ⟨⟨by decide, by decide⟩, ?_⟩, ⟨trivial, ?_⟩, ⟨⟨by decide, by decide⟩, ?_⟩, trivial⟩
    · intro id enters
      cases enters
    · intro id enters
      exact Or.inr (by decide)
    · intro id enters
      cases enters
    · intro id enters
      cases enters

/-- An invocation without a tracer. -/
def untracedInvocation (requestId : String) : List Input :=
  [(Command.invokeEvent requestId).still,
    (Command.runtimeDoneOf requestId .success).still, (Command.reportOf requestId).still]

theorem starts_untracedInvocation (tracker : Tracker) {waiting : List String}
    (starts : tracker.starts = ⟨waiting, [], ∅⟩) (requestId : String) :
    ((untracedInvocation requestId).foldl (Tracker.step (Env.plain false)) tracker).starts =
      ⟨waiting ++ [requestId], [], ∅⟩ := by
  simp only [untracedInvocation, List.foldl_cons, List.foldl_nil, Tracker.step,
    Tracker.starts_handle, Tracker.startsAfter, starts]
  rfl

/-- Every invocation without a tracer leaves its id in the queue of invocations. -/
theorem invokeEvents_untraced (requestIds : List String) :
    (Processor.new.run (Env.plain false)
      (requestIds.flatMap untracedInvocation)).contextBuffer.invokeEventsRequestIds =
        requestIds := by
  have queued : forall (requestIds waiting : List String) (tracker : Tracker),
      tracker.starts = ⟨waiting, [], ∅⟩ ->
      ((requestIds.flatMap untracedInvocation).foldl (Tracker.step (Env.plain false))
        tracker).starts = ⟨waiting ++ requestIds, [], ∅⟩ := by
    intro requestIds
    induction requestIds with
    | nil =>
      intro waiting tracker starts
      rw [List.append_nil]
      exact starts
    | cons requestId _ ih =>
      intro waiting tracker starts
      rw [List.flatMap_cons, List.foldl_append,
        ih _ _ (starts_untracedInvocation tracker starts requestId), List.append_assoc]
      rfl
  have view := view_run (Env.plain false) Processor.new (requestIds.flatMap untracedInvocation)
  have starts := queued requestIds [] Processor.new.view rfl
  rw [<- view] at starts
  exact congrArg Rendezvous.waiting starts

/-- The report of an invocation without a tracer leaves its id in the queues, and
the queue of invocations grows without bound although every request is reported
before the next one is invoked. -/
theorem report_leaves_queued_ids :
    (¬ forall (env : Env) (requestId : String) (history : List Input),
      env.isManagedInstanceMode = false ->
        ((Processor.new.run env history).step env
          (Command.reportOf requestId).still).Forgotten requestId) ∧
    forall bound : Nat, Exists fun requestIds : List String =>
      bound < (Processor.new.run (Env.plain false)
        (requestIds.flatMap untracedInvocation)).contextBuffer.invokeEventsRequestIds.length := by
  constructor
  · intro always
    have forgotten := always (Env.plain false) "r1"
      [(Command.invokeEvent "r1").still, (Command.runtimeDoneOf "r1" Status.success).still] rfl
    exact absurd forgotten.invokeEvents (by decide)
  · intro bound
    refine ⟨(List.range (bound + 1)).map Nat.repr, ?_⟩
    rw [invokeEvents_untraced, List.length_map, List.length_range]
    exact Nat.lt_succ_self bound

end Processor
end Lifecycle
end Bottlecap
