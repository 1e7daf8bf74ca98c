import Mathlib.Data.List.AList

namespace Bottlecap
namespace Foundations

/-!
# Rendezvous of two event streams

Two events of the same party, an opening and an arrival, may come in either
order and have to be handled together.  Whichever comes first is filed.  An
arrival that names its party is filed under that name; one that does not is
filed in order, and so is every opening.

An opening first takes the arrival filed under its own name.  Failing that it
may take the oldest unnamed arrival, and otherwise it waits.  An arrival with a
name takes the opening of that name, one without a name takes the oldest
opening.
-/

/-- The events that still wait for their counterpart. -/
structure Rendezvous (Id Event : Type) where
  waiting : List Id
  queued : List Event
  keyed : AList (fun _ : Id => Event)

namespace Rendezvous

variable {Id Event : Type}

/-- Openings and unnamed arrivals meet in order. -/
def openNext (id : Id) (meeting : Rendezvous Id Event) :
    Option Event × Rendezvous Id Event :=
  match meeting.queued with
  | event :: rest => (some event, { meeting with queued := rest })
  | [] => (none, { meeting with waiting := meeting.waiting ++ [id] })

def arriveNext (event : Event) (meeting : Rendezvous Id Event) :
    Option Id × Rendezvous Id Event :=
  match meeting.waiting with
  | id :: rest => (some id, { meeting with waiting := rest })
  | [] => (none, { meeting with queued := meeting.queued ++ [event] })

variable [DecidableEq Id]

/-- A named arrival finds its opening, or replaces what is filed under its
name. -/
def arriveFor (id : Id) (event : Event) (meeting : Rendezvous Id Event) :
    Bool × Rendezvous Id Event :=
  if id ∈ meeting.waiting then
    (true, { meeting with waiting := meeting.waiting.erase id })
  else
    (false, { meeting with keyed := meeting.keyed.insert id event })

def takeFor (id : Id) (meeting : Rendezvous Id Event) :
    Option Event × Rendezvous Id Event :=
  (meeting.keyed.lookup id, { meeting with keyed := meeting.keyed.erase id })

/-- An opening: by name, then in order if `inOrder` allows it. -/
def opens (inOrder : Bool) (id : Id) (meeting : Rendezvous Id Event) :
    Option Event × Rendezvous Id Event :=
  let named := meeting.takeFor id
  if named.1.isNone && inOrder then named.2.openNext id else named

variable {id : Id} {event : Event} {meeting : Rendezvous Id Event}

theorem opens_of_named {inOrder : Bool} (named : (meeting.takeFor id).1 = some event) :
    meeting.opens inOrder id = meeting.takeFor id := by
  unfold opens
  simp only [named, Option.isNone_some, Bool.false_and, Bool.false_eq_true, if_false]

theorem opens_inOrder_of_unnamed (unnamed : (meeting.takeFor id).1 = none) :
    meeting.opens true id = (meeting.takeFor id).2.openNext id := by
  unfold opens
  simp only [unnamed, Option.isNone_none, Bool.and_self, if_true]

theorem opens_false (id : Id) (meeting : Rendezvous Id Event) :
    meeting.opens false id = meeting.takeFor id := by
  unfold opens
  simp only [Bool.and_false, Bool.false_eq_true, if_false]

/-- An arrival, with the opening it meets. -/
def arrives (id : Option Id) (event : Event) (meeting : Rendezvous Id Event) :
    Option Id × Rendezvous Id Event :=
  match id with
  | some name =>
    let named := meeting.arriveFor name event
    (if named.1 then some name else none, named.2)
  | none => meeting.arriveNext event

/-! ## What is filed -/

theorem waiting_opens_sublist (inOrder : Bool) (id : Id) (meeting : Rendezvous Id Event) :
    (meeting.opens inOrder id).2.waiting.Sublist (meeting.waiting ++ [id]) := by
  have kept : meeting.waiting.Sublist (meeting.waiting ++ [id]) :=
    List.sublist_append_left meeting.waiting [id]
  unfold opens openNext takeFor
  simp only
  split
  · split
    · exact kept
    · exact List.Sublist.refl _
  · exact kept

theorem keyed_opens (inOrder : Bool) (id : Id) (meeting : Rendezvous Id Event) :
    (meeting.opens inOrder id).2.keyed = meeting.keyed.erase id := by
  unfold opens openNext takeFor
  simp only
  split
  · split <;> rfl
  · rfl

theorem waiting_arrives_sublist (name : Option Id) (event : Event) (meeting : Rendezvous Id Event) :
    (meeting.arrives name event).2.waiting.Sublist meeting.waiting := by
  cases name with
  | none =>
    unfold arrives arriveNext
    simp only
    split
    · rename_i first rest waiting
      rw [waiting]
      exact List.sublist_cons_self first rest
    · exact List.Sublist.refl _
  | some =>
    unfold arrives arriveFor
    simp only
    split
    · exact List.erase_sublist
    · exact List.Sublist.refl _

/-- An arrival meets an opening that waited. -/
theorem mem_waiting_of_arrives {name : Option Id} (met : (meeting.arrives name event).1 = some id) :
    id ∈ meeting.waiting := by
  cases name with
  | none =>
    unfold arrives arriveNext at met
    simp only at met
    split at met
    · rename_i first rest waiting
      cases met
      rw [waiting]
      exact List.mem_cons_self
    · cases met
  | some other =>
    unfold arrives arriveFor at met
    by_cases waits : other ∈ meeting.waiting
    · simp only [if_pos waits, if_true] at met
      cases met
      exact waits
    · simp only [if_neg waits, Bool.false_eq_true, if_false] at met
      cases met

theorem eq_of_arrives {name : Id} (met : (meeting.arrives (some name) event).1 = some id) :
    name = id := by
  unfold arrives at met
  simp only at met
  split at met
  · exact Option.some.inj met
  · cases met

theorem mem_keyed_arrives {name : Option Id} (filed : id ∈ (meeting.arrives name event).2.keyed) :
    id ∈ meeting.keyed ∨ name = some id := by
  cases name with
  | none =>
    unfold arrives arriveNext at filed
    simp only at filed
    split at filed <;> exact Or.inl filed
  | some =>
    unfold arrives arriveFor at filed
    simp only at filed
    split at filed
    · exact Or.inl filed
    · rcases (AList.mem_insert _).mp filed with same | old
      · exact Or.inr (congrArg some same.symm)
      · exact Or.inl old

/-! ## Parties without a filed event -/

/-- Nothing is filed under the name of the party. -/
def Free (id : Id) (meeting : Rendezvous Id Event) : Prop :=
  id ∉ meeting.waiting ∧ id ∉ meeting.keyed

theorem free_takeFor {other : Id} (meeting : Rendezvous Id Event) :
    (meeting.takeFor other).2.Free id <->
      id ∉ meeting.waiting ∧ (id = other ∨ id ∉ meeting.keyed) := by
  unfold takeFor Free
  simp only [AList.mem_erase, not_and_or, not_not]

omit [DecidableEq Id] in
/-- An opening is filed unless an unnamed arrival is there for it. -/
theorem free_openNext {other : Id} (meeting : Rendezvous Id Event) :
    (meeting.openNext other).2.Free id <->
      meeting.Free id ∧ (id = other -> meeting.queued ≠ []) := by
  unfold openNext Free
  cases queued : meeting.queued with
  | nil =>
    simp only [List.mem_append, List.mem_singleton, not_or, ne_eq, not_true_eq_false]
    exact ⟨fun free => ⟨⟨free.1.1, free.2⟩, free.1.2⟩, fun free => ⟨⟨free.1.1, free.2⟩, free.1.2⟩⟩
  | cons =>
    simp only [ne_eq, reduceCtorEq, not_false_eq_true, implies_true, and_true]

theorem free_opens_other {other : Id} (different : id ≠ other) (inOrder : Bool)
    (meeting : Rendezvous Id Event) :
    (meeting.opens inOrder other).2.Free id <-> meeting.Free id := by
  have taken : (meeting.takeFor other).2.Free id <-> meeting.Free id := by
    rw [free_takeFor]
    unfold Free
    simp only [different, false_or]
  unfold opens
  simp only
  split
  · rw [free_openNext, taken]
    simp only [different, false_implies, and_true]
  · exact taken

/-- An opening leaves nothing filed under its own name if it finds an arrival, or
if it does not wait. -/
theorem free_opens_self (inOrder : Bool) (id : Id) (meeting : Rendezvous Id Event) :
    (meeting.opens inOrder id).2.Free id <->
      id ∉ meeting.waiting ∧ (inOrder = false ∨ id ∈ meeting.keyed ∨ meeting.queued ≠ []) := by
  have taken : (meeting.takeFor id).2.Free id <-> id ∉ meeting.waiting := by
    rw [free_takeFor]
    simp only [true_or, and_true]
  have queued : (meeting.takeFor id).2.queued = meeting.queued := rfl
  have named : (meeting.takeFor id).1.isNone = true <-> id ∉ meeting.keyed := by
    rw [Option.isNone_iff_eq_none]
    exact AList.lookup_eq_none
  unfold opens
  simp only [Bool.and_eq_true]
  split
  · rename_i waits
    rw [free_openNext, taken, queued]
    simp only [named.mp waits.1, waits.2, Bool.true_eq_false, false_or, forall_const]
  · rename_i meets
    rw [taken]
    refine ⟨fun absent => ⟨absent, ?_⟩, fun both => both.1⟩
    cases inOrder with
    | false => exact Or.inl rfl
    | true =>
      refine Or.inr (Or.inl ?_)
      by_contra unnamed
      exact meets ⟨named.mpr unnamed, rfl⟩

/-- An arrival is filed under its name. -/
theorem free_arrives (free : meeting.Free id) (name : Option Id) (event : Event) :
    (meeting.arrives name event).2.Free id <-> name ≠ some id := by
  unfold arrives
  cases name with
  | none =>
    refine ⟨fun _ => Option.some_ne_none id |>.symm, fun _ => ?_⟩
    unfold arriveNext
    cases waiting : meeting.waiting with
    | nil =>
      refine ⟨?_, free.2⟩
      exact List.not_mem_nil
    | cons first =>
      refine ⟨fun later => free.1 ?_, free.2⟩
      rw [waiting]
      exact List.mem_cons_of_mem first later
  | some other =>
    unfold arriveFor
    simp only
    by_cases same : other = id
    · subst same
      rw [if_neg free.1]
      refine ⟨fun kept => absurd ((AList.mem_insert _).mpr (Or.inl rfl)) kept.2, fun different => ?_⟩
      exact absurd rfl different
    · refine ⟨fun _ equal => same (Option.some.inj equal), fun _ => ?_⟩
      split
      · exact ⟨fun member => free.1 (List.mem_of_mem_erase member), free.2⟩
      · refine ⟨free.1, fun member => ?_⟩
        rcases (AList.mem_insert _).mp member with equal | old
        · exact same equal.symm
        · exact free.2 old

/-! ## One party at a time

While no unnamed arrival is queued, a party meets only itself, and the rest of the
rendezvous does not see it. -/

/-- What a party sees: how often it waits, and the arrival filed for it. -/
structure Slot (Event : Type) where
  waiting : Nat
  filed : Option Event

def slot (id : Id) (meeting : Rendezvous Id Event) : Slot Event :=
  ⟨meeting.waiting.count id, meeting.keyed.lookup id⟩

theorem queued_opens (empty : meeting.queued = []) (inOrder : Bool) (id : Id) :
    (meeting.opens inOrder id).2.queued = [] := by
  unfold opens openNext takeFor
  simp only [empty]
  split <;> rfl

theorem queued_arrives (name : Id) (event : Event) (meeting : Rendezvous Id Event) :
    (meeting.arrives (some name) event).2.queued = meeting.queued := by
  unfold arrives arriveFor
  simp only
  split <;> rfl

theorem slot_opens_other {other : Id} (different : other ≠ id) (inOrder : Bool)
    (meeting : Rendezvous Id Event) :
    (meeting.opens inOrder other).2.slot id = meeting.slot id := by
  have kept : (meeting.keyed.erase other).lookup id = meeting.keyed.lookup id :=
    AList.lookup_erase_ne (Ne.symm different)
  unfold opens openNext takeFor slot
  simp only
  split
  · split
    · simp only [kept]
    · simp only [kept, List.count_append, List.count_singleton, beq_eq_false_iff_ne.mpr different,
        Bool.false_eq_true, if_false, Nat.add_zero]
  · simp only [kept]

theorem slot_arrives_other {name : Id} (different : name ≠ id) (event : Event)
    (meeting : Rendezvous Id Event) :
    (meeting.arrives (some name) event).2.slot id = meeting.slot id := by
  have kept : (meeting.keyed.insert name event).lookup id = meeting.keyed.lookup id :=
    AList.lookup_insert_ne (Ne.symm different)
  unfold arrives arriveFor slot
  simp only
  split
  · simp only [List.count_erase_of_ne (Ne.symm different)]
  · simp only [kept]

/-- An opening takes the arrival filed for it. -/
theorem opens_of_filed (filed : (meeting.slot id).filed = some event) (inOrder : Bool) :
    (meeting.opens inOrder id).1 = some event ∧
      (meeting.opens inOrder id).2.slot id = ⟨(meeting.slot id).waiting, none⟩ := by
  have named : (meeting.takeFor id).1 = some event := filed
  rw [opens_of_named named]
  refine ⟨named, ?_⟩
  unfold takeFor slot
  simp only [AList.lookup_erase]

/-- Otherwise it waits, if it may. -/
theorem opens_of_unfiled (filed : (meeting.slot id).filed = none) (empty : meeting.queued = [])
    (inOrder : Bool) :
    (meeting.opens inOrder id).1 = none ∧
      (meeting.opens inOrder id).2.slot id =
        ⟨(meeting.slot id).waiting + if inOrder then 1 else 0, none⟩ := by
  have unnamed : (meeting.takeFor id).1 = none := filed
  cases inOrder with
  | false =>
    rw [opens_false]
    refine ⟨unnamed, ?_⟩
    unfold takeFor slot
    simp only [AList.lookup_erase, Bool.false_eq_true, if_false, Nat.add_zero]
  | true =>
    rw [opens_inOrder_of_unnamed unnamed]
    unfold openNext takeFor slot
    simp only [empty, AList.lookup_erase, List.count_append, List.count_singleton_self, if_true,
      and_self]

theorem arrives_of_waiting (waits : (meeting.slot id).waiting ≠ 0) (event : Event) :
    (meeting.arrives (some id) event).1 = some id ∧
      (meeting.arrives (some id) event).2.slot id =
        ⟨(meeting.slot id).waiting - 1, (meeting.slot id).filed⟩ := by
  have member : id ∈ meeting.waiting := List.count_pos_iff.mp (Nat.pos_of_ne_zero waits)
  unfold arrives arriveFor slot
  simp only [if_pos member, if_true, List.count_erase_self, and_self]

theorem arrives_of_unwaited (waits : (meeting.slot id).waiting = 0) (event : Event) :
    (meeting.arrives (some id) event).1 = none ∧
      (meeting.arrives (some id) event).2.slot id = ⟨0, some event⟩ := by
  have missing : id ∉ meeting.waiting := List.count_eq_zero.mp waits
  unfold arrives arriveFor slot
  simp only [if_neg missing, Bool.false_eq_true, if_false, AList.lookup_insert,
    List.count_eq_zero.mpr missing, and_self]

end Rendezvous
end Foundations
end Bottlecap
