import Mathlib.Data.List.Basic
import Mathlib.Data.List.Count
import Mathlib.Data.List.Induction
import Mathlib.Data.List.Nodup
import Mathlib.Order.Lattice

namespace Bottlecap
namespace Foundations

/-!
# Folds and first matches

A buffer that is searched from its front acts, for each lookup, on the first
entry that matches.  `modifyFirst` is the update through such a lookup.  Its
lemmas say which entries it touches, what later lookups see, and that a
projection which the update keeps is kept for the whole list, in order.
-/

section Fold

variable {State Entry Part : Type}

/-- A part of the state that no single step touches survives a fold. -/
theorem foldl_project (part : State -> Part) (step : State -> Entry -> State)
    (keeps : forall state entry, part (step state entry) = part state)
    (entries : List Entry) (state : State) :
    part (entries.foldl step state) = part state := by
  induction entries generalizing state with
  | nil => rfl
  | cons _ _ ih => rw [List.foldl_cons, ih, keeps]

/-- What every step keeps holds after a fold. -/
theorem foldl_invariant (keeps : State -> Prop) (step : State -> Entry -> State)
    (entries : List Entry)
    (stays : forall state entry, entry ∈ entries -> keeps state -> keeps (step state entry))
    (state : State) (initial : keeps state) : keeps (entries.foldl step state) := by
  induction entries generalizing state with
  | nil => exact initial
  | cons entry _ ih =>
    exact ih (fun current later member => stays current later (List.mem_cons_of_mem entry member))
      _ (stays state entry List.mem_cons_self initial)

end Fold

section FirstMatch

variable {Entry Key : Type}

/-- Update the first entry that matches. -/
def modifyFirst (found : Entry -> Bool) (update : Entry -> Entry) : List Entry -> List Entry
  | [] => []
  | entry :: rest =>
    if found entry then update entry :: rest else entry :: modifyFirst found update rest

variable {found : Entry -> Bool} {update : Entry -> Entry}

variable {entries : List Entry} {other : Entry -> Bool}

/-- A projection the update keeps is kept for the whole list, in order. -/
theorem map_modifyFirst (key : Entry -> Key)
    (keeps : forall entry, found entry = true -> key (update entry) = key entry)
    (entries : List Entry) :
    (modifyFirst found update entries).map key = entries.map key := by
  fun_induction modifyFirst with
  | case1 => rfl
  | case2 entry _ matched => rw [List.map_cons, keeps entry matched, List.map_cons]
  | case3 _ _ _ ih => rw [List.map_cons, ih, List.map_cons]

/-- A projection under which search and update become those of another list. -/
theorem map_modifyFirst_comm (view : Entry -> Key) {seen : Key -> Bool} {change : Key -> Key}
    (same : forall entry, seen (view entry) = found entry)
    (follows : forall entry, view (update entry) = change (view entry)) (entries : List Entry) :
    (modifyFirst found update entries).map view = modifyFirst seen change (entries.map view) := by
  fun_induction modifyFirst found update entries with
  | case1 => rfl
  | case2 _ _ matched => simp only [List.map_cons, modifyFirst, same, matched, if_true, follows]
  | case3 _ _ unmatched ih => simp only [List.map_cons, modifyFirst, same, if_neg unmatched, ih]

/-- Every entry afterwards is an old one, or the updated first match. -/
theorem mem_modifyFirst {entry : Entry} (member : entry ∈ modifyFirst found update entries) :
    entry ∈ entries ∨
      Exists fun old => entries.find? found = some old ∧ entry = update old := by
  fun_induction modifyFirst with
  | case1 => cases member
  | case2 head _ matched =>
    rcases List.mem_cons.mp member with same | later
    · exact Or.inr ⟨head, List.find?_cons_of_pos matched, same⟩
    · exact Or.inl (List.mem_cons_of_mem head later)
  | case3 head _ unmatched ih =>
    rw [List.find?_cons_of_neg unmatched]
    rcases List.mem_cons.mp member with same | later
    · exact Or.inl (same ▸ List.mem_cons_self)
    · exact (ih later).imp_left (List.mem_cons_of_mem head)

theorem update_mem_modifyFirst {old : Entry} (first : entries.find? found = some old) :
    update old ∈ modifyFirst found update entries := by
  fun_induction modifyFirst with
  | case1 => cases first
  | case2 _ _ matched =>
    rw [List.find?_cons_of_pos matched] at first
    cases first
    exact List.mem_cons_self
  | case3 head _ unmatched ih =>
    rw [List.find?_cons_of_neg unmatched] at first
    exact List.mem_cons_of_mem head (ih first)

/-- A property of all entries survives if the update keeps it. -/
theorem forall_modifyFirst {property : Entry -> Prop}
    (keeps : forall entry, entries.find? found = some entry -> property entry ->
      property (update entry)) (all : forall entry, entry ∈ entries -> property entry) :
    forall entry, entry ∈ modifyFirst found update entries -> property entry := by
  intro entry member
  rcases mem_modifyFirst member with old | ⟨old, first, same⟩
  · exact all entry old
  · rw [same]
    exact keeps old first (all old (List.mem_of_find?_eq_some first))

theorem modifyFirst_of_find?_none (missing : entries.find? found = none) :
    modifyFirst found update entries = entries := by
  fun_induction modifyFirst with
  | case1 => rfl
  | case2 entry _ matched =>
    exact absurd matched (List.find?_eq_none.mp missing entry List.mem_cons_self)
  | case3 _ _ unmatched ih => rw [ih (List.find?_cons_of_neg unmatched ▸ missing)]

theorem modifyFirst_id (entries : List Entry) : modifyFirst found id entries = entries := by
  have kept : (modifyFirst found id entries).map id = entries.map id :=
    map_modifyFirst id (fun _ _ => rfl) entries
  rw [List.map_id, List.map_id] at kept
  exact kept

/-- Two updates through the same lookup are one. -/
theorem modifyFirst_modifyFirst {again : Entry -> Entry}
    (keeps : forall entry, found entry = true -> found (update entry) = true)
    (entries : List Entry) :
    modifyFirst found again (modifyFirst found update entries) =
      modifyFirst found (again ∘ update) entries := by
  fun_induction modifyFirst found update entries with
  | case1 => rfl
  | case2 entry _ matched =>
    rw [modifyFirst, modifyFirst, if_pos (keeps entry matched), if_pos matched]
    rfl
  | case3 _ _ unmatched ih => rw [modifyFirst, modifyFirst, if_neg unmatched, if_neg unmatched, ih]

/-- Among the matching entries, the first one is updated. -/
theorem filter_modifyFirst_self (keeps : forall entry, found entry = true -> found (update entry) = true)
    (entries : List Entry) :
    (modifyFirst found update entries).filter found = (entries.filter found).modifyHead update := by
  fun_induction modifyFirst with
  | case1 => rfl
  | case2 entry _ matched =>
    rw [List.filter_cons_of_pos (keeps entry matched), List.filter_cons_of_pos matched]
    rfl
  | case3 _ _ unmatched ih =>
    rw [List.filter_cons_of_neg unmatched, ih, List.filter_cons_of_neg unmatched]

theorem filter_modifyFirst_of_disjoint
    (before : forall entry, found entry = true -> other entry = false)
    (after : forall entry, found entry = true -> other (update entry) = false)
    (entries : List Entry) :
    (modifyFirst found update entries).filter other = entries.filter other := by
  fun_induction modifyFirst with
  | case1 => rfl
  | case2 entry _ matched =>
    simp only [List.filter_cons, before entry matched, after entry matched, Bool.false_eq_true,
      if_false]
  | case3 _ _ _ ih => simp only [List.filter_cons, ih]

/-- The same lookup finds the updated entry. -/
theorem find?_modifyFirst_self
    (keeps : forall entry, found entry = true -> found (update entry) = true)
    (entries : List Entry) :
    (modifyFirst found update entries).find? found = (entries.find? found).map update := by
  rw [<- List.head?_filter, filter_modifyFirst_self keeps, List.head?_modifyHead, List.head?_filter]

/-- A lookup that the updated entry matches neither before nor after the
update is not affected. -/
theorem find?_modifyFirst_of_disjoint
    (before : forall entry, found entry = true -> other entry = false)
    (after : forall entry, found entry = true -> other (update entry) = false)
    (entries : List Entry) :
    (modifyFirst found update entries).find? other = entries.find? other := by
  rw [<- List.head?_filter, filter_modifyFirst_of_disjoint before after, List.head?_filter]

/-- The first match leaves the matching entries. -/
theorem filter_modifyFirst_of_leaves (leaves : forall entry, found (update entry) = false)
    (entries : List Entry) :
    (modifyFirst found update entries).filter found = (entries.filter found).tail := by
  fun_induction modifyFirst with
  | case1 => rfl
  | case2 entry _ matched =>
    rw [List.filter_cons_of_pos matched, List.filter_cons_of_neg (by rw [leaves entry]; nofun)]
    rfl
  | case3 _ _ unmatched ih =>
    rw [List.filter_cons_of_neg unmatched, ih, List.filter_cons_of_neg unmatched]

theorem length_modifyFirst (entries : List Entry) :
    (modifyFirst found update entries).length = entries.length := by
  have kept := congrArg List.length (map_modifyFirst (fun _ => ()) (fun _ _ => rfl) entries :
    (modifyFirst found update entries).map (fun _ => ()) = entries.map (fun _ => ()))
  rw [List.length_map, List.length_map] at kept
  exact kept

/-- Entries stay distinct when one becomes an entry that is not there. -/
theorem nodup_modifyFirst_const {new : Entry} (distinct : entries.Nodup) (fresh : new ∉ entries) :
    (modifyFirst found (fun _ => new) entries).Nodup := by
  fun_induction modifyFirst with
  | case1 => exact List.nodup_nil
  | case2 => exact List.nodup_cons.mpr ⟨List.not_mem_of_not_mem_cons fresh, distinct.of_cons⟩
  | case3 _ _ _ ih =>
    rcases List.nodup_cons.mp distinct with ⟨absent, later⟩
    rcases not_or.mp (mt List.mem_cons.mpr fresh) with ⟨other, away⟩
    refine List.nodup_cons.mpr ⟨?_, ih later away⟩
    intro member
    rcases mem_modifyFirst member with old | ⟨_, _, same⟩
    · exact absent old
    · exact other same.symm

/-- One update adds at most one entry to a selection. -/
theorem length_filter_modifyFirst (other : Entry -> Bool) (entries : List Entry) :
    ((modifyFirst found update entries).filter other).length <=
      (entries.filter other).length + 1 := by
  fun_induction modifyFirst with
  | case1 => exact Nat.zero_le _
  | case2 entry rest =>
    have kept : (rest.filter other).length <= ((entry :: rest).filter other).length :=
      ((List.sublist_cons_self entry rest).filter other).length_le
    have added := List.length_filter_le other [update entry]
    rw [<- List.singleton_append, List.filter_append, List.length_append]
    exact Nat.add_comm _ 1 ▸ Nat.add_le_add added kept
  | case3 _ _ _ ih =>
    simp only [List.filter_cons]
    split
    · exact Nat.succ_le_succ ih
    · exact ih

theorem filter_eraseP_self (entries : List Entry) :
    (entries.eraseP found).filter found = (entries.filter found).tail := by
  induction entries with
  | nil => rfl
  | cons entry _ ih =>
    cases matched : found entry with
    | true => simp only [List.eraseP_cons, matched, cond_true, List.filter_cons_of_pos, List.tail_cons]
    | false =>
      rw [List.eraseP_cons_of_neg (by simp only [matched, Bool.false_eq_true, not_false_eq_true])]
      simp only [List.filter_cons, matched, Bool.false_eq_true, if_false, ih]

theorem filter_eraseP_of_disjoint
    (disjoint : forall entry, found entry = true -> other entry = false) (entries : List Entry) :
    (entries.eraseP found).filter other = entries.filter other := by
  induction entries with
  | nil => rfl
  | cons entry _ ih =>
    cases matched : found entry with
    | true =>
      simp only [List.eraseP_cons, matched, cond_true, List.filter_cons, disjoint entry matched,
        Bool.false_eq_true, if_false]
    | false =>
      simp only [List.eraseP_cons, matched, cond_false, List.filter_cons, ih]

end FirstMatch

section Keyed

/-!
## Writes to entries with distinct keys
-/

variable {Entry Key Write : Type} [DecidableEq Key] (key : Entry -> Key)

theorem modifyFirst_eq_map {wanted : Key} {update : Entry -> Entry} {entries : List Entry}
    (distinct : (entries.map key).Nodup) :
    modifyFirst (fun entry => key entry == wanted) update entries =
      entries.map (fun entry => if key entry = wanted then update entry else entry) := by
  induction entries with
  | nil => rfl
  | cons entry rest ih =>
    rw [List.map_cons, List.nodup_cons] at distinct
    by_cases matched : key entry = wanted
    · have others : rest.map (fun entry => if key entry = wanted then update entry else entry) =
          rest := by
        rw [List.map_congr_left, List.map_id]
        intro later member
        apply if_neg
        intro again
        exact distinct.1 (List.mem_map.mpr ⟨later, member, again.trans matched.symm⟩)
      rw [List.map_cons, others]
      simp only [modifyFirst, matched, beq_self_eq_true, if_true]
    · rw [List.map_cons, if_neg matched, <- ih distinct.2]
      simp only [modifyFirst, beq_eq_false_iff_ne.mpr matched, Bool.false_eq_true, if_false]

/-- Writes to different keys act independently: each entry takes the one write to
its key. -/
theorem foldl_modifyFirst_eq_map (target : Write -> Key) (change : Write -> Entry -> Entry)
    (keeps : forall write entry, key (change write entry) = key entry) {writes : List Write}
    (separate : (writes.map target).Nodup) {entries : List Entry}
    (distinct : (entries.map key).Nodup) :
    writes.foldl (fun current write =>
        modifyFirst (fun entry => key entry == target write) (change write) current) entries =
      entries.map (fun entry =>
        ((writes.find? (fun write => target write == key entry)).map
          (fun write => change write entry)).getD entry) := by
  induction writes generalizing entries with
  | nil => exact (List.map_id entries).symm
  | cons write rest ih =>
    rw [List.map_cons, List.nodup_cons] at separate
    have keys : (entries.map (fun entry => if key entry = target write then change write entry
        else entry)).map key = entries.map key := by
      rw [List.map_map]
      apply List.map_congr_left
      intro entry _
      rw [Function.comp_apply, apply_ite key, keeps, ite_self]
    rw [List.foldl_cons, modifyFirst_eq_map key distinct, ih separate.2 (keys ▸ distinct),
      List.map_map]
    apply List.map_congr_left
    intro entry _
    rw [Function.comp_apply, List.find?_cons]
    by_cases matched : key entry = target write
    · have untouched : rest.find? (fun later => target later == target write) = none := by
        rw [List.find?_eq_none]
        intro later member same
        exact separate.1 (List.mem_map.mpr ⟨later, member, eq_of_beq same⟩)
      rw [if_pos matched, keeps, matched, untouched, beq_self_eq_true]
      rfl
    · rw [if_neg matched, beq_eq_false_iff_ne.mpr (Ne.symm matched)]

end Keyed

section Position

variable {Entry Key : Type}

theorem map_modify (key : Entry -> Key) {update : Entry -> Entry}
    (keeps : forall entry, key (update entry) = key entry) (entries : List Entry) (index : Nat) :
    (entries.modify index update).map key = entries.map key := by
  induction entries generalizing index with
  | nil => cases index <;> rfl
  | cons _ _ ih =>
    cases index with
    | zero => simp only [List.modify_zero_cons, List.map_cons, keeps]
    | succ => simp only [List.modify_succ_cons, List.map_cons, ih]

/-- A property of all entries survives if the update keeps it where it acts. -/
theorem forall_modify {property : Entry -> Prop} {update : Entry -> Entry} {entries : List Entry}
    {index : Nat}
    (keeps : forall entry, entries[index]? = some entry -> property entry -> property (update entry))
    (all : forall entry, entry ∈ entries -> property entry) :
    forall entry, entry ∈ entries.modify index update -> property entry := by
  induction entries generalizing index with
  | nil =>
    intro entry member
    cases index <;> cases member
  | cons head rest ih =>
    have later : forall entry, entry ∈ rest -> property entry :=
      fun entry member => all entry (List.mem_cons_of_mem head member)
    cases index with
    | zero =>
      exact List.forall_mem_cons.mpr ⟨keeps head rfl (all head List.mem_cons_self), later⟩
    | succ =>
      exact List.forall_mem_cons.mpr ⟨all head List.mem_cons_self, ih keeps later⟩

end Position

section Least

variable {Entry Amount : Type} [LinearOrder Amount] (measure : Entry -> Amount)

/-- The loop that keeps the position of the smallest entry so far, starting from a bound. -/
def scanLeast (entries : List (Entry × Nat)) (least : Amount × Option Nat) :
    Amount × Option Nat :=
  entries.foldl (fun least entry =>
    if measure entry.1 < least.1 then (measure entry.1, some entry.2) else least) least

/-- The loop finds the first of the least entries below the bound, if there is one. -/
theorem scanLeast_cases (entries : List Entry) (offset : Nat) (least : Amount × Option Nat) :
    (scanLeast measure (entries.zipIdx offset) least = least ∧
        forall entry, entry ∈ entries -> least.1 <= measure entry) ∨
      Exists fun before => Exists fun entry => Exists fun after =>
        entries = before ++ entry :: after ∧
          scanLeast measure (entries.zipIdx offset) least =
            (measure entry, some (offset + before.length)) ∧
          measure entry < least.1 ∧
          (forall other, other ∈ before -> measure entry < measure other) ∧
          forall other, other ∈ after -> measure entry <= measure other := by
  induction entries generalizing offset least with
  | nil => exact Or.inl ⟨rfl, nofun⟩
  | cons head rest ih =>
    rw [scanLeast, List.zipIdx_cons, List.foldl_cons]
    by_cases smaller : measure head < least.1
    · simp only [smaller, if_true]
      right
      rcases ih (offset + 1) (measure head, some offset) with ⟨same, bounds⟩ |
        ⟨before, entry, after, split, found, below, strict, weak⟩
      · exact ⟨[], head, rest, rfl, same, smaller, nofun, bounds⟩
      · refine ⟨head :: before, entry, after, by rw [split]; rfl, ?_, below.trans smaller, ?_, weak⟩
        · change scanLeast measure (rest.zipIdx (offset + 1)) _ = _
          rw [found, List.length_cons, Nat.add_assoc, Nat.add_comm 1]
        · exact List.forall_mem_cons.mpr ⟨below, strict⟩
    · simp only [smaller, if_false]
      rcases ih (offset + 1) least with ⟨same, bounds⟩ |
        ⟨before, entry, after, split, found, below, strict, weak⟩
      · exact Or.inl ⟨same, List.forall_mem_cons.mpr ⟨not_lt.mp smaller, bounds⟩⟩
      · right
        refine ⟨head :: before, entry, after, by rw [split]; rfl, ?_, below, ?_, weak⟩
        · change scanLeast measure (rest.zipIdx (offset + 1)) _ = _
          rw [found, List.length_cons, Nat.add_assoc, Nat.add_comm 1]
        · exact List.forall_mem_cons.mpr ⟨below.trans_le (not_lt.mp smaller), strict⟩

end Least

section Filtered

variable {Entry Result : Type}

/-- The entries that are kept, converted, with a change to the one that stood at
`index` in the whole list. -/
def keptWithChange (keep : Entry -> Bool) (convert : Entry -> Result) (change : Result -> Result)
    (index : Nat) (entries : List Entry) : List Result :=
  (entries.zipIdx.filter (fun placed => keep placed.1)).map
    (fun placed => if placed.2 = index then change (convert placed.1) else convert placed.1)

variable {keep : Entry -> Bool} {convert : Entry -> Result} {change : Result -> Result}

variable {index : Nat} {entries : List Entry}

/-- Away from the index nothing is changed. -/
theorem map_filter_zipIdx_of_outside (entries : List Entry) (start : Nat)
    (outside : index < start ∨ start + entries.length <= index) :
    ((entries.zipIdx start).filter (fun placed => keep placed.1)).map
        (fun placed => if placed.2 = index then change (convert placed.1) else convert placed.1) =
      (entries.filter keep).map convert := by
  induction entries generalizing start with
  | nil => rfl
  | cons entry _ ih =>
    rw [List.length_cons] at outside
    have different : start ≠ index := by omega
    have later := ih (start + 1) (by omega)
    rw [List.zipIdx_cons, List.filter_cons, List.filter_cons]
    by_cases kept : keep entry = true
    · rw [if_pos kept, if_pos kept, List.map_cons, List.map_cons, later, if_neg different]
    · rw [if_neg kept, if_neg kept, later]

theorem keptWithChange_append_cons (before after : List Entry) (entry : Entry) :
    keptWithChange keep convert change before.length (before ++ entry :: after) =
      (before.filter keep).map convert ++
        ((if keep entry then [change (convert entry)] else []) ++ (after.filter keep).map convert) := by
  rw [keptWithChange, List.zipIdx_append, List.filter_append, List.map_append,
    map_filter_zipIdx_of_outside before 0 (by omega), List.zipIdx_cons, List.filter_cons]
  by_cases kept : keep entry = true
  · rw [if_pos kept, if_pos kept, List.map_cons, map_filter_zipIdx_of_outside after _ (by omega),
      if_pos (by omega), List.singleton_append]
  · rw [if_neg kept, if_neg kept, map_filter_zipIdx_of_outside after _ (by omega), List.nil_append]

theorem modify_append_cons (before after : List Result) (entry : Result) :
    (before ++ entry :: after).modify before.length change = before ++ change entry :: after := by
  induction before with
  | nil => rfl
  | cons first _ ih => exact congrArg (List.cons first) ih

theorem split_of_getElem? {entry : Entry} (found : entries[index]? = some entry) :
    entries = entries.take index ++ entry :: entries.drop (index + 1) ∧
      (entries.take index).length = index := by
  rcases List.getElem?_eq_some_iff.mp found with ⟨inside, same⟩
  refine ⟨?_, List.length_take_of_le (Nat.le_of_lt inside)⟩
  rw [<- same, <- List.drop_eq_getElem_cons inside, List.take_append_drop]

/-- The entry at the index moves down by the number of entries dropped before it. -/
theorem keptWithChange_of_kept {entry : Entry} (found : entries[index]? = some entry)
    (kept : keep entry = true) :
    keptWithChange keep convert change index entries =
      ((entries.filter keep).map convert).modify ((entries.take index).countP keep) change := by
  rcases split_of_getElem? found with ⟨split, length_eq⟩
  generalize entries.take index = before at split length_eq
  have count : before.countP keep = ((before.filter keep).map convert).length := by
    rw [List.length_map, List.countP_eq_length_filter]
  rw [split, <- length_eq, keptWithChange_append_cons, if_pos kept, List.singleton_append, count,
    List.filter_append, List.filter_cons, if_pos kept, List.map_append, List.map_cons,
    modify_append_cons]

theorem keptWithChange_of_dropped {entry : Entry} (found : entries[index]? = some entry)
    (dropped : ¬ keep entry = true) :
    keptWithChange keep convert change index entries = (entries.filter keep).map convert := by
  rcases split_of_getElem? found with ⟨split, length_eq⟩
  generalize entries.take index = before at split length_eq
  rw [split, <- length_eq, keptWithChange_append_cons, if_neg dropped, List.nil_append,
    List.filter_append, List.filter_cons, if_neg dropped, List.map_append]

/-- A change that is visible everywhere shows where it was made. -/
theorem modify_eq_modify_iff {results : List Result} {first second : Nat}
    (visible : forall result, change result ≠ result) (inside : first < results.length) :
    results.modify second change = results.modify first change <-> second = first := by
  constructor
  · intro equal
    by_contra different
    have entry := congrArg (fun list => list[first]?) equal
    simp only [List.getElem?_modify, if_neg different, List.getElem?_eq_getElem inside] at entry
    exact visible _ (Option.some.inj entry).symm
  · intro same
    rw [same]

theorem modify_eq_self_iff {results : List Result}
    (visible : forall result, change result ≠ result) :
    results.modify index change = results <-> results.length <= index := by
  constructor
  · intro equal
    by_contra less
    have inside : index < results.length := Nat.lt_of_not_le less
    have entry := congrArg (fun list => list[index]?) equal
    simp only [List.getElem?_modify, List.getElem?_eq_getElem inside] at entry
    exact visible _ (Option.some.inj entry)
  · intro outside
    rw [List.modify_eq_set_getElem?, List.getElem?_eq_none outside]
    rfl

end Filtered

/-- The only entry that meets a predicate. -/
theorem exists_split_of_countP_eq_one {Entry : Type} {meets : Entry -> Bool} {entries : List Entry}
    (once : entries.countP meets = 1) :
    Exists fun before => Exists fun entry => Exists fun after =>
      entries = before ++ entry :: after ∧ meets entry = true ∧
        forall other, other ∈ before ++ after -> meets other = false := by
  rw [List.countP_eq_length_filter] at once
  rcases List.length_eq_one_iff.mp once with ⟨entry, only⟩
  rcases List.filter_eq_cons_iff.mp only with ⟨before, after, split, none, met, rest⟩
  refine ⟨before, entry, after, split, met, ?_⟩
  simp only [Bool.eq_false_iff]
  exact List.forall_mem_append.mpr ⟨none, List.filter_eq_nil_iff.mp rest⟩

/-- A place in a list that is extended is the last one, or one of the list. -/
theorem concat_eq_split {Entry : Type} {front before after : List Entry} {last entry : Entry}
    (split : front ++ [last] = before ++ entry :: after) :
    (front = before ∧ last = entry ∧ after = []) ∨ Exists fun rest =>
      after = rest ++ [last] ∧ front = before ++ entry :: rest := by
  cases after using List.reverseRecOn with
  | nil =>
    rcases List.append_inj' split rfl with ⟨same, ends⟩
    exact Or.inl ⟨same, (List.cons.inj ends).1, rfl⟩
  | append_singleton rest =>
    rw [<- List.cons_append, <- List.append_assoc] at split
    rcases List.append_inj' split rfl with ⟨same, ends⟩
    exact Or.inr ⟨rest, by rw [ends], same⟩

/-- `List.Nodup.concat`, for an entry appended. -/
theorem nodup_snoc {Entry : Type} {entries : List Entry} {entry : Entry} (distinct : entries.Nodup)
    (fresh : entry ∉ entries) : (entries ++ [entry]).Nodup := by
  rw [<- List.concat_eq_append]
  exact distinct.concat fresh

end Foundations
end Bottlecap
