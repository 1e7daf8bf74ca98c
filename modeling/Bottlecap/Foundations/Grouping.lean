import Mathlib.Data.List.AList
import Mathlib.Data.List.Induction

namespace Bottlecap
namespace Foundations

/-!
# Grouping by a key

A loop that appends each item, converted, to the list of its key in a map.  In
the end every key that occurs has the items with that key, in their order, and the
lists of the map, taken in any order, hold every item once.

Loops that can fail are folds in `Except`: they succeed if every step does, and
nested loops are one loop over the items of the inner ones.
-/

/-! ## Loops that can fail -/

section Failing

variable {State Item Inner Error : Type}

/-- Whether a step fails depends on its item only: the loop succeeds exactly if
no item makes it fail. -/
theorem foldlM_isOk_iff {step : State -> Item -> Except Error State} {Safe : Item -> Prop}
    (each : forall state item, (step state item).isOk = true <-> Safe item) (items : List Item)
    (state : State) :
    (items.foldlM step state).isOk = true <-> forall item, item ∈ items -> Safe item := by
  induction items generalizing state with
  | nil => exact iff_of_true rfl (fun item member => absurd member List.not_mem_nil)
  | cons first rest ih =>
    rw [List.foldlM_cons, List.forall_mem_cons, <- each state first]
    cases stepped : step state first with
    | error => exact iff_of_false Bool.false_ne_true (fun both => Bool.false_ne_true both.1)
    | ok next =>
      change (rest.foldlM step next).isOk = true <-> _
      rw [ih next]
      exact (and_iff_right rfl).symm

/-- Steps that succeed on the items at hand. -/
theorem foldlM_eq_ok {step : State -> Item -> Except Error State} {pure : State -> Item -> State}
    {items : List Item}
    (each : forall item, item ∈ items -> forall state, step state item = Except.ok (pure state item))
    (state : State) : items.foldlM step state = Except.ok (items.foldl pure state) := by
  induction items generalizing state with
  | nil => rfl
  | cons first _ ih =>
    rw [List.forall_mem_cons] at each
    rw [List.foldlM_cons, each.1 state]
    exact ih each.2 (pure state first)

/-- A loop inside a loop. -/
theorem foldlM_flatMap (step : State -> Inner -> Except Error State) (inner : Item -> List Inner)
    (items : List Item) (state : State) :
    items.foldlM (fun state item => (inner item).foldlM step state) state =
      (items.flatMap inner).foldlM step state := by
  induction items generalizing state with
  | nil => rfl
  | cons _ _ ih =>
    rw [List.foldlM_cons, List.flatMap_cons, List.foldlM_append]
    congr 1
    funext next
    exact ih next

/-- A loop that appends what each item gives, where this is the image of a group
that has some relation to the item. -/
theorem foldlM_append_eq_ok {Group Out : Type} {give : Item -> Except Error (List Out)}
    {image : Group -> List Out} {Related : Item -> Group -> Prop} {items : List Item}
    (each : forall item, item ∈ items ->
      Exists fun group => give item = Except.ok (image group) ∧ Related item group)
    (collected : List Out) :
    Exists fun groups =>
      items.foldlM (fun collected item => (give item).map (fun given => collected ++ given))
          collected = Except.ok (collected ++ groups.flatMap image) ∧
        List.Forall₂ Related items groups := by
  induction items generalizing collected with
  | nil =>
    refine ⟨[], ?_, List.Forall₂.nil⟩
    rw [List.flatMap_nil, List.append_nil]
    rfl
  | cons first _ ih =>
    rw [List.forall_mem_cons] at each
    obtain ⟨group, given, related⟩ := each.1
    obtain ⟨groups, folded, all⟩ :=
      ih each.2 (collected ++ image group)
    refine ⟨group :: groups, ?_, List.Forall₂.cons related all⟩
    rw [List.foldlM_cons, given, List.flatMap_cons, <- List.append_assoc]
    exact folded

end Failing

/-! ## The groups -/

section Groups

variable {Key Item Out : Type} [DecidableEq Key]

/-- An item at the end of the list of its key. -/
def addToGroup (key : Item -> Key) (convert : Item -> Out)
    (groups : AList (fun _ : Key => List Out)) (item : Item) : AList (fun _ : Key => List Out) :=
  groups.insert (key item) ((groups.lookup (key item)).getD [] ++ [convert item])

def groupBy (key : Item -> Key) (convert : Item -> Out) (items : List Item) :
    AList (fun _ : Key => List Out) :=
  items.foldl (addToGroup key convert) ∅

variable (key : Item -> Key) (convert : Item -> Out)

variable {items : List Item} {entries : List (Sigma fun _ : Key => List Out)}

theorem groupBy_concat (items : List Item) (last : Item) :
    groupBy key convert (items ++ [last]) =
      addToGroup key convert (groupBy key convert items) last := by
  rw [groupBy, List.foldl_append]
  rfl

/-- The list of a key. -/
theorem lookup_groupBy (items : List Item) (wanted : Key) :
    ((groupBy key convert items).lookup wanted).getD [] =
      (items.filter (fun item => key item = wanted)).map convert := by
  induction items using List.reverseRecOn with
  | nil => rfl
  | append_singleton _ last ih =>
    rw [groupBy_concat, addToGroup, List.filter_append, List.map_append]
    by_cases same : key last = wanted
    · subst same
      rw [AList.lookup_insert, ih, List.filter_cons_of_pos (by simp)]
      rfl
    · rw [AList.lookup_insert_ne (Ne.symm same), ih,
        List.filter_cons_of_neg (by simpa using same)]
      exact (List.append_nil _).symm

theorem mem_groupBy (items : List Item) (wanted : Key) :
    wanted ∈ groupBy key convert items <->
      Exists fun item => item ∈ items ∧ key item = wanted := by
  induction items using List.reverseRecOn with
  | nil =>
    refine iff_of_false (AList.notMem_empty wanted) ?_
    rintro ⟨item, member, _⟩
    exact absurd member List.not_mem_nil
  | append_singleton _ last ih =>
    rw [groupBy_concat, addToGroup, AList.mem_insert, ih]
    constructor
    · rintro (same | ⟨item, member, same⟩)
      · exact ⟨last, List.mem_append_right _ (List.mem_singleton_self last), same.symm⟩
      · exact ⟨item, List.mem_append_left _ member, same⟩
    · rintro ⟨item, member, same⟩
      rcases List.mem_append.mp member with before | here
      · exact Or.inr ⟨item, before, same⟩
      · rw [List.mem_singleton.mp here] at same
        exact Or.inl same.symm

/-- The lists of the map, whatever their order. -/
theorem values_of_perm_groupBy (arranged : entries.Perm (groupBy key convert items).entries) :
    entries.map Sigma.snd = (entries.map Sigma.fst).map
      (fun wanted => (items.filter (fun item => key item = wanted)).map convert) := by
  rw [List.map_map]
  apply List.map_congr_left
  intro entry member
  have found : (groupBy key convert items).lookup entry.1 = some entry.2 :=
    AList.mem_lookup_iff.mpr (arranged.subset member)
  have values := lookup_groupBy key convert items entry.1
  rw [found] at values
  exact values

theorem keys_of_perm_groupBy (arranged : entries.Perm (groupBy key convert items).entries) :
    (entries.map Sigma.fst).Nodup ∧ forall wanted, wanted ∈ entries.map Sigma.fst <->
      Exists fun item => item ∈ items ∧ key item = wanted := by
  have keys : (entries.map Sigma.fst).Perm (groupBy key convert items).keys := arranged.map Sigma.fst
  refine ⟨keys.nodup_iff.mpr (groupBy key convert items).keys_nodup, ?_⟩
  intro wanted
  rw [keys.mem_iff, <- mem_groupBy key convert]
  rfl

/-! ## Partitions -/

/-- Groups that hold every item once, and two items together exactly if they have
the same key. -/
structure Partition (key : Item -> Key) (items : List Item) (groups : List (List Item)) : Prop where
  once : groups.flatten.Perm items
  together : forall first second, first ∈ items -> second ∈ items ->
    ((Exists fun group => group ∈ groups ∧ first ∈ group ∧ second ∈ group) <->
      key first = key second)

/-- The items with one of some distinct keys, key by key. -/
theorem flatten_filters_perm (items : List Item) {keys : List Key} (distinct : keys.Nodup) :
    (keys.map (fun wanted => items.filter (fun item => key item = wanted))).flatten.Perm
      (items.filter (fun item => key item ∈ keys)) := by
  induction keys with
  | nil =>
    rw [List.map_nil, List.flatten_nil]
    have none : items.filter (fun item => key item ∈ ([] : List Key)) = [] :=
      List.filter_eq_nil_iff.mpr (fun item _ => by simp)
    rw [none]
  | cons first rest ih =>
    have parts := List.nodup_cons.mp distinct
    have here : items.filter (fun item => key item = first) =
        (items.filter (fun item => key item ∈ first :: rest)).filter
          (fun item => key item = first) := by
      rw [List.filter_filter]
      apply List.filter_congr
      intro item _
      by_cases same : key item = first <;> simp [same]
    have there : items.filter (fun item => key item ∈ rest) =
        (items.filter (fun item => key item ∈ first :: rest)).filter
          (fun item => !decide (key item = first)) := by
      rw [List.filter_filter]
      apply List.filter_congr
      intro item _
      by_cases same : key item = first
      · simp [same, parts.1]
      · simp [same]
    rw [List.map_cons]
    refine ((ih parts.2).append_left _).trans ?_
    rw [here, there]
    exact List.filter_append_perm _ _

theorem partition_of_keys {keys : List Key} (distinct : keys.Nodup)
    (all : forall wanted, wanted ∈ keys <->
      Exists fun item => item ∈ items ∧ key item = wanted) :
    Partition key items
      (keys.map (fun wanted => items.filter (fun item => key item = wanted))) := by
  refine ⟨?_, ?_⟩
  · refine (flatten_filters_perm key items distinct).trans ?_
    have whole : items.filter (fun item => key item ∈ keys) = items :=
      List.filter_eq_self.mpr
        (fun item member => decide_eq_true ((all (key item)).mpr ⟨item, member, rfl⟩))
    rw [whole]
  · intro first second firstMember secondMember
    constructor
    · rintro ⟨group, member, firstIn, secondIn⟩
      obtain ⟨wanted, _, rfl⟩ := List.mem_map.mp member
      have firstKey := of_decide_eq_true (List.mem_filter.mp firstIn).2
      have secondKey := of_decide_eq_true (List.mem_filter.mp secondIn).2
      exact firstKey.trans secondKey.symm
    · intro same
      refine ⟨_, List.mem_map.mpr ⟨key first, (all (key first)).mpr ⟨first, firstMember, rfl⟩, rfl⟩,
        ?_, ?_⟩
      · exact List.mem_filter.mpr ⟨firstMember, decide_eq_true rfl⟩
      · exact List.mem_filter.mpr ⟨secondMember, decide_eq_true same.symm⟩

/-- The lists of the map are a partition of the items, converted. -/
theorem groupBy_partition (arranged : entries.Perm (groupBy key convert items).entries) :
    Exists fun groups =>
      entries.map Sigma.snd = groups.map (List.map convert) ∧ Partition key items groups := by
  obtain ⟨distinct, all⟩ := keys_of_perm_groupBy key convert arranged
  refine ⟨_, ?_, partition_of_keys key distinct all⟩
  rw [values_of_perm_groupBy key convert arranged]
  exact (List.map_map ..).symm

end Groups

end Foundations
end Bottlecap
