import Mathlib.Data.List.AList
import Mathlib.Data.List.Induction

namespace Bottlecap
namespace Foundations

/-!
# Runs of equal keys

Pairs grouped by runs of equal keys, as `chunk_by` of the `itertools` crate does,
and pairs collected into a map, where a later pair replaces an earlier one with
its key.  Collecting the runs loses nothing exactly if no key has two of them,
which is the case if no key comes back after another one.
-/

variable {Key Item : Type} [DecidableEq Key]

/-- A pair in front of the runs of the others. -/
def addToRuns (pair : Key × Item) : List (Key × List Item) -> List (Key × List Item)
  | [] => [(pair.1, [pair.2])]
  | (next, items) :: others =>
    if pair.1 = next then (next, pair.2 :: items) :: others
    else (pair.1, [pair.2]) :: (next, items) :: others

/-- The runs of equal keys. -/
def runs (pairs : List (Key × Item)) : List (Key × List Item) :=
  pairs.foldr addToRuns []

/-- The pairs as a map. -/
def collect (pairs : List (Key × Item)) : AList (fun _ : Key => Item) :=
  pairs.foldl (fun map pair => map.insert pair.1 pair.2) ∅

/-- The items of a key, in order. -/
def itemsOf (key : Key) (pairs : List (Key × Item)) : List Item :=
  (pairs.filter (fun pair => pair.1 = key)).map Prod.snd

/-- No key comes back after a different one. -/
def Contiguous (keys : List Key) : Prop :=
  forall key between, between ≠ key -> ¬ [key, between, key].Sublist keys

/-! ## Collecting -/

variable (pairs : List (Key × Item))

theorem collect_concat (last : Key × Item) :
    collect (pairs ++ [last]) = (collect pairs).insert last.1 last.2 := by
  rw [collect, List.foldl_append]
  rfl

variable (rest : List (Key × Item)) (key : Key)

theorem itemsOf_append (earlier later : List (Key × Item)) :
    itemsOf key (earlier ++ later) = itemsOf key earlier ++ itemsOf key later := by
  rw [itemsOf, List.filter_append, List.map_append]
  rfl

theorem length_itemsOf : (itemsOf key pairs).length = (pairs.map Prod.fst).count key := by
  rw [itemsOf, List.length_map, List.count, List.countP_map, List.countP_eq_length_filter]
  rfl

theorem itemsOf_eq_nil_iff :
    itemsOf key pairs = [] <-> key ∉ pairs.map Prod.fst := by
  rw [<- List.length_eq_zero_iff, length_itemsOf, List.count_eq_zero]

/-- The last item of a key is found under it. -/
theorem lookup_collect : (collect pairs).lookup key = (itemsOf key pairs).getLast? := by
  induction pairs using List.reverseRecOn with
  | nil => rfl
  | append_singleton _ last ih =>
    rw [collect_concat, itemsOf_append]
    by_cases same : key = last.1
    · rw [same, AList.lookup_insert]
      simp [itemsOf]
    · rw [AList.lookup_insert_ne same, ih]
      simp [itemsOf, Ne.symm same]

theorem lookup_collect_of_not_mem {key : Key} {pairs : List (Key × Item)}
    (absent : key ∉ pairs.map Prod.fst) : (collect pairs).lookup key = none := by
  rw [lookup_collect, (itemsOf_eq_nil_iff pairs key).mpr absent]
  rfl

/-- Pairs with distinct keys are found under their keys. -/
theorem lookup_collect_of_mem {pairs : List (Key × Item)}
    (distinct : (pairs.map Prod.fst).Nodup) {key : Key} {item : Item}
    (member : (key, item) ∈ pairs) : (collect pairs).lookup key = some item := by
  have listed : item ∈ itemsOf key pairs :=
    List.mem_map.mpr ⟨(key, item), List.mem_filter.mpr ⟨member, decide_eq_true rfl⟩, rfl⟩
  have single := length_itemsOf pairs key
  rw [List.count_eq_one_of_mem distinct (List.mem_map.mpr ⟨_, member, rfl⟩)] at single
  obtain ⟨only, alone⟩ := List.length_eq_one_iff.mp single
  rw [alone, List.mem_singleton] at listed
  rw [lookup_collect, alone, listed]
  rfl

omit [DecidableEq Key] in
/-- The last of some lists is all of them exactly if there is no other. -/
theorem getLast_eq_flatten_iff {lists : List (List Item)}
    (nonempty : forall list, list ∈ lists -> list ≠ []) :
    lists.getLast?.getD [] = lists.flatten <-> lists.length <= 1 := by
  induction lists using List.reverseRecOn with
  | nil => exact iff_of_true rfl (Nat.zero_le 1)
  | append_singleton earlier last =>
    have first : earlier.flatten = [] <-> earlier = [] := by
      rw [List.flatten_eq_nil_iff]
      constructor
      · intro empty
        apply List.eq_nil_iff_forall_not_mem.mpr
        exact fun list member => nonempty list (List.mem_append_left _ member) (empty list member)
      · rintro rfl list member
        cases member
    simp [first]

/-- Lists collected under their keys: nothing is lost exactly if the keys are
distinct. -/
theorem collect_complete_iff (groups : List (Key × List Item))
    (nonempty : forall group, group ∈ groups -> group.2 ≠ []) :
    (forall key, ((collect groups).lookup key).getD [] = (itemsOf key groups).flatten) <->
      (groups.map Prod.fst).Nodup := by
  rw [List.nodup_iff_count_le_one]
  apply forall_congr'
  intro key
  rw [lookup_collect, getLast_eq_flatten_iff, length_itemsOf]
  intro list member
  obtain ⟨group, inside, rfl⟩ := List.mem_map.mp member
  exact nonempty group (List.mem_of_mem_filter inside)

/-- A map from keys to lists holds no more of a key than there was. -/
theorem length_lookup_collect_le (groups : List (Key × List Item)) :
    (((collect groups).lookup key).getD []).length <= (itemsOf key groups).flatten.length := by
  rw [lookup_collect]
  cases last : (itemsOf key groups).getLast? with
  | none => exact Nat.zero_le _
  | some list => exact (List.sublist_flatten_of_mem (List.mem_of_getLast? last)).length_le

/-! ## The runs -/

theorem addToRuns_nonempty (pair : Key × Item) {groups : List (Key × List Item)}
    (nonempty : forall group, group ∈ groups -> group.2 ≠ []) :
    forall group, group ∈ addToRuns pair groups -> group.2 ≠ [] := by
  fun_cases addToRuns <;> simp_all <;> exact nonempty.2

theorem runs_nonempty :
    forall group, group ∈ runs pairs -> group.2 ≠ [] := by
  induction pairs with
  | nil => exact List.forall_mem_nil _
  | cons pair _ ih => exact addToRuns_nonempty pair ih

theorem flatten_itemsOf_addToRuns (pair : Key × Item)
    (groups : List (Key × List Item)) :
    (itemsOf key (addToRuns pair groups)).flatten =
      itemsOf key [pair] ++ (itemsOf key groups).flatten := by
  by_cases own : pair.1 = key <;> fun_cases addToRuns <;> simp_all [itemsOf]

/-- The runs of a key hold its items. -/
theorem flatten_itemsOf_runs :
    (itemsOf key (runs pairs)).flatten = itemsOf key pairs := by
  induction pairs with
  | nil => rfl
  | cons pair rest ih =>
    rw [runs, List.foldr_cons, flatten_itemsOf_addToRuns, <- runs, ih, <- itemsOf_append]
    rfl

/-- The first run is that of the first key. -/
theorem runs_cons_head (pair : Key × Item) :
    Exists fun items => Exists fun others => runs (pair :: rest) = (pair.1, items) :: others := by
  rw [runs, List.foldr_cons]
  fun_cases addToRuns pair (List.foldr addToRuns [] rest) <;> exact ⟨_, _, rfl⟩

theorem keys_runs_cons_cons (first second : Key × Item) :
    (runs (first :: second :: rest)).map Prod.fst =
      if first.1 = second.1 then (runs (second :: rest)).map Prod.fst
      else first.1 :: (runs (second :: rest)).map Prod.fst := by
  obtain ⟨items, others, shape⟩ := runs_cons_head rest second
  rw [runs, List.foldr_cons, <- runs, shape, addToRuns]
  split <;> rfl

theorem mem_keys_addToRuns (pair : Key × Item) (groups : List (Key × List Item)) :
    key ∈ (addToRuns pair groups).map Prod.fst <-> key = pair.1 ∨ key ∈ groups.map Prod.fst := by
  fun_cases addToRuns <;> simp_all

theorem mem_keys_runs :
    key ∈ (runs pairs).map Prod.fst <-> key ∈ pairs.map Prod.fst := by
  induction pairs with
  | nil => rfl
  | cons pair rest ih =>
    rw [runs, List.foldr_cons, mem_keys_addToRuns, <- runs, ih, List.map_cons, List.mem_cons]

/-! ## Contiguous keys -/

omit [DecidableEq Key] in
theorem contiguous_nil : Contiguous ([] : List Key) :=
  fun _ _ _ inside => nomatch inside

omit [DecidableEq Key] in
theorem contiguous_cons_iff (first : Key) (rest : List Key) :
    Contiguous (first :: rest) <->
      Contiguous rest ∧ forall between, between ≠ first -> ¬ [between, first].Sublist rest := by
  constructor
  · intro contiguous
    refine ⟨?_, ?_⟩
    · intro key between different inside
      exact contiguous key between different (inside.cons first)
    · intro between different inside
      exact contiguous first between different (inside.cons_cons first)
  · rintro ⟨contiguous, absent⟩ key between different inside
    cases inside with
    | cons _ inside => exact contiguous key between different inside
    | cons_cons _ inside => exact absent between different inside

/-- The runs have distinct keys exactly if no key comes back. -/
theorem nodup_keys_runs_iff :
    ((runs pairs).map Prod.fst).Nodup <-> Contiguous (pairs.map Prod.fst) := by
  induction pairs with
  | nil => exact iff_of_true List.nodup_nil contiguous_nil
  | cons first rest ih =>
    cases rest with
    | nil =>
      refine iff_of_true (List.nodup_singleton _) ?_
      rintro key between different inside
      have long : 3 <= 1 := inside.length_le
      omega
    | cons second =>
      rw [keys_runs_cons_cons, List.map_cons, contiguous_cons_iff, <- ih]
      by_cases same : first.1 = second.1
      · rw [if_pos same]
        refine ⟨fun nodup => ⟨nodup, ?_⟩, And.left⟩
        intro between different inside
        have contiguous := ih.mp nodup
        rw [List.map_cons, contiguous_cons_iff, <- same] at contiguous
        cases inside with
        | cons _ inside => exact contiguous.2 between different inside
        | cons_cons => exact different same.symm
      · rw [if_neg same, List.nodup_cons, mem_keys_runs, and_comm]
        apply and_congr_right
        intro _
        constructor
        · intro absent between different inside
          exact absent (inside.subset (List.mem_cons_of_mem _ List.mem_cons_self))
        · intro absent member
          rcases List.mem_cons.mp member with head | later
          · exact same head
          · exact absent second.1 (Ne.symm same)
              (List.Sublist.cons_cons second.1 (List.singleton_sublist.mpr later))

/-- Runs collected into a map: each key has all its items, in order, exactly if
no key comes back after another one. -/
theorem collect_runs_complete_iff :
    (forall key, ((collect (runs pairs)).lookup key).getD [] = itemsOf key pairs) <->
      Contiguous (pairs.map Prod.fst) := by
  rw [<- nodup_keys_runs_iff, <- collect_complete_iff (runs pairs) (runs_nonempty pairs)]
  simp only [flatten_itemsOf_runs]

/-- The runs of some pairs beside others: the map has the items of all exactly if
it has its own and there are no others. -/
theorem collect_runs_complete_append_iff (others : List (Key × Item)) :
    (forall key, ((collect (runs pairs)).lookup key).getD [] = itemsOf key (pairs ++ others)) <->
      Contiguous (pairs.map Prod.fst) ∧ others = [] := by
  constructor
  · intro complete
    have absent : forall key, key ∉ others.map Prod.fst := by
      intro key
      rw [<- itemsOf_eq_nil_iff, <- List.length_eq_zero_iff]
      have most := length_lookup_collect_le key (runs pairs)
      rw [flatten_itemsOf_runs, complete key, itemsOf_append, List.length_append] at most
      omega
    obtain rfl := List.map_eq_nil_iff.mp (List.eq_nil_iff_forall_not_mem.mpr absent)
    rw [List.append_nil] at complete
    exact ⟨(collect_runs_complete_iff pairs).mp complete, rfl⟩
  · rintro ⟨contiguous, rfl⟩
    rw [List.append_nil]
    exact (collect_runs_complete_iff pairs).mpr contiguous

end Foundations
end Bottlecap
