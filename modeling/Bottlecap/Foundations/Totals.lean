import Mathlib.Algebra.BigOperators.Group.List.Basic
import Mathlib.Data.List.AList
import Bottlecap.Foundations.Lists

namespace Bottlecap
namespace Foundations

/-!
# Totals over a keyed store

The total of a store is the sum of the amounts of its entries, in any
commutative monoid.  Inserting and erasing change it by the amounts of the
entries that come and go, so an accounting argument never looks at the order in
which the store lists its entries.  The same is said of a list whose entries are
found by a test.
-/

variable {Key Entry Amount : Type} [AddCommMonoid Amount]

/-- The sum of the amounts of listed entries. -/
def listTotal (amount : Entry -> Amount) (entries : List (Sigma fun _ : Key => Entry)) : Amount :=
  (entries.map (fun entry => amount entry.2)).sum

/-- The sum of the amounts of the entries of a store. -/
def total (amount : Entry -> Amount) (store : AList (fun _ : Key => Entry)) : Amount :=
  listTotal amount store.entries

variable (amount : Entry -> Amount)

theorem listTotal_cons (entry : Sigma fun _ : Key => Entry)
    (entries : List (Sigma fun _ : Key => Entry)) :
    listTotal amount (entry :: entries) = amount entry.2 + listTotal amount entries := by
  rfl

theorem listTotal_perm {first second : List (Sigma fun _ : Key => Entry)}
    (perm : first.Perm second) : listTotal amount first = listTotal amount second :=
  (perm.map _).sum_eq

theorem total_empty : total amount (∅ : AList (fun _ : Key => Entry)) = 0 := rfl

variable [DecidableEq Key] {store : AList (fun _ : Key => Entry)} {key : Key} {entry : Entry}

/-- An entry that is found accounts for the difference to the store without it. -/
theorem total_of_lookup (found : store.lookup key = some entry) :
    total amount store = amount entry + total amount (store.erase key) := by
  have listed : (⟨key, entry⟩ : Sigma fun _ : Key => Entry) ∈ store.entries :=
    AList.mem_lookup_iff.mp found
  rcases List.exists_of_kerase (List.mem_keys_of_mem listed) with
    ⟨value, before, after, absent, split, erased⟩
  -- Keys are distinct, so the entry that `erase` removes is the one looked up.
  have same : value = entry := by
    have other : (⟨key, value⟩ : Sigma fun _ : Key => Entry) ∈ store.entries := by
      rw [split]
      exact List.mem_append_right before List.mem_cons_self
    have again : store.lookup key = some value := AList.mem_lookup_iff.mpr other
    rw [found] at again
    exact (Option.some.inj again).symm
  have perm : store.entries.Perm (⟨key, value⟩ :: (store.erase key).entries) := by
    change store.entries.Perm (⟨key, value⟩ :: List.kerase key store.entries)
    rw [erased]
    conv_lhs => rw [split]
    exact List.perm_middle
  rw [total, listTotal_perm amount perm, same]
  rfl

theorem total_erase_of_notMem (absent : key ∉ store) :
    total amount (store.erase key) = total amount store := by
  have unchanged : List.kerase key store.entries = store.entries :=
    List.kerase_of_notMem_keys absent
  change listTotal amount (List.kerase key store.entries) = _
  rw [unchanged]
  rfl

theorem total_insert :
    total amount (store.insert key entry) = amount entry + total amount (store.erase key) := by
  rfl

theorem total_insert_of_notMem (absent : key ∉ store) :
    total amount (store.insert key entry) = amount entry + total amount store := by
  rw [total_insert, total_erase_of_notMem amount absent]

/-! ## Lists whose entries are found by a test -/

section Lists

variable {entries : List Entry} {found : Entry -> Bool} {first : Entry}

theorem sum_map_modifyFirst {update : Entry -> Entry} (holds : entries.find? found = some first) :
    ((modifyFirst found update entries).map amount).sum =
      amount (update first) + ((entries.eraseP found).map amount).sum := by
  fun_induction modifyFirst with
  | case1 => cases holds
  | case2 _ _ matched =>
    rw [List.find?_cons_of_pos matched] at holds
    cases holds
    rw [List.eraseP_cons_of_pos matched, List.map_cons, List.sum_cons]
  | case3 _ _ unmatched ih =>
    rw [List.find?_cons_of_neg unmatched] at holds
    rw [List.eraseP_cons_of_neg unmatched, List.map_cons, List.map_cons, List.sum_cons,
      List.sum_cons, ih holds, add_left_comm]

theorem sum_map_eraseP (holds : entries.find? found = some first) :
    (entries.map amount).sum = amount first + ((entries.eraseP found).map amount).sum := by
  have kept : ((modifyFirst found id entries).map amount).sum = _ :=
    sum_map_modifyFirst amount holds
  rw [modifyFirst_id] at kept
  exact kept

end Lists
end Foundations
end Bottlecap
