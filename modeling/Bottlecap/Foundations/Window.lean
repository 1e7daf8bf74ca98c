import Mathlib.Algebra.BigOperators.Group.List.Basic
import Mathlib.Algebra.Order.Ring.Int
import Mathlib.Data.List.Basic
import Mathlib.Logic.Function.Basic

namespace Bottlecap
namespace Foundations

/-!
# Windows of a table over the integers

A dense store keeps the values of a table on consecutive integers in a list.  What
is done to the list, such as shifting it, padding it with zeros or changing one
entry, is again a window, of the same or of a changed table.  So an argument about
such a store speaks about tables and never about positions in a list.
-/

section Layout

variable {Entry : Type} (table : Int -> Entry)

/-- The values of a table on `length` integers from `start` on. -/
def window (start : Int) (length : Nat) : List Entry :=
  (List.range length).map (fun index : Nat => table (start + index))

@[simp] theorem length_window (start : Int) (length : Nat) :
    (window table start length).length = length := by
  rw [window, List.length_map, List.length_range]

theorem getElem?_window (start : Int) {length index : Nat} (inside : index < length) :
    (window table start length)[index]? = some (table (start + index)) := by
  rw [window, List.getElem?_map, List.getElem?_range inside]
  rfl

theorem window_add (start : Int) (first second : Nat) :
    window table start (first + second) =
      window table start first ++ window table (start + first) second := by
  rw [window, List.range_add, List.map_append, List.map_map]
  congr 1
  apply List.map_congr_left
  intro index _
  change table (start + ((first + index : Nat) : Int)) = table (start + first + index)
  rw [Nat.cast_add, add_assoc]

variable {table}

theorem window_congr {other : Int -> Entry} {start : Int} {length : Nat}
    (same : forall key, start <= key -> key < start + length -> table key = other key) :
    window table start length = window other start length := by
  apply List.map_congr_left
  intro index member
  have inside := List.mem_range.mp member
  exact same _ (by omega) (by omega)

variable (table)

theorem take_window (start : Int) {length count : Nat} (enough : count <= length) :
    (window table start length).take count = window table start count := by
  have split : length = count + (length - count) := by omega
  rw [split, window_add]
  exact List.take_left' (length_window table start count)

theorem drop_window (start : Int) {length count : Nat} (enough : count <= length) :
    (window table start length).drop count = window table (start + count) (length - count) := by
  have split : length = count + (length - count) := by omega
  conv => lhs; rw [split, window_add]
  exact List.drop_left' (length_window table start count)

/-- Changing one entry changes the table there. -/
theorem set_window (start : Int) (length index : Nat) (value : Entry) :
    (window table start length).set index value =
      window (Function.update table (start + index) value) start length := by
  apply List.ext_getElem?
  intro position
  by_cases inside : position < length
  · rw [getElem?_window _ _ inside, List.getElem?_set, getElem?_window _ _ inside, length_window]
    by_cases same : index = position
    · rw [if_pos same, if_pos (same ▸ inside), same, Function.update_self]
    · rw [if_neg same, Function.update_of_ne (by omega)]
  · rw [List.getElem?_eq_none (by rw [List.length_set, length_window]; omega),
      List.getElem?_eq_none (by rw [length_window]; omega)]

end Layout

section Padding

variable {Entry : Type} [Zero Entry] {table : Int -> Entry} {start : Int} {length : Nat}

theorem window_eq_replicate
    (zero : forall key, start <= key -> key < start + length -> table key = 0) :
    window table start length = List.replicate length 0 := by
  apply List.eq_replicate_iff.mpr
  refine ⟨length_window table start length, fun entry member => ?_⟩
  rcases List.mem_map.mp member with ⟨index, listed, same⟩
  have inside := List.mem_range.mp listed
  rw [<- same]
  exact zero _ (by omega) (by omega)

/-- Zeros at the end extend the window, if the table is zero there. -/
theorem window_append_zeros (more : Nat)
    (zero : forall key, start + length <= key -> key < start + length + more -> table key = 0) :
    window table start length ++ List.replicate more 0 = window table start (length + more) := by
  rw [window_add, window_eq_replicate zero]

/-- Zeros in front move the window down, and push the last entries out. -/
theorem shift_window_down {count : Nat} (enough : count <= length)
    (zero : forall key, start - count <= key -> key < start -> table key = 0) :
    List.replicate count 0 ++ (window table start length).take (length - count) =
      window table (start - count) length := by
  have split : length = count + (length - count) := by omega
  rw [take_window table start (Nat.sub_le length count)]
  conv => rhs; rw [split, window_add]
  rw [sub_add_cancel, window_eq_replicate (fun key low high => zero key low (by omega))]

/-- Dropping the first entries moves the window up, with zeros at the end. -/
theorem shift_window_up {count : Nat} (enough : count <= length)
    (zero : forall key, start + length <= key -> key < start + length + count -> table key = 0) :
    (window table start length).drop count ++ List.replicate count 0 =
      window table (start + count) length := by
  have split : length = length - count + count := by omega
  rw [drop_window table start enough]
  conv => rhs; rw [split]
  apply window_append_zeros
  intro key low high
  exact zero key (by omega) (by omega)

/-- Clearing the entries from `first` up to `last`. -/
theorem clear_window {first last : Nat} (ordered : first <= last) (enough : last <= length) :
    (window table start length).take first ++ List.replicate (last - first) 0 ++
        (window table start length).drop last =
      window (fun key => if start + first <= key ∧ key < start + last then 0 else table key)
        start length := by
  have split : length = first + (last - first) + (length - last) := by omega
  rw [take_window table start (Nat.le_trans ordered enough), drop_window table start enough]
  conv => rhs; rw [split, window_add, window_add]
  rw [show start + ((first + (last - first) : Nat) : Int) = start + last by omega]
  congr 1
  · congr 1
    · apply window_congr
      intro key low high
      rw [if_neg (by omega)]
    · symm
      apply window_eq_replicate
      intro key low high
      rw [if_pos (by omega)]
  · apply window_congr
    intro key low high
    rw [if_neg (by omega)]

end Padding

section Sums

variable {start : Int} {length : Nat}

theorem sum_window_add (first second : Int -> Nat) :
    (window (fun key => first key + second key) start length).sum =
      (window first start length).sum + (window second start length).sum :=
  List.sum_map_add

/-- A table with one entry that is not zero. -/
theorem sum_window_single {key : Int} (low : start <= key) (high : key < start + length)
    (value : Nat) :
    (window (fun other => if other = key then value else 0) start length).sum = value := by
  -- The window of zeros with one entry changed.
  have place : start + (((key - start).toNat : Nat) : Int) = key := by omega
  have single : (fun other => if other = key then value else 0) =
      Function.update (fun _ : Int => 0) (start + ((key - start).toNat : Nat)) value := by
    funext other
    rw [place, Function.update_apply]
  have zeros : window (fun _ : Int => 0) start length = List.replicate length 0 :=
    window_eq_replicate (fun _ _ _ => rfl)
  rw [single, <- set_window, zeros, List.sum_set, List.take_replicate, List.drop_replicate,
    List.length_replicate, if_pos (by omega), List.sum_replicate, List.sum_replicate]
  rw [nsmul_zero, nsmul_zero, Nat.zero_add, Nat.add_zero]

/-- The counts of a list sum up to its length. -/
theorem sum_window_count (keys : List Int)
    (inside : forall key, key ∈ keys -> start <= key ∧ key < start + length) :
    (window (fun key => keys.count key) start length).sum = keys.length := by
  induction keys with
  | nil =>
    rw [window_eq_replicate (fun key _ _ => List.count_nil), List.sum_replicate]
    rfl
  | cons first rest ih =>
    rw [List.forall_mem_cons] at inside
    have bounds := inside.1
    have counts : (fun key => (first :: rest).count key) =
        fun key => rest.count key + if key = first then 1 else 0 := by
      funext key
      rw [List.count_cons]
      by_cases same : key = first
      · rw [if_pos same, same, if_pos (beq_self_eq_true first)]
      · rw [if_neg same, if_neg (by rw [beq_iff_eq]; exact fun equal => same equal.symm)]
    rw [counts, sum_window_add, sum_window_single bounds.1 bounds.2, List.length_cons,
      ih inside.2]

end Sums

end Foundations
end Bottlecap
