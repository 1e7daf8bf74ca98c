import Mathlib.Data.List.Basic

namespace Bottlecap
namespace Foundations

/-!
# A ring of slots

A ring keeps the last entries of an unbounded history in a fixed number of slots.
The head is the place of the next write and moves on by one, round the ring.
`Ring.Holds` relates the slots to the whole history: every recent entry stands at its
place, and slots that were never written hold the filling.
-/

namespace Ring

variable {Entry : Type} {size : Nat} {filling : Entry}

/-- What the slots of a ring say about the history that was written to it. -/
structure Holds (size : Nat) (filling : Entry) (history slots : List Entry) (head : Nat) : Prop where
  complete : slots.length = size
  head_eq : head = history.length % size
  recent : forall back, back < size -> back < history.length ->
    slots[(history.length - 1 - back) % size]? = history[history.length - 1 - back]?
  unwritten : forall index, history.length <= index -> index < size -> slots[index]? = some filling

theorem holds_empty (size : Nat) (filling : Entry) :
    Holds size filling [] (List.replicate size filling) 0 := by
  refine ⟨List.length_replicate, (Nat.zero_mod size).symm, ?_, ?_⟩
  · intro back _ some_
    exact absurd some_ (Nat.not_lt_zero back)
  · intro index _ inside
    rw [List.getElem?_replicate, if_pos inside]

variable {history slots : List Entry} {head : Nat}

/-- Two entries less than a round apart have different places. -/
theorem place_ne {count back : Nat} (positive : 0 < back) (within : back < size)
    (known : back <= count) : (count - back) % size ≠ count % size := by
  intro same
  have divides : size ∣ count - (count - back) :=
    Nat.dvd_of_mod_eq_zero (Nat.sub_mod_eq_zero_of_mod_eq same.symm)
  rw [Nat.sub_sub_self known] at divides
  exact absurd (Nat.le_of_dvd positive divides) (Nat.not_le.mpr within)

/-- A write puts the entry in the place of the oldest one. -/
theorem Holds.write (holds : Holds size filling history slots head) (positive : 0 < size)
    (entry : Entry) :
    Holds size filling (history ++ [entry]) (slots.set head entry) ((head + 1) % size) := by
  have inside : head < slots.length := by
    rw [holds.complete, holds.head_eq]
    exact Nat.mod_lt _ positive
  have longer : (history ++ [entry]).length = history.length + 1 := by
    rw [List.length_append, List.length_singleton]
  refine ⟨?_, ?_, ?_, ?_⟩
  · rw [List.length_set, holds.complete]
  · rw [longer, holds.head_eq, Nat.mod_add_mod]
  · intro back within known
    rw [longer] at known ⊢
    rw [Nat.add_sub_cancel]
    cases back with
    | zero =>
      rw [Nat.sub_zero, <- holds.head_eq, List.getElem?_set_self inside, List.getElem?_concat_length]
    | succ back =>
      have earlier : back < history.length := Nat.lt_of_succ_lt_succ known
      have other : head ≠ (history.length - (back + 1)) % size := by
        rw [holds.head_eq]
        exact (place_ne (Nat.succ_pos back) within earlier).symm
      have shifted : history.length - (back + 1) = history.length - 1 - back := by omega
      rw [List.getElem?_set_ne other, shifted, holds.recent back (Nat.lt_of_succ_lt within) earlier,
        List.getElem?_append_left (by omega)]
  · intro index beyond within
    rw [longer] at beyond
    have other : head ≠ index := by
      rw [holds.head_eq, Nat.mod_eq_of_lt (by omega)]
      omega
    rw [List.getElem?_set_ne other]
    exact holds.unwritten index (Nat.le_of_succ_le beyond) within

/-- After a full round the head points at the oldest entry the ring still has. -/
theorem Holds.oldest (holds : Holds size filling history slots head) (positive : 0 < size)
    (full : size <= history.length) : slots[head]? = history[history.length - size]? := by
  have place : history.length - 1 - (size - 1) = history.length - size := by omega
  have head_eq : (history.length - size) % size = head := by
    rw [holds.head_eq]
    exact (Nat.mod_eq_sub_mod full).symm
  have recent := holds.recent (size - 1) (by omega) (by omega)
  rw [place, head_eq] at recent
  exact recent

/-- Every slot has been written by then. -/
theorem Holds.written (holds : Holds size filling history slots head) (positive : 0 < size)
    (full : size <= history.length) {entry : Entry} (member : entry ∈ slots) : entry ∈ history := by
  rcases List.getElem?_of_mem member with ⟨index, found⟩
  have inside : index < size := by
    rw [<- holds.complete]
    exact (List.getElem?_eq_some_iff.mp found).1
  -- The latest write to the slot is less than a round back.
  have place : (history.length - 1 - (history.length - 1 - index) % size) % size = index := by
    have split := Nat.mod_add_div (history.length - 1 - index) size
    have back : history.length - 1 - (history.length - 1 - index) % size =
        index + size * ((history.length - 1 - index) / size) := by omega
    rw [back, Nat.add_mul_mod_self_left, Nat.mod_eq_of_lt inside]
  have bound := Nat.mod_le (history.length - 1 - index) size
  have recent := holds.recent ((history.length - 1 - index) % size) (Nat.mod_lt _ positive) (by omega)
  rw [place, found] at recent
  exact List.mem_of_getElem? recent.symm

end Ring
end Foundations
end Bottlecap
