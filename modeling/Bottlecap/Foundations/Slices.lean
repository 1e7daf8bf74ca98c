import Mathlib.Data.List.Basic
import Mathlib.Data.List.Infix

namespace Bottlecap
namespace Foundations

/-!
# Slices

`strip_prefix`, `strip_suffix` and the search for the first window, as functions
on lists.  The lemmas say how the search behaves when the slice is extended or
cut off behind the first match.
-/

abbrev Bytes := List UInt8

def byteOf (char : Char) : UInt8 := UInt8.ofNat char.toNat

/-- The bytes of a text. -/
def ascii (text : String) : Bytes := text.toByteArray.data.toList

def newline : UInt8 := 10
def quote : UInt8 := 34
def comma : UInt8 := 44
def openBracket : UInt8 := 91
def backslash : UInt8 := 92
def closeBracket : UInt8 := 93
def openBrace : UInt8 := 123
def closeBrace : UInt8 := 125

variable {α : Type} [DecidableEq α]

/-- `<[T]>::strip_prefix` -/
def stripStart (start slice : List α) : Option (List α) :=
  if start.isPrefixOf slice then some (slice.drop start.length) else none

/-- `<[T]>::strip_suffix` -/
def stripEnd (ending slice : List α) : Option (List α) :=
  if ending.isSuffixOf slice then some (slice.take (slice.length - ending.length)) else none

/-- The offset of the first window that is `needle`, which is not empty. -/
def find (needle : List α) : List α -> Option Nat
  | [] => none
  | head :: rest =>
    if needle.isPrefixOf (head :: rest) then some 0 else (find needle rest).map (· + 1)

theorem stripStart_eq_some_iff {start slice rest : List α} :
    stripStart start slice = some rest <-> slice = start ++ rest := by
  rw [stripStart]
  constructor
  · intro stripped
    split at stripped
    next leads =>
      rcases List.isPrefixOf_iff_prefix.mp leads with ⟨tail, whole⟩
      rw [<- whole, List.drop_left] at stripped
      rw [<- whole, Option.some.inj stripped]
    next => cases stripped
  · intro whole
    rw [whole, if_pos (List.isPrefixOf_iff_prefix.mpr (List.prefix_append start rest)),
      List.drop_left]

theorem stripStart_append (start rest : List α) : stripStart start (start ++ rest) = some rest :=
  stripStart_eq_some_iff.mpr rfl

theorem stripEnd_append (rest ending : List α) : stripEnd ending (rest ++ ending) = some rest := by
  rw [stripEnd, if_pos (List.isSuffixOf_iff_suffix.mpr (List.suffix_append rest ending)),
    List.length_append, Nat.add_sub_cancel, List.take_left]

theorem eq_append_of_stripEnd {ending slice rest : List α}
    (stripped : stripEnd ending slice = some rest) : slice = rest ++ ending := by
  rw [stripEnd] at stripped
  split at stripped
  next ends =>
    rcases List.isSuffixOf_iff_suffix.mp ends with ⟨start, whole⟩
    rw [<- whole, List.length_append, Nat.add_sub_cancel, List.take_left] at stripped
    rw [<- whole, Option.some.inj stripped]
  next => cases stripped

/-! ## The first window -/

theorem find_bound {needle slice : List α} {start : Nat} (found : find needle slice = some start) :
    start + needle.length <= slice.length := by
  fun_induction find generalizing start with
  | case1 => cases found
  | case2 _ _ leads =>
    cases found
    rw [Nat.zero_add]
    exact (List.isPrefixOf_iff_prefix.mp leads).length_le
  | case3 _ _ _ ih =>
    rcases Option.map_eq_some_iff.mp found with ⟨later, foundLater, same⟩
    have bound := ih foundLater
    rw [List.length_cons]
    omega

/-- A first match that ends within the slice is the first match there. -/
theorem find_append_iff {needle slice more : List α} {start : Nat}
    (nonempty : needle ≠ []) (within : start + needle.length <= slice.length) :
    find needle (slice ++ more) = some start <-> find needle slice = some start := by
  induction slice generalizing start with
  | nil =>
    have positive := List.length_pos_of_ne_nil nonempty
    rw [List.length_nil] at within
    omega
  | cons head rest ih =>
    rw [List.cons_append, find, find]
    rw [List.length_cons] at within
    have leads : needle.isPrefixOf (head :: (rest ++ more)) = needle.isPrefixOf (head :: rest) := by
      rw [Bool.eq_iff_iff, List.isPrefixOf_iff_prefix, List.isPrefixOf_iff_prefix]
      constructor
      · intro longer
        refine List.prefix_of_prefix_length_le longer (List.prefix_append _ more) ?_
        rw [List.length_cons]
        omega
      · intro shorter
        exact shorter.trans (List.prefix_append _ more)
    rw [leads]
    split
    next => exact Iff.rfl
    next =>
      cases start with
      | zero =>
        simp only [Option.map_eq_some_iff, Nat.add_one_ne_zero, and_false, exists_false]
      | succ later =>
        have tail : find needle (rest ++ more) = some later <-> find needle rest = some later :=
          ih (by omega)
        simp only [Option.map_eq_some_iff, Nat.add_right_cancel_iff, exists_eq_right, tail]

end Foundations
end Bottlecap
