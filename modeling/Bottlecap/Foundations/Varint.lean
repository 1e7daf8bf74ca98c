import Mathlib.Algebra.Ring.Nat
import Mathlib.Data.List.Basic
import Mathlib.Tactic.Ring

namespace Bottlecap
namespace Foundations

/-!
# Integers of variable length

A LEB128 varint is a number in groups of seven bits, the lowest first; every byte
but the last has its high bit set.  `splitUvarint` finds the first complete one
and `uvarintValue` is its value, a natural number without any bound: what a reader
with machine integers makes of it is compared with that.

Zigzag puts the signed integers in the order 0, -1, 1, -2, and so on.
-/

/-- The shortest varint of a number. -/
def uvarintBytes (value : Nat) : List UInt8 :=
  if value < 128 then [UInt8.ofNat value]
  else UInt8.ofNat (value % 128 + 128) :: uvarintBytes (value / 128)
termination_by value
decreasing_by exact Nat.div_lt_self (by omega) (by decide)

/-- The first complete varint and the bytes after it. -/
def splitUvarint : List UInt8 -> Option (List UInt8 × List UInt8)
  | [] => none
  | byte :: rest =>
    if byte.toNat < 128 then some ([byte], rest)
    else (splitUvarint rest).map (fun found => (byte :: found.1, found.2))

/-- The number that groups of seven bits stand for. -/
def uvarintValue (groups : List UInt8) : Nat :=
  groups.foldr (fun byte value => byte.toNat % 128 + 128 * value) 0

theorem uvarintValue_cons (byte : UInt8) (groups : List UInt8) :
    uvarintValue (byte :: groups) = byte.toNat % 128 + 128 * uvarintValue groups := rfl

theorem uvarintValue_append (first second : List UInt8) :
    uvarintValue (first ++ second) =
      uvarintValue first + 128 ^ first.length * uvarintValue second := by
  induction first with
  | nil => rw [List.nil_append, List.length_nil, Nat.pow_zero, Nat.one_mul]; exact (Nat.zero_add _).symm
  | cons _ _ ih =>
    rw [List.cons_append, uvarintValue_cons, ih, uvarintValue_cons, List.length_cons]
    ring

theorem uvarintValue_lt (groups : List UInt8) : uvarintValue groups < 128 ^ groups.length := by
  induction groups with
  | nil => exact Nat.one_pos
  | cons byte =>
    rw [uvarintValue_cons, List.length_cons]
    omega

/-! ## Splitting -/

theorem splitUvarint_last {byte : UInt8} (last : byte.toNat < 128) (rest : List UInt8) :
    splitUvarint (byte :: rest) = some ([byte], rest) := if_pos last

theorem splitUvarint_more {byte : UInt8} (more : 128 <= byte.toNat) (rest : List UInt8) :
    splitUvarint (byte :: rest) =
      (splitUvarint rest).map (fun found => (byte :: found.1, found.2)) :=
  if_neg (Nat.not_lt_of_le more)

/-- The last byte of a complete varint is its last group. -/
theorem splitUvarint_getLast {bytes groups rest : List UInt8}
    (found : splitUvarint bytes = some (groups, rest)) :
    Exists fun before => Exists fun last => groups = before ++ [last] ∧ last.toNat < 128 := by
  fun_induction splitUvarint generalizing groups with
  | case1 => cases found
  | case2 byte _ ends =>
    cases found
    exact ⟨[], byte, rfl, ends⟩
  | case3 byte _ _ ih =>
    rcases Option.map_eq_some_iff.mp found with ⟨⟨later, after⟩, split, same⟩
    cases same
    rcases ih split with ⟨before, last, shape, small⟩
    exact ⟨byte :: before, last, congrArg (List.cons byte) shape, small⟩

/-! ## Round trips -/

theorem toNat_group {number : Nat} (small : number < 256) : (UInt8.ofNat number).toNat = number := by
  exact Nat.mod_eq_of_lt small

theorem splitUvarint_uvarintBytes (value : Nat) (rest : List UInt8) :
    splitUvarint (uvarintBytes value ++ rest) = some (uvarintBytes value, rest) := by
  fun_induction uvarintBytes value with
  | case1 value small =>
    have last : (UInt8.ofNat value).toNat < 128 := by
      rw [toNat_group (by omega)]
      exact small
    rw [List.cons_append, List.nil_append, splitUvarint_last last]
  | case2 value _ ih =>
    have more : 128 <= (UInt8.ofNat (value % 128 + 128)).toNat := by
      rw [toNat_group (by omega)]
      omega
    rw [List.cons_append, splitUvarint_more more, ih]
    rfl

theorem uvarintValue_uvarintBytes (value : Nat) : uvarintValue (uvarintBytes value) = value := by
  fun_induction uvarintBytes value with
  | case1 value small =>
    rw [uvarintValue_cons, toNat_group (by omega)]
    change value % 128 + 128 * 0 = value
    omega
  | case2 value _ ih =>
    rw [uvarintValue_cons, toNat_group (by omega), ih]
    omega

/-- A number below `128 ^ count` takes at most `count` groups, and at least one. -/
theorem uvarintBytes_length {count value : Nat} (small : value < 128 ^ (count + 1)) :
    (uvarintBytes value).length <= count + 1 := by
  induction count generalizing value with
  | zero =>
    rw [Nat.pow_one] at small
    rw [uvarintBytes, if_pos small]
    exact Nat.le_refl 1
  | succ count ih =>
    rw [uvarintBytes]
    split
    · exact Nat.le_add_left 1 (count + 1)
    · rw [List.length_cons]
      apply Nat.succ_le_succ
      apply ih
      exact Nat.div_lt_of_lt_mul (Nat.mul_comm _ 128 ▸ small)

theorem uvarintBytes_ne_nil (value : Nat) : uvarintBytes value ≠ [] := by
  rw [uvarintBytes]
  split <;> exact List.cons_ne_nil _ _

/-! ## Zigzag -/

/-- The place of an integer in the order 0, -1, 1, -2, ... -/
def zigzag : Int -> Nat
  | Int.ofNat number => 2 * number
  | Int.negSucc number => 2 * number + 1

def unzigzag (raw : Nat) : Int :=
  if raw % 2 = 0 then Int.ofNat (raw / 2) else Int.negSucc (raw / 2)

theorem unzigzag_zigzag (number : Int) : unzigzag (zigzag number) = number := by
  cases number with
  | ofNat number =>
    have even : zigzag (Int.ofNat number) % 2 = 0 := Nat.mul_mod_right 2 number
    rw [unzigzag, if_pos even]
    exact congrArg Int.ofNat (Nat.mul_div_cancel_left number (by decide))
  | negSucc number =>
    have odd : zigzag (Int.negSucc number) % 2 ≠ 0 := by
      change (2 * number + 1) % 2 ≠ 0
      omega
    have half : zigzag (Int.negSucc number) / 2 = number := by
      change (2 * number + 1) / 2 = number
      omega
    rw [unzigzag, if_neg odd, half]

theorem zigzag_nonneg (number : Nat) : zigzag (number : Int) = 2 * number := rfl

end Foundations
end Bottlecap
