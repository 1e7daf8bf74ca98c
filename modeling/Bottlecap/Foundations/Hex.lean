import Mathlib.Algebra.Ring.Nat
import Mathlib.Algebra.Order.Ring.Nat
import Mathlib.Data.List.Induction

namespace Bottlecap
namespace Foundations

/-!
# Hexadecimal texts and big-endian bytes

`Nat.toDigits 16` is the shortest lower-case hexadecimal text of a number.  It
reads back as the number, and its length is the number of significant nibbles.
Decimal digits are hexadecimal digits as well, but from ten on they read as a
larger number.
-/

/-- The value of a hexadecimal digit of either case. -/
def hexDigitValue (digit : Char) : Option Nat :=
  if digit.isDigit then some (digit.toNat - '0'.toNat)
  else if 'a' <= digit ∧ digit <= 'f' then some (digit.toNat - 'a'.toNat + 10)
  else if 'A' <= digit ∧ digit <= 'F' then some (digit.toNat - 'A'.toNat + 10)
  else none

/-- The number that hexadecimal digits denote, none if one is no digit. -/
def hexValue (digits : List Char) : Option Nat :=
  digits.foldlM (fun value digit => (hexDigitValue digit).map (value * 16 + ·)) 0

/-- The digits after the sign that a text may have. -/
def unsignedDigits : List Char -> List Char
  | '+' :: rest => rest
  | chars => chars

/-- `u64::from_str_radix` in base 16. -/
def parseHexU64 (text : String) : Option UInt64 :=
  let digits := unsignedDigits text.toList
  if digits.isEmpty then none
  else
    (hexValue digits).bind (fun value =>
      if value < 2 ^ 64 then some (UInt64.ofNat value) else none)

def isLowerHex (char : Char) : Bool :=
  char.isDigit || ('a' <= char && char <= 'f')

theorem hexDigitValue_digitChar : forall digit : Nat, digit < 16 ->
    hexDigitValue (Nat.digitChar digit) = some digit := by
  decide

theorem isLowerHex_digitChar : forall digit : Nat, digit < 16 ->
    isLowerHex (Nat.digitChar digit) = true := by
  decide

theorem hexValue_concat (digits : List Char) (last : Char) :
    hexValue (digits ++ [last]) =
      (hexValue digits).bind (fun value => (hexDigitValue last).map (value * 16 + ·)) := by
  rw [hexValue, List.foldlM_append]
  congr 1
  funext value
  exact Option.bind_fun_some _

/-- Reading the digits of a number in base 16. -/
theorem hexValue_toDigits (number : Nat) : hexValue (Nat.toDigits 16 number) = some number := by
  induction number using Nat.strong_induction_on with
  | _ number ih =>
  by_cases small : number < 16
  · rw [Nat.toDigits_of_lt_base small]
    change ((hexDigitValue number.digitChar).map (0 * 16 + ·)).bind some = some number
    rw [hexDigitValue_digitChar number small]
    change some (0 * 16 + number) = some number
    rw [Nat.zero_add]
  · have large : 16 <= number := Nat.le_of_not_lt small
    rw [Nat.toDigits_of_base_le (by decide) large, hexValue_concat,
      ih (number / 16) (by omega),
      hexDigitValue_digitChar (number % 16) (Nat.mod_lt number (by decide))]
    change some (number / 16 * 16 + number % 16) = some number
    rw [Nat.div_add_mod']

theorem isLowerHex_of_mem_toDigits (number : Nat) :
    forall char, char ∈ Nat.toDigits 16 number -> isLowerHex char = true := by
  induction number using Nat.strong_induction_on with
  | _ number ih =>
  intro char member
  by_cases small : number < 16
  · rw [Nat.toDigits_of_lt_base small, List.mem_singleton] at member
    rw [member]
    exact isLowerHex_digitChar number small
  · have large : 16 <= number := Nat.le_of_not_lt small
    rw [Nat.toDigits_of_base_le (by decide) large, List.mem_append, List.mem_singleton] at member
    rcases member with earlier | last
    · exact ih (number / 16) (by omega) char earlier
    · rw [last]
      exact isLowerHex_digitChar (number % 16) (Nat.mod_lt number (by decide))

theorem unsignedDigits_eq {digits : List Char} (plain : '+' ∉ digits) :
    unsignedDigits digits = digits := by
  unfold unsignedDigits
  split
  · exact absurd List.mem_cons_self plain
  · rfl

/-- What reads as a number is made of digits. -/
theorem isSome_hexDigitValue {digits : List Char} {value : Nat}
    (read : hexValue digits = some value) {char : Char} (member : char ∈ digits) :
    (hexDigitValue char).isSome = true := by
  induction digits using List.reverseRecOn generalizing value with
  | nil => cases member
  | append_singleton earlier last ih =>
    rw [hexValue_concat] at read
    obtain ⟨start, startRead, rest⟩ := Option.bind_eq_some_iff.mp read
    obtain ⟨digit, digitRead, _⟩ := Option.map_eq_some_iff.mp rest
    rcases List.mem_append.mp member with before | final
    · exact ih startRead before
    · rw [List.mem_singleton.mp final, digitRead]
      rfl

theorem parseHexU64_of_hexValue {text : String} {value : Nat} (nonempty : text.toList ≠ [])
    (read : hexValue text.toList = some value) :
    parseHexU64 text = if value < 2 ^ 64 then some (UInt64.ofNat value) else none := by
  have unsigned : unsignedDigits text.toList = text.toList :=
    unsignedDigits_eq (fun plus => absurd (isSome_hexDigitValue read plus) (by decide))
  unfold parseHexU64
  rw [unsigned, if_neg (by rwa [List.isEmpty_iff]), read]
  rfl

theorem parseHexU64_toDigits {number : Nat} (bound : number < 2 ^ 64) :
    parseHexU64 (String.ofList (Nat.toDigits 16 number)) = some (UInt64.ofNat number) := by
  have read := hexValue_toDigits number
  rw [<- String.toList_ofList (l := Nat.toDigits 16 number)] at read
  rw [parseHexU64_of_hexValue (by rw [String.toList_ofList]; exact Nat.toDigits_ne_nil) read,
    if_pos bound]

/-- A number has a given count of digits if it lies between two powers. -/
theorem length_toDigits_eq_iff {base number width : Nat} (proper : 1 < base) (positive : 0 < width) :
    (Nat.toDigits base number).length = width + 1 <->
      base ^ width <= number ∧ number < base ^ (width + 1) := by
  have shorter : (Nat.toDigits base number).length <= width <-> number < base ^ width :=
    Nat.length_toDigits_le_iff proper positive
  have fits : (Nat.toDigits base number).length <= width + 1 <-> number < base ^ (width + 1) :=
    Nat.length_toDigits_le_iff proper (Nat.succ_pos width)
  omega

theorem toList_toString (number : Nat) : (toString number).toList = Nat.toDigits 10 number :=
  String.toList_ofList

/-- Decimal digits read as hexadecimal ones denote no smaller number, and a
larger one as soon as there are two of them. -/
theorem hexValue_decimal (number : Nat) :
    Exists fun value => hexValue (Nat.toDigits 10 number) = some value ∧
      number <= value ∧ (10 <= number -> number < value) := by
  induction number using Nat.strong_induction_on with
  | _ number ih =>
  by_cases small : number < 10
  · refine ⟨number, ?_, Nat.le_refl number, by omega⟩
    rw [Nat.toDigits_of_lt_base small, <- Nat.toDigits_of_lt_base (b := 16) (by omega)]
    exact hexValue_toDigits number
  · have large : 10 <= number := Nat.le_of_not_lt small
    obtain ⟨value, read, bound, _⟩ := ih (number / 10) (by omega)
    refine ⟨value * 16 + number % 10, ?_, by omega, by omega⟩
    rw [Nat.toDigits_of_base_le (by decide) large, hexValue_concat, read,
      hexDigitValue_digitChar (number % 10) (by omega)]
    rfl

/-- A decimal text of two digits or more is not the hexadecimal one of its
number. -/
theorem parseHexU64_decimal_ne {number : Nat} (two : 10 <= number)
    {value : UInt64} (read : parseHexU64 (toString number) = some value) :
    value.toNat ≠ number := by
  have nonempty : (toString number).toList ≠ [] := by
    rw [toList_toString]
    exact Nat.toDigits_ne_nil
  obtain ⟨larger, larger_eq, _, above⟩ := hexValue_decimal number
  rw [parseHexU64_of_hexValue nonempty (toList_toString number ▸ larger_eq)] at read
  split at read
  · rename_i fits
    obtain rfl := Option.some.inj read
    rw [UInt64.toNat_ofNat_of_lt' fits]
    exact Nat.ne_of_gt (above two)
  · cases read

/-! ## Big-endian bytes -/

def bytesToNat (bytes : List UInt8) : Nat :=
  bytes.foldl (fun value byte => value * 256 + byte.toNat) 0

/-- `u64::from_be_bytes` -/
def u64FromBeBytes (bytes : List UInt8) : UInt64 := UInt64.ofNat (bytesToNat bytes)

theorem foldl_bytes (start : Nat) (bytes : List UInt8) :
    bytes.foldl (fun value byte => value * 256 + byte.toNat) start =
      start * 256 ^ bytes.length + bytesToNat bytes := by
  induction bytes generalizing start with
  | nil => rw [List.foldl_nil, List.length_nil, Nat.pow_zero, Nat.mul_one, bytesToNat,
      List.foldl_nil, Nat.add_zero]
  | cons byte _ ih =>
    rw [bytesToNat, List.foldl_cons, List.foldl_cons, ih, ih (0 * 256 + byte.toNat),
      List.length_cons, Nat.pow_succ', <- Nat.mul_assoc, Nat.add_mul, Nat.zero_add, Nat.add_assoc]

theorem bytesToNat_append (before after : List UInt8) :
    bytesToNat (before ++ after) = bytesToNat before * 256 ^ after.length + bytesToNat after := by
  rw [bytesToNat, List.foldl_append, foldl_bytes]
  rfl

theorem bytesToNat_cons (byte : UInt8) (rest : List UInt8) :
    bytesToNat (byte :: rest) = byte.toNat * 256 ^ rest.length + bytesToNat rest := by
  rw [bytesToNat, List.foldl_cons, foldl_bytes, Nat.zero_add]

theorem bytesToNat_lt (bytes : List UInt8) : bytesToNat bytes < 256 ^ bytes.length := by
  induction bytes with
  | nil => exact Nat.one_pos
  | cons byte rest =>
    rw [bytesToNat_cons, List.length_cons, Nat.pow_succ']
    have bound : byte.toNat < 256 := byte.toNat_lt
    calc byte.toNat * 256 ^ rest.length + bytesToNat rest
        < byte.toNat * 256 ^ rest.length + 256 ^ rest.length := by omega
      _ = (byte.toNat + 1) * 256 ^ rest.length := by rw [Nat.add_mul, Nat.one_mul]
      _ <= 256 * 256 ^ rest.length := Nat.mul_le_mul_right _ bound

/-- Eight bytes are read without loss. -/
theorem toNat_u64FromBeBytes (bytes : List UInt8) (short : bytes.length <= 8) :
    (u64FromBeBytes bytes).toNat = bytesToNat bytes := by
  refine Nat.mod_eq_of_lt (lt_of_lt_of_le (bytesToNat_lt bytes) ?_)
  calc 256 ^ bytes.length <= 256 ^ 8 := Nat.pow_le_pow_right (by decide) short
    _ = 2 ^ 64 := by decide

end Foundations
end Bottlecap
