import Mathlib.Algebra.Ring.Int.Defs
import Mathlib.Algebra.Ring.Nat
import Mathlib.Data.List.Basic

namespace Bottlecap
namespace Foundations

/-!
# Text

The operations on strings that the source takes from the standard library,
as functions on characters.
-/

/-- `str::starts_with` -/
def startsWith (text start : String) : Bool :=
  start.toList.isPrefixOf text.toList

/-- `str::contains` -/
def contains (text part : String) : Bool :=
  text.toList.tails.any (fun rest => part.toList.isPrefixOf rest)

/-- `str::split` at a character: always at least one piece. -/
def splitAtChar (separator : Char) : List Char -> List (List Char)
  | [] => [[]]
  | char :: rest =>
    if char = separator then [] :: splitAtChar separator rest
    else
      match splitAtChar separator rest with
      | [] => [[char]]
      | piece :: pieces => (char :: piece) :: pieces

theorem splitAtChar_ne_nil (separator : Char) (text : List Char) :
    splitAtChar separator text ≠ [] := by
  cases text with
  | nil => exact List.cons_ne_nil _ _
  | cons =>
    unfold splitAtChar
    split
    · exact List.cons_ne_nil _ _
    · split <;> exact List.cons_ne_nil _ _

/-- The pieces on both sides of a separator are split on their own. -/
theorem splitAtChar_append (separator : Char) (before after : List Char) :
    splitAtChar separator (before ++ separator :: after) =
      splitAtChar separator before ++ splitAtChar separator after := by
  induction before with
  | nil => simp only [List.nil_append, splitAtChar, if_true, List.cons_append]
  | cons _ before ih =>
    simp only [List.cons_append, splitAtChar, ih]
    split
    · rfl
    · cases pieces : splitAtChar separator before with
      | nil => exact absurd pieces (splitAtChar_ne_nil separator before)
      | cons => rfl

/-- The last piece of `str::split` at a character. -/
def lastPiece (separator : Char) (text : String) : String :=
  String.ofList (((splitAtChar separator text.toList).getLast?).getD [])

/-- `str::split_once` at a character. -/
def splitOnce (separator : Char) : List Char -> Option (List Char × List Char)
  | [] => none
  | char :: rest =>
    if char = separator then some ([], rest)
    else (splitOnce separator rest).map (fun pair => (char :: pair.1, pair.2))

/-- What follows the first occurrence of a separator. -/
def afterText (separator : List Char) : List Char -> Option (List Char)
  | [] => if separator.isEmpty then some [] else none
  | char :: rest =>
    if separator.isPrefixOf (char :: rest) then some ((char :: rest).drop separator.length)
    else afterText separator rest

/-- `str::trim_start_matches` -/
def trimStartMatches (start text : List Char) : List Char :=
  Nat.repeat (fun rest => if start.isPrefixOf rest then rest.drop start.length else rest)
    text.length text

/-- The characters of the Unicode property `White_Space`. -/
def isWhiteSpace (char : Char) : Bool :=
  let code := char.toNat
  (decide (0x09 <= code) && decide (code <= 0x0D)) ||
    (decide (0x2000 <= code) && decide (code <= 0x200A)) ||
    [0x20, 0x85, 0xA0, 0x1680, 0x2028, 0x2029, 0x202F, 0x205F, 0x3000].contains code

/-- `str::trim` -/
def trim (text : List Char) : String :=
  String.ofList ((text.dropWhile isWhiteSpace).reverse.dropWhile isWhiteSpace).reverse

/-- What precedes the first occurrence of a separator, all of it if there is
none. -/
def beforeText (separator : List Char) : List Char -> List Char
  | [] => []
  | char :: rest =>
    if separator.isPrefixOf (char :: rest) then []
    else char :: beforeText separator rest

/-- The number a list of digits denotes. -/
def digitsValue (digits : List Char) : Nat :=
  digits.foldl (fun value digit => value * 10 + (digit.toNat - '0'.toNat)) 0

/-- `str::parse::<u64>`: an optional plus sign, then at least one digit, and
the number fits. -/
def parseU64 (text : String) : Option UInt64 :=
  let digits :=
    match text.toList with
    | '+' :: rest => rest
    | chars => chars
  if digits.isEmpty || !digits.all Char.isDigit then none
  else if digitsValue digits < 2 ^ 64 then some (UInt64.ofNat (digitsValue digits))
  else none

/-- `str::parse::<u32>` -/
def parseU32 (text : String) : Option UInt32 :=
  (parseU64 text).bind (fun value =>
    if value.toNat < 2 ^ 32 then some (UInt32.ofNat value.toNat) else none)

/-- `str::parse::<i64>`: an optional sign, then at least one digit, and the
number fits. -/
def parseI64 (text : String) : Option Int :=
  let (sign, digits) : Int × List Char :=
    match text.toList with
    | '+' :: rest => (1, rest)
    | '-' :: rest => (-1, rest)
    | chars => (1, chars)
  let value := sign * digitsValue digits
  if digits.isEmpty || !digits.all Char.isDigit then none
  else if -(2 ^ 63) <= value ∧ value < 2 ^ 63 then some value
  else none

/-- What follows the first bytes of a UTF-8 text, none if it is shorter or the
cut falls inside a character. -/
def dropBytes : Nat -> List Char -> Option (List Char)
  | 0, text => some text
  | _ + 1, [] => none
  | count + 1, char :: rest =>
    if char.utf8Size <= count + 1 then dropBytes (count + 1 - char.utf8Size) rest else none

example : parseU64 "00123" = some 123 ∧ parseU64 "18446744073709551616" = none := by decide

end Foundations
end Bottlecap
