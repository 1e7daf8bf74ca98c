import Bottlecap.Foundations.Hex

namespace Bottlecap
namespace Foundations

/-!
# Texts as header values

Which texts an HTTP library takes as header values.  What it documents is that
visible ASCII is accepted and that control characters are not, the horizontal
tab apart; the tab and the characters beyond ASCII are left to the library.
-/

structure HeaderChars where
  accepts : Char -> Bool
  visible : forall char, 32 <= char.toNat -> char.toNat <= 126 -> accepts char = true
  control : forall char, char.toNat < 32 -> char ≠ '\t' -> accepts char = false
  delete : forall char, char.toNat = 127 -> accepts char = false

namespace HeaderChars

/-- The characters the `http` crate takes: all but control characters, and the
tab. -/
def http : HeaderChars where
  accepts := fun char => (32 <= char.toNat && char.toNat != 127) || char == '\t'
  visible := by
    intro char lower upper
    have other : char.toNat ≠ 127 := by omega
    simp [lower, other]
  control := by
    intro char lower other
    have below : ¬ 32 <= char.toNat := by omega
    simp [below, other]
  delete := by
    intro char same
    have other : char ≠ '\t' := by
      rintro rfl
      exact absurd same (by decide)
    simp [same, other]

variable (chars : HeaderChars)

/-- Whether a text parses as a header value. -/
def legal (text : String) : Bool := text.toList.all chars.accepts

theorem legal_append (first second : String) :
    chars.legal (first ++ second) = (chars.legal first && chars.legal second) := by
  rw [legal, String.toList_append, List.all_append]
  rfl

theorem legal_of_visible (text : String)
    (visible : forall char, char ∈ text.toList -> 32 <= char.toNat ∧ char.toNat <= 126) :
    chars.legal text = true := by
  rw [legal, List.all_eq_true]
  intro char member
  exact chars.visible char (visible char member).1 (visible char member).2

/-- A literal whose characters are visible. -/
theorem legal_of_literal (text : String)
    (visible : text.toList.all (fun char => 32 <= char.toNat && char.toNat <= 126) = true) :
    chars.legal text = true := by
  apply chars.legal_of_visible
  intro char member
  have range := List.all_eq_true.mp visible char member
  rwa [Bool.and_eq_true, decide_eq_true_iff, decide_eq_true_iff] at range

end HeaderChars

/-! ## Numbers -/

theorem visible_of_isDigit {char : Char} (digit : char.isDigit = true) :
    32 <= char.toNat ∧ char.toNat <= 126 := by
  simp only [Char.isDigit, Bool.and_eq_true, decide_eq_true_eq] at digit
  have lower : 48 <= char.val.toNat := UInt32.le_iff_toNat_le.mp digit.1
  have upper : char.val.toNat <= 57 := UInt32.le_iff_toNat_le.mp digit.2
  change 32 <= char.val.toNat ∧ char.val.toNat <= 126
  omega

theorem visible_of_hexDigit {char : Char} (digit : (hexDigitValue char).isSome = true) :
    32 <= char.toNat ∧ char.toNat <= 126 := by
  unfold hexDigitValue at digit
  split at digit
  · exact visible_of_isDigit (by assumption)
  · split at digit
    · rename_i _ range
      have lower : 97 <= char.val.toNat := range.1
      have upper : char.val.toNat <= 102 := range.2
      change 32 <= char.val.toNat ∧ char.val.toNat <= 126
      omega
    · split at digit
      · rename_i _ range
        have lower : 65 <= char.val.toNat := range.1
        have upper : char.val.toNat <= 70 := range.2
        change 32 <= char.val.toNat ∧ char.val.toNat <= 126
        omega
      · cases digit

/-- A text of hexadecimal digits. -/
def HexText (text : String) : Prop :=
  forall char, char ∈ text.toList -> (hexDigitValue char).isSome = true

namespace HeaderChars

variable (chars : HeaderChars)

theorem legal_of_hexText {text : String} (hex : HexText text) : chars.legal text = true :=
  chars.legal_of_visible text (fun char member => visible_of_hexDigit (hex char member))

theorem legal_natToString (number : Nat) : chars.legal (toString number) = true := by
  apply chars.legal_of_visible
  intro char member
  rw [toList_toString] at member
  exact visible_of_isDigit (Nat.isDigit_of_mem_toDigits (by decide) (by decide) member)

theorem legal_intToString (number : Int) : chars.legal (toString number) = true := by
  cases number with
  | ofNat size => exact chars.legal_natToString size
  | negSucc size =>
    change chars.legal ("-" ++ toString (size + 1)) = true
    rw [legal_append, chars.legal_natToString, Bool.and_true]
    apply chars.legal_of_literal
    decide

end HeaderChars

theorem hexText_of_toDigits (number : Nat) : HexText (String.ofList (Nat.toDigits 16 number)) := by
  intro char member
  rw [String.toList_ofList] at member
  have lower := isLowerHex_of_mem_toDigits number char member
  simp only [isLowerHex, Bool.or_eq_true, Bool.and_eq_true, decide_eq_true_eq] at lower
  rw [hexDigitValue]
  by_cases digit : char.isDigit = true
  · rw [if_pos digit]
    rfl
  · rw [if_neg digit, if_pos (lower.resolve_left digit)]
    rfl

end Foundations
end Bottlecap
