import Highlight.Proofs.Spelling
import Highlight.Text.Hexadecimal

/-!
Hexadecimal digits, which are read in either case: which characters they are, and of which numbers.
-/

set_option autoImplicit false

namespace Highlight.Text

theorem hexDigit?_lowerHexDigit :
    ∀ number < 16, hexDigit? (lowerHexDigit number) = some number := by
  decide

theorem hexDigit?_upperHexDigit :
    ∀ number < 16, hexDigit? (upperHexDigit number) = some number := by
  decide

variable {c : Char} {number : Nat}

theorem isHexDigit_of_hexDigit? (found : hexDigit? c = some number) : isHexDigit c := by
  unfold hexDigit? at found
  unfold isHexDigit
  split at found
  · next isDigit => simp [isDigit]
  split at found
  · next isLower => simp [isLower]
  split at found
  · next isUpper => simp [isUpper]
  · contradiction

/-- Is a character the digit of a number, in one case or the other? -/
def IsHexDigitOf (number : Nat) (c : Char) : Prop :=
  number < 16 ∧ (c = lowerHexDigit number ∨ c = upperHexDigit number)

theorem hexDigit?_eq_some_iff : hexDigit? c = some number ↔ IsHexDigitOf number c := by
  constructor
  · intro found
    have listed := holds_of_isAscii (isAscii_of_isHexDigit (isHexDigit_of_hexDigit? found))
      (fun d => (hexDigit? d).all fun value =>
        value < 16 && (d == lowerHexDigit value || d == upperHexDigit value)) (by decide +kernel)
    simpa [found, IsHexDigitOf] using listed
  · rintro ⟨small, rfl | rfl⟩
    · exact hexDigit?_lowerHexDigit number small
    · exact hexDigit?_upperHexDigit number small

theorem isHexDigit_iff : isHexDigit c ↔ ∃ number, IsHexDigitOf number c := by
  constructor
  · intro digit
    have found := holds_of_isAscii (isAscii_of_isHexDigit digit)
      (fun d => !isHexDigit d || (hexDigit? d).isSome) (by decide +kernel)
    rw [digit, Bool.not_true, Bool.false_or] at found
    obtain ⟨value, read⟩ := Option.isSome_iff_exists.mp found
    exact ⟨value, hexDigit?_eq_some_iff.mp read⟩
  · rintro ⟨value, digit⟩
    exact isHexDigit_of_hexDigit? (hexDigit?_eq_some_iff.mpr digit)

end Highlight.Text
