import Mathlib.Algebra.Group.Nat.Defs
import Mathlib.Order.Monotone.Basic
import Highlight.Number.Decimal

/-!
Decimal digits of natural numbers: how many there are, and that a numeral consists of them and tells
its number.
-/

set_option autoImplicit false

namespace Highlight

theorem one_le_digitCount (number : Nat) : 1 ≤ digitCount number := by
  rw [digitCount]
  split
  · exact Nat.le_refl 1
  · exact Nat.succ_le_succ (Nat.zero_le _)

theorem digitCount_mono : Monotone digitCount := by
  intro first second le
  induction second using digitCount.induct generalizing first with
  | case1 second small =>
    rw [digitCount, if_pos (Nat.lt_of_le_of_lt le small), digitCount, if_pos small]
  | case2 second large inductionHypothesis =>
    rw [digitCount.eq_def second, if_neg large, digitCount]
    split
    · exact Nat.succ_le_succ (Nat.zero_le _)
    · exact Nat.succ_le_succ (inductionHypothesis (Nat.div_le_div_right le))

theorem digitCount_eq_length_toString (number : Nat) :
    digitCount number = (toString number).length := by
  change _ = number.repr.length
  rw [← String.length_toList, Nat.toList_repr]
  induction number using digitCount.induct with
  | case1 number small =>
    rw [digitCount, if_pos small, Nat.toDigits_of_lt_base small, List.length_singleton]
  | case2 number large inductionHypothesis =>
    rw [digitCount, if_neg large, inductionHypothesis,
      Nat.toDigits_of_base_le (by decide) (Nat.le_of_not_lt large), List.length_append,
      List.length_singleton]

theorem lt_ten_pow_digitCount (number : Nat) : number < 10 ^ digitCount number := by
  induction number using digitCount.induct with
  | case1 number small =>
    rw [digitCount, if_pos small]
    exact small
  | case2 number large inductionHypothesis =>
    rw [digitCount, if_neg large, Nat.pow_succ]
    omega

theorem ten_pow_le_of_digitCount {number : Nat} (positive : 0 < number) :
    10 ^ (digitCount number - 1) ≤ number := by
  induction number using digitCount.induct with
  | case1 number small =>
    rw [digitCount, if_pos small]
    exact positive
  | case2 number large inductionHypothesis =>
    have shorter := inductionHypothesis (by omega)
    obtain ⟨count, count_eq⟩ := Nat.exists_eq_add_of_le (one_le_digitCount (number / 10))
    rw [digitCount, if_neg large, Nat.add_sub_cancel, count_eq, Nat.add_comm 1 count,
      Nat.pow_succ]
    rw [count_eq, Nat.add_sub_cancel_left] at shorter
    omega

/-- The digits of a number stand for it. -/
theorem ofDigitChars_toString (number : Nat) :
    Nat.ofDigitChars 10 (toString number).toList 0 = number := by
  rw [Nat.toString_eq_ofList_toDigits, String.toList_ofList, Nat.ofDigitChars_ten_toDigits]

theorem eq_of_toString_eq {first second : Nat} (same : toString first = toString second) :
    first = second := by
  rw [← ofDigitChars_toString first, same, ofDigitChars_toString]

theorem isDigit_of_mem_toString {number : Nat} {c : Char}
    (member : c ∈ (toString number).toList) : c.isDigit := by
  change c ∈ number.repr.toList at member
  rw [Nat.toList_repr] at member
  exact Nat.isDigit_of_mem_toDigits (by decide) (by decide) member

theorem toList_toString_ne_nil (number : Nat) : (toString number).toList ≠ [] := by
  change number.repr.toList ≠ []
  rw [Nat.toList_repr]
  exact Nat.toDigits_ne_nil

/-- Only the numeral of zero starts with a zero. -/
theorem head?_toString_ne_zero {number : Nat} (positive : 0 < number) :
    (toString number).toList.head? ≠ some '0' := by
  change number.repr.toList.head? ≠ _
  rw [Nat.toList_repr]
  induction number using digitCount.induct with
  | case1 number small =>
    have others : ∀ digit < 10, 0 < digit → digit.digitChar ≠ '0' := by decide
    rw [Nat.toDigits_of_lt_base small, List.head?_cons, ne_eq, Option.some.injEq]
    exact others number small positive
  | case2 number large inductionHypothesis =>
    have first := inductionHypothesis (by omega)
    rw [Nat.toDigits_of_base_le (by decide) (Nat.le_of_not_lt large)]
    rwa [List.head?_append, Option.or_of_isSome (List.isSome_head?.mpr Nat.toDigits_ne_nil)]

theorem toList_toString_leading (number : Nat) :
    (toString number).toList = ['0'] ∨ (toString number).toList.head? ≠ some '0' := by
  rcases Nat.eq_zero_or_pos number with rfl | positive
  · exact .inl rfl
  · exact .inr (head?_toString_ne_zero positive)

end Highlight
