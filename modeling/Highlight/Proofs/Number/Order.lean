import Mathlib.Algebra.Order.Field.Rat
import Mathlib.Algebra.Order.Field.Power
import Mathlib.Order.Monotone.Basic
import Mathlib.Tactic.Linarith
import Mathlib.Tactic.Ring
import Highlight.Number.Binary

/-!
The order of binary numbers is the order of their values. Larger patterns stand for larger
magnitudes, since one binade goes on where the one below it ends.
-/

set_option autoImplicit false

namespace Highlight

theorem scaled_eq (mantissa : Nat) (exponent : Int) :
    scaled mantissa exponent = (mantissa : ℚ) * (2 : ℚ) ^ exponent := by
  unfold scaled
  split
  · next nonnegative =>
    obtain ⟨count, rfl⟩ := Int.eq_ofNat_of_zero_le nonnegative
    simp
  · next negative =>
    obtain ⟨count, count_eq⟩ := Int.eq_ofNat_of_zero_le (show 0 ≤ -exponent by omega)
    obtain rfl : exponent = -(count : Int) := by omega
    simp [Rat.mkRat_eq_div, div_eq_mul_inv]

namespace Binary

variable {format : Format}

/-- The value of the number with a pattern and no sign. -/
def patternValue (format : Format) (pattern : Nat) : ℚ :=
  let (mantissa, exponent) := (⟨false, pattern⟩ : Binary format).parts
  (mantissa : ℚ) * (2 : ℚ) ^ exponent

theorem patternValue_first {rest : Nat} (inside : rest < format.patternsPerBinade) :
    patternValue format rest = rest * (2 : ℚ) ^ format.leastExponent := by
  simp [patternValue, parts, inside]

theorem patternValue_later (binade : Nat) {rest : Nat}
    (inside : rest < format.patternsPerBinade) :
    patternValue format (format.patternsPerBinade * (binade + 1) + rest) =
      (rest + format.patternsPerBinade) * (2 : ℚ) ^ (format.leastExponent + binade) := by
  have positive : 0 < format.patternsPerBinade := Nat.two_pow_pos _
  have large : ¬format.patternsPerBinade * (binade + 1) + rest < format.patternsPerBinade := by
    rw [Nat.mul_succ]
    omega
  have quotient :
      (format.patternsPerBinade * (binade + 1) + rest) / format.patternsPerBinade = binade + 1 := by
    rw [Nat.mul_add_div positive, Nat.div_eq_of_lt inside, Nat.add_zero]
  have remainder :
      (format.patternsPerBinade * (binade + 1) + rest) % format.patternsPerBinade = rest := by
    rw [Nat.mul_add_mod, Nat.mod_eq_of_lt inside]
  have exponent : format.leastExponent + ((binade + 1 : Nat) : Int) - 1 =
      format.leastExponent + binade := by omega
  simp only [patternValue, parts, large, ↓reduceIte, quotient, remainder]
  rw [exponent, Nat.cast_add]

/-- The numbers of a binade end where those of the next one begin. -/
theorem patternValue_strictMono : StrictMono (patternValue format) := by
  have positive : 0 < format.patternsPerBinade := Nat.two_pow_pos _
  refine strictMono_nat_of_lt_succ fun pattern => ?_
  have split := Nat.div_add_mod pattern format.patternsPerBinade
  have inside := Nat.mod_lt pattern positive
  generalize pattern / format.patternsPerBinade = binade at split
  generalize pattern % format.patternsPerBinade = rest at split inside
  subst split
  have unit (exponent : Int) : (0 : ℚ) < 2 ^ exponent := by positivity
  -- The next pattern is in the same binade, or it begins the next one.
  by_cases last : rest + 1 < format.patternsPerBinade
  · cases binade with
    | zero =>
      rw [Nat.mul_zero, Nat.zero_add, patternValue_first inside, patternValue_first last]
      push_cast
      nlinarith [unit format.leastExponent]
    | succ binade =>
      rw [Nat.add_assoc, patternValue_later binade inside, patternValue_later binade last]
      push_cast
      nlinarith [unit (format.leastExponent + binade)]
  · have rest_eq : rest + 1 = format.patternsPerBinade := by omega
    have rest_cast : (rest : ℚ) = format.patternsPerBinade - 1 := by
      rw [← rest_eq]
      push_cast
      ring
    have next : format.patternsPerBinade * binade + rest + 1 =
        format.patternsPerBinade * (binade + 1) + 0 := by
      rw [Nat.mul_succ]
      omega
    rw [next, patternValue_later binade positive]
    cases binade with
    | zero =>
      rw [Nat.mul_zero, Nat.zero_add, patternValue_first inside, rest_cast]
      simp only [Nat.cast_zero, add_zero, zero_add]
      nlinarith [unit format.leastExponent]
    | succ binade =>
      have doubled : (2 : ℚ) ^ (format.leastExponent + ((binade + 1 : Nat) : Int)) =
          2 * 2 ^ (format.leastExponent + (binade : Int)) := by
        rw [Nat.cast_succ, ← add_assoc, zpow_add_one₀ two_ne_zero, mul_comm]
      rw [patternValue_later binade inside, doubled, rest_cast]
      push_cast
      nlinarith [unit (format.leastExponent + binade)]

@[simp] theorem patternValue_zero : patternValue format 0 = 0 := by
  have positive : 0 < format.patternsPerBinade := Nat.two_pow_pos _
  simpa using patternValue_first positive

theorem value_eq_patternValue (number : Binary format) :
    number.value =
      if number.negative then -patternValue format number.pattern
      else patternValue format number.pattern := by
  simp only [value, scaled_eq]
  rfl

theorem patternValue_nonneg (format : Format) (pattern : Nat) :
    0 ≤ patternValue format pattern := by
  rw [← patternValue_zero]
  exact patternValue_strictMono.monotone (Nat.zero_le pattern)

theorem patternValue_eq_zero_iff {pattern : Nat} :
    patternValue format pattern = 0 ↔ pattern = 0 :=
  patternValue_strictMono.injective.eq_iff' patternValue_zero

/-- Where a number stands among the others is decided by its value. -/
theorem value_le_value_iff {first second : Binary format} :
    first.value ≤ second.value ↔ first.rank ≤ second.rank := by
  rw [value_eq_patternValue, value_eq_patternValue, rank, rank]
  have firstNonneg := patternValue_nonneg format first.pattern
  have secondNonneg := patternValue_nonneg format second.pattern
  rcases first with ⟨_ | _, first⟩ <;> rcases second with ⟨_ | _, second⟩
  · simpa using patternValue_strictMono.le_iff_le
  · -- A number that is not negative is at most one with a sign only if both are zero.
    have values : patternValue format first ≤ -patternValue format second ↔
        patternValue format first = 0 ∧ patternValue format second = 0 := by
      constructor
      · intro atMost
        constructor <;> linarith
      · rintro ⟨firstZero, secondZero⟩
        rw [firstZero, secondZero, neg_zero]
    simp only [↓reduceIte, Bool.false_eq_true, values, patternValue_eq_zero_iff]
    omega
  · simp only [↓reduceIte, Bool.false_eq_true]
    constructor
    · intro
      omega
    · intro
      linarith
  · simpa using patternValue_strictMono.le_iff_le

theorem value_lt_value_iff {first second : Binary format} :
    first.value < second.value ↔ first.rank < second.rank := by
  rw [← not_le, value_le_value_iff, not_le]

theorem less_iff {first second : Binary format} (firstIs : ¬first.isNaN)
    (secondIs : ¬second.isNaN) :
    first.less second ↔ first.value < second.value := by
  simp [less, firstIs, secondIs, value_lt_value_iff]

theorem not_isNaN_of_isFinite {number : Binary format} (finite : number.isFinite) :
    ¬number.isNaN := by
  simp only [isFinite, isNaN, decide_eq_true_eq] at finite ⊢
  omega

theorem less_iff_of_isFinite {first second : Binary format} (firstFinite : first.isFinite)
    (secondFinite : second.isFinite) : first.less second ↔ first.value < second.value :=
  less_iff (not_isNaN_of_isFinite firstFinite) (not_isNaN_of_isFinite secondFinite)

/-- The greater of two finite numbers is one of them and at least both. -/
theorem max_of_isFinite {first second : Binary format} (firstFinite : first.isFinite)
    (secondFinite : second.isFinite) :
    (first.max second).isFinite ∧ first.value ≤ (first.max second).value ∧
      second.value ≤ (first.max second).value := by
  unfold Binary.max
  rw [if_neg (not_isNaN_of_isFinite firstFinite)]
  split
  · next less =>
    rw [less_iff_of_isFinite firstFinite secondFinite] at less
    exact ⟨secondFinite, less.le, le_rfl⟩
  · next notLess =>
    rw [less_iff_of_isFinite firstFinite secondFinite, not_lt] at notLess
    exact ⟨firstFinite, le_rfl, notLess⟩

theorem max_eq_left_of_le {first second : Binary format} (firstFinite : first.isFinite)
    (secondFinite : second.isFinite) (le : second.value ≤ first.value) :
    first.max second = first := by
  have notLess : ¬first.less second := by
    rw [less_iff_of_isFinite firstFinite secondFinite, not_lt]
    exact le
  rw [Binary.max, if_neg (not_isNaN_of_isFinite firstFinite), if_neg notLess]

/-- A finite number that is moved into a range is in the range. -/
theorem clamp_of_isFinite {number low high : Binary format} (finite : number.isFinite)
    (lowFinite : low.isFinite) (highFinite : high.isFinite) (ordered : low.value ≤ high.value) :
    (number.clamp low high).isFinite ∧ low.value ≤ (number.clamp low high).value ∧
      (number.clamp low high).value ≤ high.value := by
  unfold clamp
  split
  · exact ⟨lowFinite, le_rfl, ordered⟩
  next notBelow =>
  rw [less_iff_of_isFinite finite lowFinite, not_lt] at notBelow
  split
  · exact ⟨highFinite, ordered, le_rfl⟩
  · next notAbove =>
    rw [less_iff_of_isFinite highFinite finite, not_lt] at notAbove
    exact ⟨finite, notBelow, notAbove⟩

theorem clamp_eq_self {number low high : Binary format} (finite : number.isFinite)
    (lowFinite : low.isFinite) (highFinite : high.isFinite) (atLeast : low.value ≤ number.value)
    (atMost : number.value ≤ high.value) : number.clamp low high = number := by
  have notBelow : ¬number.less low := by
    rw [less_iff_of_isFinite finite lowFinite, not_lt]
    exact atLeast
  have notAbove : ¬high.less number := by
    rw [less_iff_of_isFinite highFinite finite, not_lt]
    exact atMost
  rw [clamp, if_neg notBelow, if_neg notAbove]

end Binary

end Highlight
