import Mathlib.Algebra.Order.Field.Basic
import Highlight.Proofs.Number.Order

/-!
How far rounding can lead. What is less than a power of two is rounded to that power at most, so
sums of exponents tell in advance that an operation gives no infinite number.
-/

set_option autoImplicit false

namespace Highlight

variable {numerator denominator : Nat}

theorem abs_eq_div (number : ℚ) : |number| = (number.num.natAbs : ℚ) / number.den := by
  rw [Rat.abs_def, Rat.divInt_eq_div]
  simp

/-! ## Fractions between powers of two -/

/-- The test whether a power of two is at most a fraction, in natural numbers. -/
theorem two_zpow_le_div_iff (denominatorPos : 0 < denominator) (exponent : Int) :
    (if 0 ≤ exponent then denominator * Nat.pow 2 exponent.toNat ≤ numerator
      else denominator ≤ numerator * Nat.pow 2 (-exponent).toNat) ↔
        (2 : ℚ) ^ exponent ≤ numerator / denominator := by
  have positive : (0 : ℚ) < denominator := Nat.cast_pos.mpr denominatorPos
  rw [le_div_iff₀ positive]
  split
  · next nonnegative =>
    obtain ⟨count, rfl⟩ := Int.eq_ofNat_of_zero_le nonnegative
    rw [Int.toNat_natCast, zpow_natCast, mul_comm, ← Nat.cast_le (α := ℚ)]
    push_cast
    simp
  · next negative =>
    obtain ⟨count, count_eq⟩ := Int.eq_ofNat_of_zero_le (show 0 ≤ -exponent by omega)
    obtain rfl : exponent = -(count : Int) := by omega
    have unit : (0 : ℚ) < 2 ^ count := by positivity
    rw [neg_neg, Int.toNat_natCast, zpow_neg, zpow_natCast, inv_mul_le_iff₀ unit, mul_comm,
      ← Nat.cast_le (α := ℚ)]
    push_cast
    simp

theorem log2_bounds {number : Nat} (positive : 0 < number) :
    (2 : ℚ) ^ (number.log2 : Int) ≤ number ∧ (number : ℚ) < 2 ^ ((number.log2 : Int) + 1) := by
  have nonzero : number ≠ 0 := Nat.ne_of_gt positive
  rw [← Nat.cast_succ, zpow_natCast, zpow_natCast]
  constructor
  · exact_mod_cast Nat.log2_self_le nonzero
  · exact_mod_cast Nat.lt_log2_self (n := number)

/-- A positive fraction lies between the power of two that is taken for it and the next one. -/
theorem binaryExponent_bounds (numeratorPos : 0 < numerator) (denominatorPos : 0 < denominator) :
    (2 : ℚ) ^ binaryExponent numerator denominator ≤ numerator / denominator ∧
      (numerator / denominator : ℚ) < 2 ^ (binaryExponent numerator denominator + 1) := by
  have positive : (0 : ℚ) < denominator := Nat.cast_pos.mpr denominatorPos
  obtain ⟨numeratorLow, numeratorHigh⟩ := log2_bounds numeratorPos
  obtain ⟨denominatorLow, denominatorHigh⟩ := log2_bounds denominatorPos
  have two_ne_zero : (2 : ℚ) ≠ 0 := by norm_num
  unfold binaryExponent
  generalize (numerator.log2 : Int) = top at *
  generalize (denominator.log2 : Int) = bottom at *
  -- The exponents of the two numbers tell the one of the fraction up to one.
  have above : (numerator / denominator : ℚ) < 2 ^ (top - bottom + 1) := by
    rw [div_lt_iff₀ positive]
    calc (numerator : ℚ) < 2 ^ (top + 1) := numeratorHigh
      _ = 2 ^ (top - bottom + 1) * 2 ^ bottom := by
        rw [← zpow_add₀ two_ne_zero]
        congr 1
        omega
      _ ≤ 2 ^ (top - bottom + 1) * denominator := by gcongr
  have below : (2 : ℚ) ^ (top - bottom - 1) ≤ numerator / denominator := by
    rw [le_div_iff₀ positive]
    calc (2 : ℚ) ^ (top - bottom - 1) * denominator
        ≤ 2 ^ (top - bottom - 1) * 2 ^ (bottom + 1) := by gcongr
      _ = 2 ^ top := by
        rw [← zpow_add₀ two_ne_zero]
        congr 1
        omega
      _ ≤ numerator := numeratorLow
  dsimp only
  simp only [two_zpow_le_div_iff denominatorPos]
  by_cases reached : (2 : ℚ) ^ (top - bottom) ≤ numerator / denominator
  · rw [if_pos reached]
    exact ⟨reached, above⟩
  · rw [if_neg reached, sub_add_cancel]
    exact ⟨below, not_le.mp reached⟩

/-! ## The nearest number -/

theorem nearestQuotient_le {bound : Nat} (less : numerator < bound * denominator) :
    nearestQuotient numerator denominator ≤ bound := by
  have quotient := Nat.div_lt_of_lt_mul (Nat.mul_comm bound denominator ▸ less)
  unfold nearestQuotient
  dsimp only
  split <;> omega

namespace Format

variable (format : Format)

/-- The exponent of the numbers from which on there is one binade for each power of two. -/
def normalExponent : Int :=
  format.leastExponent + (format.precision - 1 : Nat)

/-- The mantissa of a fraction that is not too large for an exponent fits two binades. -/
theorem mantissa_le {exponent : Int} (denominatorPos : 0 < denominator)
    (small : (numerator / denominator : ℚ) < 2 ^ (exponent + (format.precision - 1 : Nat) + 1)) :
    (if 0 ≤ exponent then nearestQuotient numerator (denominator * Nat.pow 2 exponent.toNat)
      else nearestQuotient (numerator * Nat.pow 2 (-exponent).toNat) denominator) ≤
        2 * format.patternsPerBinade := by
  have positive : (0 : ℚ) < denominator := Nat.cast_pos.mpr denominatorPos
  have two_ne_zero : (2 : ℚ) ≠ 0 := by norm_num
  have binades : (2 : ℚ) ^ (exponent + (format.precision - 1 : Nat) + 1) =
      2 * format.patternsPerBinade * 2 ^ exponent := by
    rw [zpow_add_one₀ two_ne_zero, zpow_add₀ two_ne_zero, zpow_natCast, patternsPerBinade]
    simp only [Nat.pow_eq]
    push_cast
    ring
  rw [div_lt_iff₀ positive, binades] at small
  -- The power of two goes to the side on which its exponent is not negative.
  split
  · next nonnegative =>
    obtain ⟨count, rfl⟩ := Int.eq_ofNat_of_zero_le nonnegative
    refine nearestQuotient_le ?_
    rw [zpow_natCast] at small
    rw [Int.toNat_natCast, ← Nat.cast_lt (α := ℚ)]
    simp only [Nat.pow_eq]
    push_cast
    linarith
  · next negative =>
    obtain ⟨count, count_eq⟩ := Int.eq_ofNat_of_zero_le (show 0 ≤ -exponent by omega)
    obtain rfl : exponent = -(count : Int) := by omega
    refine nearestQuotient_le ?_
    have unit : (0 : ℚ) < 2 ^ count := by positivity
    rw [zpow_neg, zpow_natCast, mul_right_comm, ← div_eq_mul_inv, lt_div_iff₀ unit] at small
    rw [neg_neg, Int.toNat_natCast, ← Nat.cast_lt (α := ℚ)]
    simp only [Nat.pow_eq]
    push_cast
    exact small

/-- What is less than a power of two is rounded to that power at most. -/
theorem nearest_le {exponent : Int} (normal : format.normalExponent ≤ exponent)
    (denominatorPos : 0 < denominator)
    (small : (numerator / denominator : ℚ) < 2 ^ (exponent + 1)) :
    format.nearest numerator denominator ≤
      format.patternsPerBinade * ((exponent - format.normalExponent).toNat + 2) := by
  unfold nearest
  split
  · exact Nat.zero_le _
  next nonzero =>
  obtain ⟨low, high⟩ := binaryExponent_bounds (Nat.pos_of_ne_zero nonzero) denominatorPos
  have below : binaryExponent numerator denominator < exponent + 1 :=
    (zpow_lt_zpow_iff_right₀ (by norm_num : (1 : ℚ) < 2)).mp (low.trans_lt small)
  dsimp only
  generalize own_eq : max format.leastExponent
    (binaryExponent numerator denominator - (format.precision - 1 : Nat)) = own
  have own_le : own - format.leastExponent ≤ exponent - format.normalExponent := by
    unfold normalExponent at normal ⊢
    omega
  have fits : (numerator / denominator : ℚ) < 2 ^ (own + (format.precision - 1 : Nat) + 1) :=
    high.trans_le (zpow_le_zpow_right₀ (by norm_num) (by omega))
  have mantissa := format.mantissa_le denominatorPos fits
  calc min format.infinity _
      ≤ (own - format.leastExponent).toNat * format.patternsPerBinade + _ := Nat.min_le_right _ _
    _ ≤ (exponent - format.normalExponent).toNat * format.patternsPerBinade +
        2 * format.patternsPerBinade :=
      Nat.add_le_add (Nat.mul_le_mul_right _ (Int.toNat_le_toNat own_le)) mantissa
    _ = format.patternsPerBinade * ((exponent - format.normalExponent).toNat + 2) := by ring

end Format

namespace Binary

/-- The pattern of a power of two that has a binade. -/
theorem patternValue_two_zpow (format : Format) {exponent : Int}
    (normal : format.normalExponent ≤ exponent) :
    patternValue format
        (format.patternsPerBinade * ((exponent - format.normalExponent).toNat + 2)) =
      2 ^ (exponent + 1) := by
  have positive : 0 < format.patternsPerBinade := Nat.two_pow_pos _
  have two_ne_zero : (2 : ℚ) ≠ 0 := by norm_num
  have value := patternValue_later ((exponent - format.normalExponent).toNat + 1) positive
  rw [Nat.add_zero, Nat.cast_zero, zero_add] at value
  have binade : (format.patternsPerBinade : ℚ) = 2 ^ ((format.precision - 1 : Nat) : Int) := by
    rw [zpow_natCast, Format.patternsPerBinade]
    simp
  rw [value, binade, ← zpow_add₀ two_ne_zero]
  congr 1
  unfold Format.normalExponent at normal ⊢
  omega

variable {format : Format}

theorem abs_value (number : Binary format) :
    |number.value| = patternValue format number.pattern := by
  have nonneg := patternValue_nonneg format number.pattern
  rw [value_eq_patternValue]
  split
  · rw [abs_neg, abs_of_nonneg nonneg]
  · rw [abs_of_nonneg nonneg]

/-- A magnitude below a power of two is rounded to it at most, and is finite if that is. -/
theorem ofMagnitude_bounds (isNegative : Bool) {magnitude : ℚ} {exponent : Int}
    (normal : format.normalExponent ≤ exponent) (small : |magnitude| < 2 ^ (exponent + 1))
    (fits : format.patternsPerBinade * ((exponent - format.normalExponent).toNat + 2) <
      format.infinity) :
    (ofMagnitude isNegative magnitude : Binary format).isFinite ∧
      |(ofMagnitude isNegative magnitude : Binary format).value| ≤ 2 ^ (exponent + 1) := by
  rw [abs_eq_div] at small
  have pattern := format.nearest_le normal magnitude.den_pos small
  constructor
  · rw [isFinite, decide_eq_true_eq]
    exact pattern.trans_lt fits
  · rw [abs_value, ← patternValue_two_zpow format normal]
    exact patternValue_strictMono.monotone pattern

theorem not_isInfinite_of_isFinite {number : Binary format} (finite : number.isFinite) :
    number.isInfinite = false := by
  rw [isFinite, decide_eq_true_eq] at finite
  rw [isInfinite, beq_eq_false_iff_ne]
  exact Nat.ne_of_lt finite

/-- The exponents of factors add up. -/
theorem mul_isFinite {first second : Binary format} (firstFinite : first.isFinite)
    (secondFinite : second.isFinite) {exponent : Int} (normal : format.normalExponent ≤ exponent)
    (small : |first.value * second.value| < 2 ^ (exponent + 1))
    (fits : format.patternsPerBinade * ((exponent - format.normalExponent).toNat + 2) <
      format.infinity) :
    (first.mul second).isFinite := by
  simp only [mul, not_isNaN_of_isFinite firstFinite, not_isNaN_of_isFinite secondFinite,
    not_isInfinite_of_isFinite firstFinite, not_isInfinite_of_isFinite secondFinite, Bool.or_self,
    Bool.false_eq_true, ↓reduceIte]
  exact (ofMagnitude_bounds _ normal small fits).1

end Binary

end Highlight
