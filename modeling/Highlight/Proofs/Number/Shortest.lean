import Mathlib.Data.Rat.Floor
import Highlight.Number.Decimal
import Highlight.Proofs.Number.Digits
import Highlight.Proofs.Number.Rounding

/-!
How large the digits and the exponent of a shortest decimal can be. The number of digits is tried
from one on, so the digits are few, and they start where the number does.
-/

set_option autoImplicit false

namespace Highlight

variable {numerator denominator : Nat}

/-- The digits of the whole part of a fraction tell between which powers of ten it is. -/
theorem digitCount_div_bounds (denominatorPos : 0 < denominator)
    (whole : denominator ≤ numerator) :
    (10 : ℚ) ^ (digitCount (numerator / denominator) - 1) ≤ numerator / denominator ∧
      (numerator / denominator : ℚ) < 10 ^ digitCount (numerator / denominator) := by
  have positive : (0 : ℚ) < denominator := Nat.cast_pos.mpr denominatorPos
  have low := ten_pow_le_of_digitCount (Nat.div_pos whole denominatorPos)
  have high := lt_ten_pow_digitCount (numerator / denominator)
  rw [le_div_iff₀ positive, div_lt_iff₀ positive]
  constructor
  · exact_mod_cast (Nat.le_div_iff_mul_le denominatorPos).mp low
  · exact_mod_cast (Nat.div_lt_iff_lt_mul denominatorPos).mp high

/-- A positive fraction lies between the power of ten that is taken for it and the next one. -/
theorem decimalExponent_bounds (numeratorPos : 0 < numerator) (denominatorPos : 0 < denominator) :
    (10 : ℚ) ^ decimalExponent numerator denominator ≤ numerator / denominator ∧
      (numerator / denominator : ℚ) < 10 ^ (decimalExponent numerator denominator + 1) := by
  unfold decimalExponent
  split
  · next whole =>
    have counted := one_le_digitCount (numerator / denominator)
    have next : ((digitCount (numerator / denominator) - 1 : Nat) : Int) + 1 =
        (digitCount (numerator / denominator) : Nat) := by omega
    rw [next, zpow_natCast, zpow_natCast]
    exact digitCount_div_bounds denominatorPos whole
  · next small =>
    obtain ⟨low, high⟩ := digitCount_div_bounds numeratorPos (Nat.le_of_not_le small)
    have counted := one_le_digitCount (denominator / numerator)
    have positive : (0 : ℚ) < numerator := Nat.cast_pos.mpr numeratorPos
    have unit (count : Nat) : (0 : ℚ) < 10 ^ count := by positivity
    rw [← inv_div (denominator : ℚ) (numerator : ℚ)]
    dsimp only
    generalize digitCount (denominator / numerator) = count at *
    -- The digits of the inverse are one too many where the fraction is a power of ten.
    split
    · next reached =>
      have value : (denominator / numerator : ℚ) = 10 ^ (count - 1) := by
        rw [div_eq_iff positive.ne', ← reached, mul_comm]
        simp
      rw [value, zpow_add_one₀ (by norm_num), zpow_neg, zpow_natCast]
      have power := inv_pos.mpr (unit (count - 1))
      constructor <;> linarith
    · next notReached =>
      have next : -(count : Int) + 1 = -((count - 1 : Nat) : Int) := by omega
      rw [next, zpow_neg, zpow_neg, zpow_natCast, zpow_natCast]
      have above : (10 : ℚ) ^ (count - 1) < denominator / numerator := by
        refine lt_of_le_of_ne low fun same => notReached ?_
        rw [eq_div_iff positive.ne', mul_comm] at same
        exact_mod_cast same
      exact ⟨inv_anti₀ ((unit _).trans above) high.le, inv_strictAnti₀ (unit _) above⟩

namespace Decimal

theorem value_eq (decimal : Decimal) : decimal.value = decimal.units * 10 ^ decimal.exponent := by
  unfold value
  split
  · next nonnegative =>
    obtain ⟨count, count_eq⟩ := Int.eq_ofNat_of_zero_le nonnegative
    rw [count_eq]
    simp
  · next negative =>
    obtain ⟨count, count_eq⟩ := Int.eq_ofNat_of_zero_le (show 0 ≤ -decimal.exponent by omega)
    obtain exponent_eq : decimal.exponent = -(count : Int) := by omega
    rw [exponent_eq]
    simp [Rat.mkRat_eq_div, div_eq_mul_inv]

/-- There are few digits and no large exponent; and zero has none. -/
structure Bounded (decimal : Decimal) (greatestUnits : Nat) (greatestExponent : Int) : Prop where
  units_le : decimal.units ≤ greatestUnits
  exponent_le : decimal.exponent ≤ greatestExponent
  zero : decimal.units = 0 → decimal.exponent = 0

/-- Each zero that is left out can make the exponent larger by one. -/
theorem Bounded.withoutZeros {decimal : Decimal} {greatestUnits : Nat} {greatestExponent : Int}
    (bounded : decimal.Bounded greatestUnits greatestExponent) (fuel : Nat) :
    (decimal.withoutZeros fuel).Bounded greatestUnits (greatestExponent + fuel) := by
  induction fuel generalizing decimal greatestExponent with
  | zero =>
    rw [Nat.cast_zero, add_zero]
    exact bounded
  | succ fuel inductionHypothesis =>
    have units_le := bounded.units_le
    have exponent_le := bounded.exponent_le
    unfold Decimal.withoutZeros
    split
    · next endsWithZero =>
      have shorter : (⟨decimal.units / 10, decimal.exponent + 1⟩ : Decimal).Bounded greatestUnits
          (greatestExponent + 1) := by
        constructor <;> dsimp only <;> omega
      have rest := inductionHypothesis shorter
      rwa [add_assoc, add_comm 1, ← Nat.cast_succ] at rest
    · exact ⟨units_le, by omega, bounded.zero⟩

end Decimal

/-- The decimals around a magnitude have so many digits as are asked for. -/
theorem decimalOf?_bounded {interval : RoundingInterval} {magnitude : ℚ} {top : Int} {more : Nat}
    (below : magnitude < 10 ^ (top + 1)) {decimal : Decimal}
    (found : decimalOf? interval magnitude (top - more) = some decimal) :
    decimal.Bounded (10 ^ (more + 1)) (top - more) := by
  have unit : (0 : ℚ) < 10 ^ (top - more) := by positivity
  have value : Decimal.value ⟨1, top - more⟩ = 10 ^ (top - more) := by
    rw [Decimal.value_eq, Nat.cast_one, one_mul]
  have lower : (magnitude / 10 ^ (top - more)).floor.toNat < 10 ^ (more + 1) := by
    have quotient : magnitude / 10 ^ (top - more) < ((10 ^ (more + 1) : Nat) : Int) := by
      have exponents : ((more + 1 : Nat) : Int) + (top - more) = top + 1 := by
        push_cast
        ring
      rw [div_lt_iff₀ unit]
      push_cast
      rwa [← zpow_natCast, ← zpow_add₀ (by norm_num), exponents]
    have floored := Int.floor_lt.mpr quotient
    have same : (magnitude / 10 ^ (top - more)).floor = ⌊magnitude / 10 ^ (top - more)⌋ := rfl
    have positive : 0 < 10 ^ (more + 1) := by positivity
    omega
  unfold decimalOf? at found
  rw [value] at found
  dsimp only at found
  generalize (magnitude / 10 ^ (top - more)).floor.toNat = units at *
  have accepted := List.find?_some found
  have among := List.mem_of_find?_eq_some found
  simp only [Bool.and_eq_true, bne_iff_ne] at accepted
  split at among <;> simp only [List.mem_cons, List.not_mem_nil, or_false] at among
  all_goals
    rcases among with rfl | rfl
    all_goals exact ⟨by dsimp only; omega, le_rfl, fun isZero => absurd isZero accepted.1⟩

theorem Decimal.Bounded.mono {decimal : Decimal} {units greatestUnits : Nat}
    {exponent greatestExponent : Int} (bounded : decimal.Bounded units exponent)
    (units_le : units ≤ greatestUnits) (exponent_le : exponent ≤ greatestExponent) :
    decimal.Bounded greatestUnits greatestExponent :=
  ⟨bounded.units_le.trans units_le, bounded.exponent_le.trans exponent_le, bounded.zero⟩

/-- A number below a power of ten is written with at most 18 digits, and with an exponent that is
not much larger than that of the power. -/
theorem shortestDecimal_bounded {format : Format} {number : Binary format} {top : Nat}
    (nonzero : number.isZero = false) (below : |number.value| < 10 ^ (top + 1)) :
    (shortestDecimal number).Bounded (10 ^ 17) (top + 20) := by
  have magnitude_eq : scaled number.parts.1 number.parts.2 = |number.value| := by
    rw [Binary.abs_value, scaled_eq]
    rfl
  have positive : 0 < |number.value| := by
    rw [Binary.isZero, beq_eq_false_iff_ne] at nonzero
    rw [Binary.abs_value, lt_iff_le_and_ne, ne_comm, Ne, Binary.patternValue_eq_zero_iff]
    exact ⟨Binary.patternValue_nonneg _ _, nonzero⟩
  unfold shortestDecimal
  rw [magnitude_eq]
  generalize |number.value| = magnitude at *
  have fraction : (magnitude.num.natAbs : ℚ) / magnitude.den = magnitude := by
    rw [← abs_eq_div, abs_of_pos positive]
  have numeratorPos : 0 < magnitude.num.natAbs := Int.natAbs_pos.mpr (Rat.num_pos.mpr positive).ne'
  obtain ⟨low, high⟩ := decimalExponent_bounds numeratorPos magnitude.den_pos
  rw [fraction] at low high
  dsimp only
  generalize decimalExponent magnitude.num.natAbs magnitude.den = own at *
  have own_le : own < top + 1 := by
    have less := low.trans_lt below
    rw [← Nat.cast_succ, ← zpow_natCast] at *
    exact (zpow_lt_zpow_iff_right₀ (by norm_num)).mp less
  refine Decimal.Bounded.withoutZeros ?_ 20
  cases found_eq : (List.range 17).findSome? fun (more : Nat) =>
      decimalOf? (.of number) magnitude (own - more) with
  | none => exact ⟨Nat.zero_le _, Int.natCast_nonneg top, fun _ => rfl⟩
  | some found =>
    obtain ⟨more, inRange, tried⟩ := List.exists_of_findSome?_eq_some found_eq
    have few := List.mem_range.mp inRange
    refine (decimalOf?_bounded high tried).mono ?_ (by omega)
    exact Nat.pow_le_pow_right (by decide) (by omega)

end Highlight
