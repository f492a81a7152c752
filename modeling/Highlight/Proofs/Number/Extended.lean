import Mathlib.Algebra.Order.Monoid.Unbundled.WithTop
import Highlight.Proofs.Number.Order

/-!
A length stands for a fraction, or for an infinity at either end of them; what is no number stands
for nothing. Lengths are compared as what they stand for is. The greater of two lengths stands for
the greater of what they stand for, where nothing gives way to anything.
-/

set_option autoImplicit false

namespace Highlight

/-- Fractions, with an infinity at either end. -/
abbrev ExtendedRat :=
  WithBot (WithTop ℚ)

namespace Binary

variable {number first second low high : Single}
  {reading firstReading secondReading least greatest : ExtendedRat}

/-- What a number stands for. -/
def reading? (number : Single) : Option ExtendedRat :=
  if number.isNaN then none
  else if number.isFinite then some ((number.value : WithTop ℚ) : ExtendedRat)
  else some (if number.negative then ⊥ else ⊤)

theorem reading?_eq_none_iff : number.reading? = none ↔ number.isNaN := by
  unfold reading?
  split
  · next isNaN => simp [isNaN]
  · next isNumber => split <;> simp [isNumber]

theorem not_isNaN_of_reading? (stands : number.reading? = some reading) : ¬number.isNaN := by
  rw [← reading?_eq_none_iff, stands]
  exact Option.some_ne_none reading

theorem reading?_of_isFinite (finite : number.isFinite) :
    number.reading? = some ((number.value : WithTop ℚ) : ExtendedRat) := by
  rw [reading?, if_neg (not_isNaN_of_isFinite finite), if_pos finite]

theorem reading?_zero : (zero false : Single).reading? = some 0 := by
  have value_zero : (zero false : Single).value = 0 := by decide
  rw [reading?_of_isFinite (by decide), value_zero]
  rfl

/-- A number is a fraction or one of the infinities. -/
theorem reading?_cases (stands : number.reading? = some reading) :
    (number.isFinite ∧ reading = ((number.value : WithTop ℚ) : ExtendedRat)) ∨
      (number = infinite false ∧ reading = ⊤) ∨ (number = infinite true ∧ reading = ⊥) := by
  have isNumber := not_isNaN_of_reading? stands
  rw [reading?, if_neg isNumber] at stands
  by_cases finite : number.isFinite
  · rw [if_pos finite] at stands
    exact .inl ⟨finite, (Option.some.inj stands).symm⟩
  rw [if_neg finite] at stands
  rcases number with ⟨negative, pattern⟩
  obtain rfl : pattern = Format.single.infinity := by
    simp only [isNaN, isFinite, decide_eq_true_eq] at isNumber finite
    omega
  cases negative with
  | false => exact .inr (.inl ⟨rfl, (Option.some.inj stands).symm⟩)
  | true => exact .inr (.inr ⟨rfl, (Option.some.inj stands).symm⟩)

theorem rank_of_isFinite (finite : number.isFinite) :
    (infinite true : Single).rank < number.rank ∧ number.rank < (infinite false : Single).rank := by
  simp only [isFinite, decide_eq_true_eq] at finite
  simp only [rank, infinite, ↓reduceIte, Bool.false_eq_true]
  split <;> omega

/-- Where a number stands among the others is decided by what it stands for. -/
theorem reading_le_reading_iff (firstStands : first.reading? = some firstReading)
    (secondStands : second.reading? = some secondReading) :
    firstReading ≤ secondReading ↔ first.rank ≤ second.rank := by
  have infinities : (infinite true : Single).rank < (infinite false : Single).rank := by decide
  -- Only between two fractions the patterns count; an infinity is at an end of the ranks.
  rcases reading?_cases firstStands with ⟨firstFinite, rfl⟩ | ⟨rfl, rfl⟩ | ⟨rfl, rfl⟩
  · have between := rank_of_isFinite firstFinite
    rcases reading?_cases secondStands with ⟨secondFinite, rfl⟩ | ⟨rfl, rfl⟩ | ⟨rfl, rfl⟩
    · rw [WithBot.coe_le_coe, WithTop.coe_le_coe]
      exact value_le_value_iff
    · exact iff_of_true le_top between.2.le
    · exact iff_of_false (by simp) between.1.not_ge
  · rcases reading?_cases secondStands with ⟨secondFinite, rfl⟩ | ⟨rfl, rfl⟩ | ⟨rfl, rfl⟩
    · exact iff_of_false (by simp) (rank_of_isFinite secondFinite).2.not_ge
    · exact iff_of_true le_rfl le_rfl
    · exact iff_of_false (by simp) infinities.not_ge
  · rcases reading?_cases secondStands with ⟨secondFinite, rfl⟩ | ⟨rfl, rfl⟩ | ⟨rfl, rfl⟩
    · exact iff_of_true bot_le (rank_of_isFinite secondFinite).1.le
    · exact iff_of_true bot_le infinities.le
    · exact iff_of_true le_rfl le_rfl

theorem less_iff_reading_lt (firstStands : first.reading? = some firstReading)
    (secondStands : second.reading? = some secondReading) :
    first.less second ↔ firstReading < secondReading := by
  have firstIs := not_isNaN_of_reading? firstStands
  have secondIs := not_isNaN_of_reading? secondStands
  rw [← not_le, reading_le_reading_iff secondStands firstStands, not_le]
  simp [less, firstIs, secondIs]

theorem exists_reading (isNumber : ¬number.isNaN) : ∃ reading, number.reading? = some reading := by
  rw [← reading?_eq_none_iff] at isNumber
  exact Option.ne_none_iff_exists'.mp isNumber

theorem atMost_iff_rank_le :
    first.atMost second ↔ ¬first.isNaN ∧ ¬second.isNaN ∧ first.rank ≤ second.rank := by
  simp only [atMost, less, same, Bool.or_eq_true, Bool.and_eq_true, Bool.not_eq_true',
    Bool.not_eq_true, decide_eq_true_eq, beq_iff_eq, le_iff_lt_or_eq]
  tauto

/-- Nothing is at most what is no number, nor the other way round. -/
theorem atMost_iff_exists_reading :
    first.atMost second ↔ ∃ firstReading secondReading, first.reading? = some firstReading ∧
      second.reading? = some secondReading ∧ firstReading ≤ secondReading := by
  rw [atMost_iff_rank_le]
  constructor
  · rintro ⟨firstIs, secondIs, le⟩
    obtain ⟨firstReading, firstStands⟩ := exists_reading firstIs
    obtain ⟨secondReading, secondStands⟩ := exists_reading secondIs
    rw [← reading_le_reading_iff firstStands secondStands] at le
    exact ⟨firstReading, secondReading, firstStands, secondStands, le⟩
  · rintro ⟨firstReading, secondReading, firstStands, secondStands, le⟩
    rw [reading_le_reading_iff firstStands secondStands] at le
    exact ⟨not_isNaN_of_reading? firstStands, not_isNaN_of_reading? secondStands, le⟩

theorem max_of_isNaN_right (secondNaN : second.isNaN) (firstIs : ¬first.isNaN) :
    first.max second = first := by
  simp [Binary.max, less, firstIs, secondNaN]

/-- The greater of two numbers stands for the greater of what they stand for. What is no number
gives way to the other. -/
theorem reading?_max (first second : Single) :
    (first.max second).reading? = first.reading?.merge (· ⊔ ·) second.reading? := by
  cases firstStands : first.reading? with
  | none =>
    rw [Binary.max, if_pos (reading?_eq_none_iff.mp firstStands), Option.merge_none_left]
  | some firstReading =>
    have firstIs := not_isNaN_of_reading? firstStands
    cases secondStands : second.reading? with
    | none =>
      rw [max_of_isNaN_right (reading?_eq_none_iff.mp secondStands) firstIs, firstStands,
        Option.merge_none_right]
    | some secondReading =>
      rw [Binary.max, if_neg firstIs, Option.merge_some_some]
      split
      · next less =>
        rw [less_iff_reading_lt firstStands secondStands] at less
        rw [secondStands, sup_eq_right.mpr less.le]
      · next notLess =>
        rw [less_iff_reading_lt firstStands secondStands, not_lt] at notLess
        rw [firstStands, sup_eq_left.mpr notLess]

theorem reading?_max_of_right (secondStands : second.reading? = some secondReading) :
    (first.max second).reading? =
      some (first.reading?.getD secondReading ⊔ secondReading) := by
  rw [reading?_max, secondStands]
  cases first.reading? with
  | none => rw [Option.merge_none_left, Option.getD_none, sup_idem]
  | some firstReading => rw [Option.merge_some_some, Option.getD_some]

/-- A number that is moved into a range stands for what is nearest in the range to what it stood
for. What is no number stays what it is. -/
theorem reading?_clamp (lowStands : low.reading? = some least)
    (highStands : high.reading? = some greatest) (ordered : least ≤ greatest) :
    (number.clamp low high).reading? =
      number.reading?.map fun reading => least ⊔ (reading ⊓ greatest) := by
  cases stands : number.reading? with
  | none =>
    have isNaN := reading?_eq_none_iff.mp stands
    simp [clamp, less, isNaN, stands]
  | some reading =>
    rw [clamp, Option.map_some]
    split
    · next below =>
      rw [less_iff_reading_lt stands lowStands] at below
      rw [lowStands, inf_eq_left.mpr (below.le.trans ordered), sup_eq_left.mpr below.le]
    next notBelow =>
    rw [less_iff_reading_lt stands lowStands, not_lt] at notBelow
    split
    · next above =>
      rw [less_iff_reading_lt highStands stands] at above
      rw [highStands, inf_eq_right.mpr above.le, sup_eq_right.mpr ordered]
    · next notAbove =>
      rw [less_iff_reading_lt highStands stands, not_lt] at notAbove
      rw [stands, inf_eq_left.mpr notAbove, sup_eq_right.mpr notBelow]

/-- A number is moved into a range just when there is one. -/
theorem clamp?_eq_some_iff {moved : Single} :
    number.clamp? low high = some moved ↔ low.atMost high ∧ number.clamp low high = moved := by
  rw [clamp?, Option.ite_none_right_eq_some, Option.some.injEq]

end Binary

end Highlight
