import Mathlib.Tactic.Linarith
import Highlight.Proofs.Layout.ExactLengths
import Highlight.Proofs.Number.Digits
import Highlight.Surface.Painting

/-!
The gutter is wide enough for the line numbers in it. Its digits are those of the last line's
number, which no other number exceeds; its width grows with them, and the text beside it always
keeps the same distance.
-/

set_option autoImplicit false

namespace Highlight

theorem length_lineLabel (row : Nat) : (lineLabel row).length = digitCount (row + 1) :=
  (digitCount_eq_length_toString (row + 1)).symm

namespace GutterLayout

variable {lineCount fewer more row : Nat}

section

variable {Length : Type} [Measure Length] (charWidth : Length) (shown : Bool)

theorem digits_compute :
    (compute lineCount charWidth shown).digits = digitCount (Nat.max lineCount 1) := rfl

theorem digits_compute_mono (le : fewer ≤ more) :
    (compute fewer charWidth shown).digits ≤ (compute more charWidth shown).digits :=
  digitCount_mono (max_le_max_right 1 le)

/-- No line has a longer number than the gutter has digits. -/
theorem length_lineLabel_le (inside : row < lineCount) :
    (lineLabel row).length ≤ (compute lineCount charWidth shown).digits := by
  rw [length_lineLabel, digits_compute]
  exact digitCount_mono (Nat.le_trans inside (Nat.le_max_left lineCount 1))

theorem length_lastLabel (present : 1 ≤ lineCount) :
    (lineLabel (lineCount - 1)).length = (compute lineCount charWidth shown).digits := by
  have last : lineCount - 1 + 1 = lineCount := Nat.sub_add_cancel present
  have most : Nat.max lineCount 1 = lineCount := Nat.max_eq_left present
  rw [length_lineLabel, last, digits_compute, most]

end

/-! ## Widths -/

variable {charWidth : ℚ}

theorem gutterWidth_shown :
    (compute lineCount charWidth true).gutterWidth =
      max ((compute lineCount charWidth true).digits * charWidth + 2 * gutterPadding) 20 := by
  simp [compute, leastGutterWidth]

theorem contentPadding_sub_gutterWidth (lineCount : Nat) (charWidth : ℚ) (shown : Bool) :
    (compute lineCount charWidth shown).contentPadding -
      (compute lineCount charWidth shown).gutterWidth = textInset := by
  cases shown with
  | false => simp [compute]
  | true => simp [compute]

theorem digits_fit :
    (compute lineCount charWidth true).digits * charWidth ≤
      (compute lineCount charWidth true).gutterWidth - 2 * gutterPadding := by
  rw [gutterWidth_shown, le_sub_iff_add_le]
  exact le_max_left _ _

theorem gutterWidth_mono (nonnegative : 0 ≤ charWidth) :
    Monotone fun lineCount => (compute lineCount charWidth true).gutterWidth := by
  intro fewer more le
  have digits : ((compute fewer charWidth true).digits : ℚ) ≤
      (compute more charWidth true).digits :=
    Nat.cast_le.mpr (digits_compute_mono charWidth true le)
  simp only [gutterWidth_shown]
  gcongr

/-- A second digit needs more than the least width when characters are wider than what the least
width leaves to each of two. -/
theorem gutterWidth_lt (wide : 2 < charWidth)
    (longer : (compute fewer charWidth true).digits < (compute more charWidth true).digits) :
    (compute fewer charWidth true).gutterWidth < (compute more charWidth true).gutterWidth := by
  have positive : (1 : ℚ) ≤ (compute fewer charWidth true).digits :=
    Nat.one_le_cast.mpr (one_le_digitCount _)
  have further : ((compute fewer charWidth true).digits : ℚ) + 1 ≤
      (compute more charWidth true).digits := by
    exact_mod_cast longer
  have padding : (2 * gutterPadding : ℚ) = 16 := by norm_num [gutterPadding]
  rw [gutterWidth_shown, gutterWidth_shown, padding]
  refine lt_of_lt_of_le (max_lt ?_ ?_) (le_max_left _ _)
  · nlinarith
  · nlinarith

end GutterLayout

/-- The number of a line has at most as many digits as the gutter, whatever lengths are measured in,
and the number of the last line has just as many. Measured exactly, the digits fit between the
paddings of a gutter that is shown; the gutter does not get narrower when there are more lines, and
gets wider when there are more digits, provided that a character is wider than 2; and the text keeps
the same distance from the gutter whether that is shown or not. -/
theorem labels_fit_gutter :
    (∀ {Length : Type} [Measure Length] (charWidth : Length) (shown : Bool) (lineCount : Nat),
      1 ≤ lineCount →
        let digits := (GutterLayout.compute lineCount charWidth shown).digits
        (∀ row < lineCount, (lineLabel row).length ≤ digits) ∧
          (lineLabel (lineCount - 1)).length = digits) ∧
      (∀ charWidth : ℚ, 0 ≤ charWidth →
        let layout (lineCount : Nat) := GutterLayout.compute lineCount charWidth true
        (∀ lineCount,
          let room := (layout lineCount).gutterWidth - 2 * gutterPadding
          (layout lineCount).digits * charWidth ≤ room ∧
            ∀ row < lineCount, (lineLabel row).length * charWidth ≤ room) ∧
          (∀ fewer more, fewer ≤ more → (layout fewer).gutterWidth ≤ (layout more).gutterWidth) ∧
          (2 < charWidth → ∀ fewer more, (layout fewer).digits < (layout more).digits →
            (layout fewer).gutterWidth < (layout more).gutterWidth)) ∧
      ∀ (charWidth : ℚ) (shown : Bool) (lineCount : Nat),
        let layout := GutterLayout.compute lineCount charWidth shown
        layout.contentPadding - layout.gutterWidth = textInset := by
  refine ⟨fun charWidth shown lineCount present => ⟨fun row inside => ?_, ?_⟩,
    fun charWidth nonnegative => ⟨fun lineCount => ⟨?_, fun row inside => ?_⟩, ?_, ?_⟩, ?_⟩
  · exact GutterLayout.length_lineLabel_le charWidth shown inside
  · exact GutterLayout.length_lastLabel charWidth shown present
  · exact GutterLayout.digits_fit
  · have atMost : ((lineLabel row).length : ℚ) ≤
        (GutterLayout.compute lineCount charWidth true).digits :=
      Nat.cast_le.mpr (GutterLayout.length_lineLabel_le charWidth true inside)
    exact (mul_le_mul_of_nonneg_right atMost nonnegative).trans GutterLayout.digits_fit
  · exact fun fewer more le => GutterLayout.gutterWidth_mono nonnegative le
  · exact fun wide fewer more longer => GutterLayout.gutterWidth_lt wide longer
  · exact fun charWidth shown lineCount =>
      GutterLayout.contentPadding_sub_gutterWidth lineCount charWidth shown

/-- The tenth line widens a gutter of the least width, and its number fits. -/
theorem gutter_of_tenth_line :
    let layout (lineCount : Nat) := GutterLayout.compute lineCount (18 / 5 : ℚ) true
    (layout 9).gutterWidth = leastGutterWidth ∧ (lineLabel 9).length = (layout 10).digits ∧
      (lineLabel 9).length * (18 / 5) ≤ (layout 10).gutterWidth - 2 * gutterPadding ∧
      (layout 9).gutterWidth < (layout 10).gutterWidth ∧
      (layout 10).contentPadding - (layout 10).gutterWidth = textInset := by
  obtain ⟨numbered, widths, distance⟩ := labels_fit_gutter
  obtain ⟨fits, _, widens⟩ := widths (18 / 5) (by norm_num)
  exact ⟨by decide +kernel, (numbered (18 / 5 : ℚ) true 10 (by decide)).2,
    (fits 10).2 9 (by decide), widens (by norm_num) 9 10 (by decide +kernel), distance _ _ _⟩

end Highlight
