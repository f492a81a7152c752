import Highlight.Proofs.Layout.ExactLengths
import Highlight.Surface.Painting

/-!
The rows that are numbered beside a text, when lengths are measured exactly. The range starts with
the first row that ends below the upper edge of the viewport and goes on to the first one that
starts at the lower edge or below it. So every row in view is in the range. A text that starts below
the upper edge counts as one that starts there, so the range may then go on further.
-/

set_option autoImplicit false

namespace Highlight

/-- A row is in view when it starts above the lower edge of the viewport and ends below the upper
one. -/
def IsInView (scroll inset viewport rowHeight : ℚ) (row : Nat) : Prop :=
  rowTop row rowHeight inset scroll < viewport ∧ 0 < rowTop row rowHeight inset scroll + rowHeight

instance (scroll inset viewport rowHeight : ℚ) (row : Nat) :
    Decidable (IsInView scroll inset viewport rowHeight row) :=
  inferInstanceAs (Decidable (_ ∧ _))

def RowRange.Contains (rows : RowRange) (row : Nat) : Prop :=
  rows.first ≤ row ∧ row < rows.stop

instance (rows : RowRange) (row : Nat) : Decidable (rows.Contains row) :=
  inferInstanceAs (Decidable (_ ∧ _))

/-- The number of each row of a range is painted. -/
theorem FlaggedLines.label_subset_labels (flagged : FlaggedLines) (appearance : Appearance)
    {rows : RowRange} {row : Nat} (contained : rows.Contains row) :
    flagged.label appearance row ⊆ flagged.labels appearance rows := by
  have numbered : row ∈ List.range' rows.first (rows.stop - rows.first) := by
    obtain ⟨notBefore, before⟩ := contained
    rw [List.mem_range'_1]
    omega
  exact fun _ painted => List.mem_flatMap.mpr ⟨row, numbered, painted⟩

section

variable {scroll inset viewport rowHeight : ℚ} {lineCount row : Nat}

theorem rowTop_rat :
    rowTop row rowHeight inset scroll = row * rowHeight - (scroll - inset) := by
  simp only [rowTop, Measure.sub_rat, Measure.add_rat, Measure.mul_rat, Measure.ofNat_rat]
  ring

/-! ## Where the range starts and stops -/

theorem visibleRows_of_positive (positive : 0 < rowHeight) (counted : lineCount ≤ maxRows) :
    visibleRows scroll viewport rowHeight lineCount =
      ⟨min ⌊max scroll 0 / rowHeight⌋₊ lineCount,
        min (⌈(max scroll 0 + max viewport 0) / rowHeight⌉₊ + 1) lineCount⟩ := by
  simp [visibleRows, positive, Measure.min_floor_rat counted, Measure.min_ceil_rat counted]

theorem visibleRows_of_not_positive (notPositive : ¬0 < rowHeight) :
    visibleRows scroll viewport rowHeight lineCount = ⟨0, lineCount⟩ := by
  simp [visibleRows, notPositive]

theorem visibleRows_ordered (counted : lineCount ≤ maxRows) :
    let rows := visibleRows scroll viewport rowHeight lineCount
    rows.first ≤ rows.stop ∧ rows.stop ≤ lineCount := by
  by_cases positive : 0 < rowHeight
  · have extended : max scroll 0 / rowHeight ≤ (max scroll 0 + max viewport 0) / rowHeight := by
      gcongr
      exact le_add_of_nonneg_right (le_max_right viewport 0)
    have ordered : ⌊max scroll 0 / rowHeight⌋₊ ≤
        ⌈(max scroll 0 + max viewport 0) / rowHeight⌉₊ :=
      (Nat.floor_le_ceil _).trans (Nat.ceil_mono extended)
    rw [visibleRows_of_positive positive counted]
    exact ⟨min_le_min_right lineCount (Nat.le_succ_of_le ordered), Nat.min_le_right _ _⟩
  · rw [visibleRows_of_not_positive positive]
    exact ⟨Nat.zero_le lineCount, Nat.le_refl lineCount⟩

/-- The range starts with the first row that ends below the upper edge. -/
theorem visibleRows_first_le_iff (positive : 0 < rowHeight) (counted : lineCount ≤ maxRows)
    (inside : row < lineCount) :
    (visibleRows scroll viewport rowHeight lineCount).first ≤ row ↔
      scroll < (row + 1) * rowHeight := by
  have scrolled : 0 ≤ max scroll 0 / rowHeight :=
    div_nonneg (le_max_right scroll 0) positive.le
  have below : (0 : ℚ) < (row + 1) * rowHeight := by positivity
  calc
    _ ↔ ⌊max scroll 0 / rowHeight⌋₊ < row + 1 := by
      simp only [visibleRows_of_positive positive counted]
      omega
    _ ↔ max scroll 0 < (row + 1) * rowHeight := by
      rw [Nat.floor_lt scrolled, div_lt_iff₀ positive, Nat.cast_add_one]
    _ ↔ scroll < (row + 1) * rowHeight := by
      rw [max_lt_iff, and_iff_left below]

/-- The range goes on beyond a row when the row is not below the first one that starts at the lower
edge or below it. -/
theorem lt_visibleRows_stop_iff (positive : 0 < rowHeight) (counted : lineCount ≤ maxRows)
    (inside : row < lineCount) :
    row < (visibleRows scroll viewport rowHeight lineCount).stop ↔
      row ≤ ⌈(max scroll 0 + max viewport 0) / rowHeight⌉₊ := by
  simp only [visibleRows_of_positive positive counted]
  omega

/-! ## The rows in view -/

theorem IsInView.contained (counted : lineCount ≤ maxRows) (inside : row < lineCount)
    (inView : IsInView scroll inset viewport rowHeight row) :
    (visibleRows (scroll - inset) viewport rowHeight lineCount).Contains row := by
  obtain ⟨above, below⟩ := inView
  rw [rowTop_rat] at above below
  by_cases positive : 0 < rowHeight
  · refine ⟨(visibleRows_first_le_iff positive counted inside).mpr (by linarith),
      (lt_visibleRows_stop_iff positive counted inside).mpr ?_⟩
    have starts : (row : ℚ) < (max (scroll - inset) 0 + max viewport 0) / rowHeight := by
      rw [lt_div_iff₀ positive]
      linarith [le_max_left (scroll - inset) 0, le_max_left viewport 0]
    exact (Nat.lt_ceil.mpr starts).le
  · rw [visibleRows_of_not_positive positive]
    exact ⟨Nat.zero_le row, inside⟩

/-- When the text starts at the upper edge or above it, only one row of the range can be out of
view: the first one that starts at the lower edge or below it. -/
theorem RowRange.Contains.eq_of_not_inView (positive : 0 < rowHeight)
    (counted : lineCount ≤ maxRows) (scrolled : inset ≤ scroll) (extended : 0 ≤ viewport)
    (contained : (visibleRows (scroll - inset) viewport rowHeight lineCount).Contains row)
    (notInView : ¬IsInView scroll inset viewport rowHeight row) :
    row = ⌈(scroll - inset + viewport) / rowHeight⌉₊ := by
  obtain ⟨notBefore, before⟩ := contained
  have inside : row < lineCount := Nat.lt_of_lt_of_le before (visibleRows_ordered counted).2
  rw [visibleRows_first_le_iff positive counted inside] at notBefore
  rw [lt_visibleRows_stop_iff positive counted inside, max_eq_left (sub_nonneg.mpr scrolled),
    max_eq_left extended] at before
  have starts : viewport ≤ row * rowHeight - (scroll - inset) := by
    by_contra above
    refine notInView ⟨?_, ?_⟩ <;> rw [rowTop_rat] <;> linarith
  refine Nat.le_antisymm before (Nat.ceil_le.mpr ?_)
  rw [div_le_iff₀ positive]
  linarith

end

/-- Beside a text that starts `inset` below the upper edge of its viewport and is scrolled, the
number of every row in view is painted. The rows whose numbers are painted are rows of the document.
At most one of them is out of view when the text is scrolled by `inset` or more, so in particular
when there is no inset. -/
theorem rows_in_view_are_numbered (scroll inset viewport rowHeight : ℚ) (lineCount : Nat)
    (positive : 0 < rowHeight) (counted : lineCount ≤ maxRows) :
    let rows := visibleRows (scroll - inset) viewport rowHeight lineCount
    (∀ row < lineCount, IsInView scroll inset viewport rowHeight row →
        rows.Contains row ∧ ∀ (flagged : FlaggedLines) (appearance : Appearance),
          flagged.label appearance row ⊆ flagged.labels appearance rows) ∧
      (rows.first ≤ rows.stop ∧ rows.stop ≤ lineCount) ∧
      (inset ≤ scroll → 0 ≤ viewport → ∀ first second,
        rows.Contains first → ¬IsInView scroll inset viewport rowHeight first →
          rows.Contains second → ¬IsInView scroll inset viewport rowHeight second →
            first = second) := by
  intro rows
  refine ⟨fun row inside inView => ?_, visibleRows_ordered counted, ?_⟩
  · have contained : rows.Contains row := inView.contained counted inside
    exact ⟨contained, fun flagged appearance => flagged.label_subset_labels appearance contained⟩
  · intro scrolled extended first second firstContained firstOut secondContained secondOut
    rw [firstContained.eq_of_not_inView positive counted scrolled extended firstOut,
      secondContained.eq_of_not_inView positive counted scrolled extended secondOut]

/-- The upper edge cuts the first row and the lower one the third. The fourth row is numbered too,
and it is the only one out of view. -/
theorem fourth_row_out_of_view :
    let rows := visibleRows ((7 : ℚ) - 2) 20 10 50
    rows = ⟨0, 4⟩ ∧ (rows.Contains 2 ∧ rows.stop ≤ 50) ∧
      ∀ row, rows.Contains row → ¬IsInView 7 2 20 10 row → row = 3 := by
  have range : visibleRows ((7 : ℚ) - 2) 20 10 50 = ⟨0, 4⟩ := by decide +kernel
  obtain ⟨numbered, ⟨_, ends⟩, unique⟩ :=
    rows_in_view_are_numbered 7 2 20 10 50 (by decide +kernel) (by decide)
  refine ⟨range, ⟨(numbered 2 (by decide) (by decide +kernel)).1, ends⟩,
    fun row contained out => ?_⟩
  have fourth : (visibleRows ((7 : ℚ) - 2) 20 10 50).Contains 3 := by
    rw [range]
    decide
  exact unique (by decide +kernel) (by decide +kernel) row 3 contained out fourth
    (by decide +kernel)

end Highlight
