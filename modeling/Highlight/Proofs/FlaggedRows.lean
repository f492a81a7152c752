import Mathlib.Data.List.Sort
import Highlight.Surface.Painting

/-!
Flagged rows. The tints go from the flagged lines to their rows, the gutter asks of each row whether
its line is flagged; both find the same rows of a document. Where rows and lines are words of 64
bits, neither way leaves the words.
-/

set_option autoImplicit false

namespace Highlight

namespace FlaggedLines

variable {flagged : FlaggedLines} {row line lineCount : Nat}

/-! ## Rows of a document -/

theorem mem_rows : row ∈ flagged.rows lineCount ↔ row < lineCount ∧ row + 1 ∈ flagged.toList := by
  simp only [rows, List.mem_filter, List.mem_map, decide_eq_true_eq]
  constructor
  · rintro ⟨⟨line, ⟨member, positive⟩, rfl⟩, inside⟩
    rw [Nat.sub_add_cancel (Nat.pos_of_ne_zero positive)]
    exact ⟨inside, member⟩
  · rintro ⟨inside, member⟩
    exact ⟨⟨row + 1, ⟨member, Nat.succ_ne_zero row⟩, Nat.add_sub_cancel row 1⟩, inside⟩

theorem rows_ascending : (flagged.rows lineCount).Pairwise (· < ·) := by
  have positive {line : Nat} (member : line ∈ flagged.toList.filter (· ≠ 0)) : line ≠ 0 :=
    of_decide_eq_true (List.mem_filter.mp member).2
  refine (List.pairwise_map.mpr ?_).filter _
  refine (flagged.ascending.filter _).imp_of_mem fun first _ less => ?_
  have := positive first
  omega

/-- A row below the greatest number is flagged when its line is. -/
theorem containsRow_iff (inside : row < maxIndex) :
    flagged.containsRow row ↔ row + 1 ∈ flagged.toList := by
  simp [containsRow, contains, inside]

theorem rows_eq_filter (counted : lineCount ≤ maxIndex) :
    flagged.rows lineCount = (List.range lineCount).filter flagged.containsRow := by
  refine rows_ascending.eq_of_mem_iff (List.pairwise_lt_range.filter _) fun row => ?_
  rw [mem_rows, List.mem_filter, List.mem_range]
  refine and_congr_right fun inside => ?_
  rw [containsRow_iff (Nat.lt_of_lt_of_le inside counted)]

/-- Flagging a line that is none of the document flags no row of it. -/
theorem containsRow_insert_of_outside (outside : line = 0 ∨ lineCount < line)
    (inside : row < lineCount) :
    (flagged.insert line).containsRow row = flagged.containsRow row := by
  have other : row + 1 ≠ line := by omega
  simp [containsRow, contains, insert, mem_insertAscending, other]

theorem rows_insert_of_outside (outside : line = 0 ∨ lineCount < line)
    (counted : lineCount ≤ maxIndex) :
    (flagged.insert line).rows lineCount = flagged.rows lineCount := by
  rw [rows_eq_filter counted, rows_eq_filter counted]
  refine List.filter_congr fun row inside => ?_
  rw [containsRow_insert_of_outside outside (List.mem_range.mp inside)]

/-- The gutter shows the tinted rows as flagged and no others. -/
theorem label_eq (appearance : Appearance) (inside : row < lineCount)
    (counted : lineCount ≤ maxIndex) :
    flagged.label appearance row =
      if row ∈ flagged.rows lineCount then
        List.replicate 2 ⟨lineLabel row, appearance.flaggedLineNumber⟩
      else [⟨lineLabel row, appearance.lineNumber⟩] := by
  simp only [label, rows_eq_filter counted, List.mem_filter, List.mem_range, inside, true_and]

/-! ## Words -/

def greatestWord : UInt64 :=
  .ofNat maxIndex

/-- The flagged rows of a document, found with words. -/
def wordRows (lines : List UInt64) (lineCount : UInt64) : List UInt64 :=
  (lines.filter (· ≠ 0)).map (· - 1) |>.filter (· < lineCount)

/-- Is a row flagged, as far as can be told with words? -/
def containsWordRow (lines : List UInt64) (row : UInt64) : Bool :=
  row != greatestWord && lines.contains (row + 1)

theorem toNat_row {line : UInt64} (positive : line ≠ 0) : (line - 1).toNat = line.toNat - 1 := by
  have notZero : line.toNat ≠ 0 := fun zero => positive (UInt64.toNat_inj.mp zero)
  refine UInt64.toNat_sub_of_le _ _ (UInt64.le_iff_toNat_le.mpr ?_)
  exact Nat.pos_of_ne_zero notZero

theorem eq_greatestWord_iff {row : UInt64} : row = greatestWord ↔ row.toNat = maxIndex :=
  UInt64.toNat_inj.symm

theorem toNat_line {row : UInt64} (below : row ≠ greatestWord) :
    (row + 1).toNat = row.toNat + 1 := by
  have notGreatest : row.toNat ≠ maxIndex := fun greatest =>
    below (eq_greatestWord_iff.mpr greatest)
  have inWord : row.toNat + 1 < 2 ^ 64 := by
    have := row.toNat_lt
    unfold maxIndex at notGreatest
    omega
  exact (UInt64.toNat_add row 1).trans (Nat.mod_eq_of_lt inWord)

variable {lines : List UInt64} (listed : flagged.toList = lines.map (·.toNat))

include listed

theorem map_toNat_wordRows (count : UInt64) :
    (wordRows lines count).map (·.toNat) = flagged.rows count.toNat := by
  have positive : (lines.map (·.toNat)).filter (· ≠ 0) = (lines.filter (· ≠ 0)).map (·.toNat) := by
    rw [List.filter_map]
    refine congrArg _ (List.filter_congr fun line _ => ?_)
    simp [← UInt64.toNat_inj]
  have before : ((lines.filter (· ≠ 0)).map (·.toNat)).map (· - 1) =
      ((lines.filter (· ≠ 0)).map (· - 1)).map (·.toNat) := by
    rw [List.map_map, List.map_map]
    refine List.map_congr_left fun line member => ?_
    exact (toNat_row (of_decide_eq_true (List.mem_filter.mp member).2)).symm
  have inside (rows : List UInt64) : (rows.map (·.toNat)).filter (· < count.toNat) =
      (rows.filter (· < count)).map (·.toNat) := by
    rw [List.filter_map]
    refine congrArg _ (List.filter_congr fun row _ => ?_)
    simp [UInt64.lt_iff_toNat_lt]
  rw [rows, listed, positive, before, inside]
  rfl

theorem containsWordRow_eq (row : UInt64) :
    containsWordRow lines row = flagged.containsRow row.toNat := by
  by_cases greatest : row = greatestWord
  · have bound : ¬row.toNat < maxIndex := by
      rw [eq_greatestWord_iff.mp greatest]
      exact Nat.lt_irrefl _
    rw [containsWordRow, containsRow, decide_eq_false bound, bne, beq_iff_eq.mpr greatest]
    rfl
  · have bound : row.toNat < maxIndex :=
      Nat.lt_of_le_of_ne (Nat.le_of_lt_succ row.toNat_lt) (mt eq_greatestWord_iff.mpr greatest)
    have member : row + 1 ∈ lines ↔ row.toNat + 1 ∈ flagged.toList := by
      rw [listed, ← toNat_line greatest]
      exact (List.mem_map_of_injective fun _ _ => UInt64.toNat_inj.mp).symm
    simp [containsWordRow, containsRow, contains, greatest, bound, member]

end FlaggedLines

/-- One tint is painted for each row of a document whose line is flagged, in ascending order, and
none for any other row; the gutter shows the numbers of these rows as flagged and those of the
others as not flagged. Zero and numbers past the last line change nothing of it, and so neither does
the greatest number, unless the document has as many lines. With words of 64 bits the same rows are
found and the same numbers are given to rows. -/
theorem flagged_rows_are_painted (flagged : FlaggedLines) (appearance : Appearance)
    (count : UInt64) :
    let lineCount := count.toNat
    let rows := (List.range lineCount).filter flagged.containsRow
    flagged.tints appearance lineCount = rows.map (fun row => (row, appearance.flaggedLineTint)) ∧
      (∀ row < lineCount, flagged.label appearance row =
        if row ∈ rows then List.replicate 2 ⟨lineLabel row, appearance.flaggedLineNumber⟩
        else [⟨lineLabel row, appearance.lineNumber⟩]) ∧
      (∀ line, line = 0 ∨ lineCount < line →
        (flagged.insert line).tints appearance lineCount = flagged.tints appearance lineCount ∧
          ∀ row < lineCount,
            (flagged.insert line).label appearance row = flagged.label appearance row) ∧
      (∀ row < count, (row + 1).toNat = row.toNat + 1) ∧
      ∀ lines : List UInt64, flagged.toList = lines.map (·.toNat) →
        (FlaggedLines.wordRows lines count).map (·.toNat) = rows ∧
          ∀ row, FlaggedLines.containsWordRow lines row = flagged.containsRow row.toNat := by
  intro lineCount rows
  have counted : lineCount ≤ maxIndex := Nat.le_of_lt_succ count.toNat_lt
  have found : flagged.rows lineCount = rows := FlaggedLines.rows_eq_filter counted
  refine ⟨?_, fun row inside => ?_, fun line outside => ⟨?_, fun row inside => ?_⟩,
    fun row inside => ?_, fun lines listed => ⟨?_, ?_⟩⟩
  · rw [FlaggedLines.tints, found]
  · rw [← found]
    exact FlaggedLines.label_eq appearance inside counted
  · rw [FlaggedLines.tints, FlaggedLines.rows_insert_of_outside outside counted]
    rfl
  · rw [FlaggedLines.label, FlaggedLines.containsRow_insert_of_outside outside inside]
    rfl
  · have below : row ≠ FlaggedLines.greatestWord := by
      rintro rfl
      exact absurd (UInt64.lt_iff_toNat_lt.mp inside) (Nat.not_lt_of_le counted)
    exact FlaggedLines.toNat_line below
  · rw [FlaggedLines.map_toNat_wordRows listed, found]
  · exact FlaggedLines.containsWordRow_eq listed

/-- The greatest number is that of the last row of a document with as many lines. -/
theorem greatest_line_is_a_row :
    (FlaggedLines.ofList [maxIndex]).containsRow (maxIndex - 1) ∧
      (FlaggedLines.ofList [maxIndex]).rows maxIndex = [maxIndex - 1] := by
  decide +kernel

end Highlight
