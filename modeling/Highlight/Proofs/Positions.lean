import Mathlib.Algebra.GroupWithZero.Nat
import Highlight.Document.Basic
import Highlight.Document.Edit
import Highlight.Proofs.Lines

/-!
Positions in a text. Counting lines and columns along a text and cutting the text at its line feeds
agree: a position names a row of the text and a place in it, and the offset that it comes from is
made up of the rows before, their line feeds, and that place. So offsets and positions are one to
one.
-/

set_option autoImplicit false

namespace Highlight

open Text

namespace Position

/-- Is the position before a character of a row, or at the end of one? -/
def IsIn (rows : List (List Char)) (position : Position) : Prop :=
  1 ≤ position.line ∧ 1 ≤ position.column ∧
    ∃ row, rows[position.line - 1]? = some row ∧ position.column - 1 ≤ row.length

/-- How many characters are before a position: those of the rows before its own, one line feed for
each of these, and those before it in its own row. -/
def offsetIn (rows : List (List Char)) (position : Position) : Nat :=
  ((rows.take (position.line - 1)).map List.length).sum + (position.line - 1) +
    (position.column - 1)

/-- What is written before a position. -/
def before (rows : List (List Char)) (position : Position) : List Char :=
  (rows.take (position.line - 1)).flatMap (· ++ ['\n']) ++
    (rows[position.line - 1]?.getD []).take (position.column - 1)

/-! ## Counting -/

theorem foldl_after_of_feedless {text : List Char} (noFeed : '\n' ∉ text) (position : Position) :
    text.foldl after position = ⟨position.line, position.column + text.length⟩ := by
  induction text generalizing position with
  | nil => rfl
  | cons c text inductionHypothesis =>
    obtain ⟨noFeedHere, noFeedLater⟩ : '\n' ≠ c ∧ '\n' ∉ text := by simpa using noFeed
    have step : after position c = ⟨position.line, position.column + 1⟩ :=
      if_neg (Ne.symm noFeedHere)
    rw [List.foldl_cons, step, inductionHypothesis noFeedLater, List.length_cons, Nat.add_assoc,
      Nat.add_comm 1]

theorem after_feed (position : Position) : after position '\n' = ⟨position.line + 1, 1⟩ := rfl

/-- Each row with its line feed leads to the start of the next line. -/
theorem foldl_after_rows {rows : List (List Char)} (feedless : ∀ row ∈ rows, '\n' ∉ row)
    (line : Nat) :
    (rows.flatMap (· ++ ['\n'])).foldl after ⟨line, 1⟩ = ⟨line + rows.length, 1⟩ := by
  induction rows generalizing line with
  | nil => rfl
  | cons row rows inductionHypothesis =>
    obtain ⟨noFeed, others⟩ := List.forall_mem_cons.mp feedless
    rw [List.flatMap_cons, List.foldl_append, List.foldl_append, foldl_after_of_feedless noFeed,
      List.foldl_cons, List.foldl_nil, after_feed, inductionHypothesis others]
    simp only [List.length_cons, mk.injEq, and_true]
    omega

section

variable {rows : List (List Char)} {position : Position}

theorem foldl_after_before (feedless : ∀ row ∈ rows, '\n' ∉ row) (inside : position.IsIn rows) :
    (position.before rows).foldl after ⟨1, 1⟩ = position := by
  obtain ⟨linePositive, columnPositive, row, found, within⟩ := inside
  have passed : ∀ row ∈ rows.take (position.line - 1), '\n' ∉ row :=
    fun row member => feedless row (List.mem_of_mem_take member)
  have noFeed : '\n' ∉ row.take (position.column - 1) :=
    fun feed => feedless row (List.mem_of_getElem? found) (List.mem_of_mem_take feed)
  have counted : (rows.take (position.line - 1)).length = position.line - 1 := by
    have bound := (List.getElem?_eq_some_iff.mp found).1
    rw [List.length_take]
    omega
  rw [before, found, Option.getD_some, List.foldl_append, foldl_after_rows passed,
    foldl_after_of_feedless noFeed, List.length_take_of_le within, counted,
    Nat.add_sub_cancel' linePositive, Nat.add_sub_cancel' columnPositive]

/-! ## Cutting -/

theorem length_flatMap_feed (rows : List (List Char)) :
    (rows.flatMap (· ++ ['\n'])).length = (rows.map List.length).sum + rows.length := by
  induction rows with
  | nil => rfl
  | cons row rows inductionHypothesis =>
    simp only [List.flatMap_cons, List.length_append, inductionHypothesis, List.map_cons,
      List.sum_cons, List.length_cons, List.length_nil]
    omega

theorem length_before (inside : position.IsIn rows) :
    (position.before rows).length = position.offsetIn rows := by
  obtain ⟨-, -, row, found, within⟩ := inside
  have bound := (List.getElem?_eq_some_iff.mp found).1
  rw [before, found, Option.getD_some, List.length_append, length_flatMap_feed,
    List.length_take_of_le within, List.length_take_of_le (Nat.le_of_lt bound), offsetIn]

/-- Rows with line feeds between them begin with what is before a position in them. -/
theorem before_isPrefix (inside : position.IsIn rows) :
    position.before rows <+: ['\n'].intercalate rows := by
  obtain ⟨line, column⟩ := position
  obtain ⟨-, -, row, found, -⟩ := inside
  simp only [before, found, Option.getD_some]
  -- The induction is on the number of rows before the one of the position.
  generalize line - 1 = index at found ⊢
  induction index generalizing rows with
  | zero =>
    obtain ⟨others, rfl⟩ : ∃ others, rows = row :: others :=
      List.head?_eq_some_iff.mp (List.head?_eq_getElem? ▸ found)
    rw [List.take_zero, List.flatMap_nil, List.nil_append]
    refine (List.take_prefix _ row).trans ?_
    cases others with
    | nil => exact ⟨[], by rw [List.append_nil, List.intercalate_singleton]⟩
    | cons next others =>
      rw [List.intercalate_cons_cons, List.append_assoc]
      exact List.prefix_append row _
  | succ index inductionHypothesis =>
    cases rows with
    | nil => simp at found
    | cons first others =>
      have present : others ≠ [] := by
        rintro rfl
        simp at found
      rw [List.take_succ_cons, List.flatMap_cons, List.append_assoc,
        List.intercalate_cons_of_ne_nil present, List.prefix_append_right_inj]
      exact inductionHypothesis found

theorem exists_offsetIn_eq (present : rows ≠ []) {offset : Nat}
    (within : offset ≤ (['\n'].intercalate rows).length) :
    ∃ position : Position, position.IsIn rows ∧ position.offsetIn rows = offset := by
  induction rows generalizing offset with
  | nil => exact absurd rfl present
  | cons row others inductionHypothesis =>
    by_cases here : offset ≤ row.length
    · exact ⟨⟨1, offset + 1⟩, ⟨by simp, by simp, row, by simp, by simpa using here⟩,
        by simp [offsetIn]⟩
    · cases others with
      | nil => simp [here] at within
      | cons next others =>
        have later : offset - row.length - 1 ≤ (['\n'].intercalate (next :: others)).length := by
          rw [List.intercalate_cons_cons, List.length_append, List.length_append,
            List.length_singleton] at within
          omega
        obtain ⟨⟨line, column⟩, ⟨linePositive, columnPositive, found⟩, reached⟩ :=
          inductionHypothesis (by simp) later
        obtain ⟨index, rfl⟩ := Nat.exists_eq_add_of_le' linePositive
        refine ⟨⟨index + 2, column⟩, ⟨by simp, columnPositive, found⟩, ?_⟩
        simp only [offsetIn, Nat.add_sub_cancel] at reached
        simp only [offsetIn, Nat.add_succ_sub_one, List.take_succ_cons, List.map_cons,
          List.sum_cons]
        omega

end

/-! ## Texts -/

variable (value : String)

theorem ofOffset_min (offset : Nat) :
    ofOffset value (min offset value.length) = ofOffset value offset := by
  rw [ofOffset, ofOffset, ← String.length_toList, ← List.take_take, List.take_length]

variable {value} {position : Position}

/-- A position in a text is that of the offset that it stands for. -/
theorem ofOffset_offsetIn (inside : position.IsIn (cut '\n' value.toList)) :
    ofOffset value (position.offsetIn (cut '\n' value.toList)) = position := by
  have starts := before_isPrefix inside
  rw [intercalate_cut, List.prefix_iff_eq_take, length_before inside] at starts
  rw [ofOffset, ← starts]
  exact foldl_after_before (fun _ => not_mem_of_mem_cut) inside

theorem offsetIn_le_length (inside : position.IsIn (cut '\n' value.toList)) :
    position.offsetIn (cut '\n' value.toList) ≤ value.length := by
  have starts := before_isPrefix inside
  rw [intercalate_cut] at starts
  rw [← length_before inside, ← String.length_toList]
  exact starts.length_le

/-- An offset has a position in the text, and that stands for the offset. -/
theorem ofOffset_isIn {offset : Nat} (within : offset ≤ value.length) :
    (ofOffset value offset).IsIn (cut '\n' value.toList) ∧
      (ofOffset value offset).offsetIn (cut '\n' value.toList) = offset := by
  have reached : offset ≤ (['\n'].intercalate (cut '\n' value.toList)).length := by
    rwa [intercalate_cut, String.length_toList]
  obtain ⟨position, inside, rfl⟩ := exists_offsetIn_eq (cut_ne_nil '\n' value.toList) reached
  rw [ofOffset_offsetIn inside]
  exact ⟨inside, rfl⟩

end Position

/-- The position of an offset is in a line of the text: not beyond the end of the row that the text
has there before a carriage return is taken away. The characters of the rows before, a line feed for
each of them, and the characters before the position in its own row add up to the offset, or to the
end of the text for an offset past it. So different offsets have different positions, and every
position in a row is that of an offset. -/
theorem positions_match_offsets (value : String) :
    let rows := cut '\n' value.toList
    (∀ offset, let position := Position.ofOffset value offset
      1 ≤ position.line ∧ position.line ≤ (lines value).length ∧
        (∃ row, rows[position.line - 1]? = some row ∧
          1 ≤ position.column ∧ position.column - 1 ≤ row.length) ∧
        min offset value.length =
          ((rows.take (position.line - 1)).map List.length).sum + (position.line - 1) +
            (position.column - 1)) ∧
      (∀ first ≤ value.length, ∀ second ≤ value.length,
        Position.ofOffset value first = Position.ofOffset value second → first = second) ∧
      ∀ line row, rows[line]? = some row → ∀ column ≤ row.length,
        ∃ offset ≤ value.length, Position.ofOffset value offset = ⟨line + 1, column + 1⟩ := by
  intro rows
  refine ⟨fun offset => ?_, fun first firstWithin second secondWithin same => ?_,
    fun line row found column within => ?_⟩
  · obtain ⟨⟨linePositive, columnPositive, row, found, within⟩, reached⟩ :=
      Position.ofOffset_isIn (Nat.min_le_right offset value.length)
    rw [Position.ofOffset_min] at *
    have bound := (List.getElem?_eq_some_iff.mp found).1
    have counted : (lines value).length = (cut '\n' value.toList).length := by
      simp [lines, linesOf]
    exact ⟨linePositive, by omega, ⟨row, found, columnPositive, within⟩, reached.symm⟩
  · rw [← (Position.ofOffset_isIn firstWithin).2, same, (Position.ofOffset_isIn secondWithin).2]
  · have inside : (⟨line + 1, column + 1⟩ : Position).IsIn rows :=
      ⟨by simp, by simp, row, by simpa using found, by simpa using within⟩
    exact ⟨_, Position.offsetIn_le_length inside, Position.ofOffset_offsetIn inside⟩

/-- A carriage return at the end of a line takes up a column that is not shown. -/
theorem position_behind_return :
    let value := "é\r\nb"
    Position.ofOffset value 2 = ⟨1, 3⟩ ∧ Position.ofOffset value 9 = ⟨2, 2⟩ ∧
      (Position.ofOffset value 9).line ≤ (lines value).length ∧
      Position.ofOffset value 2 ≠ Position.ofOffset value 3 ∧
      ∃ offset ≤ value.length, Position.ofOffset value offset = ⟨1, 3⟩ := by
  obtain ⟨places, unique, reached⟩ := positions_match_offsets "é\r\nb"
  have apart : Position.ofOffset "é\r\nb" 2 ≠ Position.ofOffset "é\r\nb" 3 :=
    fun same => absurd (unique 2 (by decide) 3 (by decide) same) (by decide)
  exact ⟨by decide, by decide, (places 9).2.1, apart,
    reached 0 ['é', '\r'] (by decide +kernel) 2 (by decide)⟩

end Highlight
