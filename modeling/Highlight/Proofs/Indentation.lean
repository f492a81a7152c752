import Mathlib.Logic.Function.Iterate
import Highlight.Proofs.Offsets.Edit

/-!
Indenting at a selection. One step of indentation takes the place of what is selected, and the caret
comes to stand right behind it, so a further step goes there and the steps add up.
-/

set_option autoImplicit false

namespace Highlight

namespace Selection

/-- The same stretch with the caret at its other end. -/
def reversed (selection : Selection) : Selection :=
  ⟨selection.anchor, selection.caret⟩

theorem first_reversed (selection : Selection) : selection.reversed.first = selection.first :=
  min_comm _ _

theorem last_reversed (selection : Selection) : selection.reversed.last = selection.last :=
  max_comm _ _

@[simp] theorem first_collapsed (offset : Nat) : (collapsed offset).first = offset :=
  min_self offset

@[simp] theorem last_collapsed (offset : Nat) : (collapsed offset).last = offset :=
  max_self offset

end Selection

/-- Only the stretch that is selected counts. -/
theorem insertIndent_reversed (value : String) (selection : Selection) :
    insertIndent value selection.reversed = insertIndent value selection := by
  simp only [insertIndent, replaceSelection, selection.first_reversed, selection.last_reversed]

/-- An indentation by cutting at byte offsets; none when a cut fails. -/
def insertIndentByOffset? (value : String) (selection : Selection) : Option Splice :=
  replaceSelectionByOffset? value selection indentation

namespace Splice

/-- One more step of indentation, where the caret is. -/
def indent (splice : Splice) : Splice :=
  insertIndent splice.value (.collapsed splice.caret)

/-- Two parts of a text with some blanks between them and the caret behind the blanks. -/
def spaced (before after : List Char) (count : Nat) : Splice :=
  ⟨String.ofList (before ++ List.replicate count ' ' ++ after), before.length + count⟩

variable (before after : List Char) (count : Nat)

theorem take_spaced :
    (spaced before after count).value.toList.take (spaced before after count).caret =
      before ++ List.replicate count ' ' := by
  have width : (before ++ List.replicate count ' ').length = before.length + count := by simp
  rw [spaced, String.toList_ofList, ← width, List.take_left]

theorem drop_spaced :
    (spaced before after count).value.toList.drop (spaced before after count).caret = after := by
  have width : (before ++ List.replicate count ' ').length = before.length + count := by simp
  rw [spaced, String.toList_ofList, ← width, List.drop_left]

theorem length_spaced :
    (spaced before after count).value.length = before.length + count + after.length := by
  rw [← String.length_toList, spaced, String.toList_ofList, List.length_append, List.length_append,
    List.length_replicate]

theorem indent_spaced :
    (spaced before after count).indent = spaced before after (count + 2) := by
  have blanks : List.replicate (count + 2) ' ' = List.replicate count ' ' ++ indentation.toList :=
    List.replicate_append_replicate.symm
  simp only [indent, insertIndent, replaceSelection, Selection.first_collapsed,
    Selection.last_collapsed, take_spaced, drop_spaced]
  rw [spaced, blanks, ← List.append_assoc, List.length_append, List.length_replicate]
  rfl

theorem iterate_indent_spaced (steps : Nat) :
    indent^[steps] (spaced before after count) = spaced before after (count + 2 * steps) := by
  induction steps with
  | zero => rfl
  | succ steps inductionHypothesis =>
    rw [Function.iterate_succ_apply', inductionHypothesis, indent_spaced, Nat.mul_succ,
      Nat.add_assoc]

end Splice

/-- An indentation is two blanks in the place of the selection, as far as that is in the text. -/
theorem insertIndent_eq_spaced (value : String) (selection : Selection) :
    insertIndent value selection =
      .spaced (value.toList.take selection.first) (value.toList.drop selection.last) 2 := rfl

theorem insertIndent_fits (value : String) (selection : Selection) :
    (insertIndent value selection).caret ≤ (insertIndent value selection).value.length := by
  rw [insertIndent_eq_spaced, Splice.length_spaced]
  exact Nat.le_add_right _ _

/-- Each further step at the caret makes the text longer by two. -/
theorem length_iterate_indent (value : String) (selection : Selection) (steps : Nat) :
    (Splice.indent^[steps] (insertIndent value selection)).value.length =
      (insertIndent value selection).value.length + 2 * steps := by
  rw [insertIndent_eq_spaced, Splice.iterate_indent_spaced, Splice.length_spaced,
    Splice.length_spaced]
  omega

/-- Indenting puts two blanks in the place of the selection and the caret behind them, wherever the
ends of the selection are, in either order; ends past the end of the text count as its end. No cut
at a byte offset fails on the way. Each further step at the caret puts two more blanks there. -/
theorem insertIndent_at_selection (value : String) (selection : Selection) :
    let text := value.toList
    let start := min selection.first value.length
    let stop := min selection.last value.length
    let splice := insertIndent value selection
    insertIndentByOffset? value selection = some splice ∧
      splice.value.toList = text.take start ++ ' ' :: ' ' :: text.drop stop ∧
      splice.caret = start + 2 ∧
      splice.caret ≤ splice.value.length ∧
      insertIndent value selection.reversed = splice ∧
      ∀ steps,
        let last := Splice.indent^[steps] splice
        last.value.toList =
            splice.value.toList.take splice.caret ++ List.replicate (2 * steps) ' ' ++
              splice.value.toList.drop splice.caret ∧
          last.caret = splice.caret + 2 * steps := by
  intro text start stop splice
  have take : text.take start = text.take selection.first := List.take_eq_take_min.symm
  have drop : text.drop stop = text.drop selection.last := List.drop_eq_drop_min.symm
  have size : (text.take selection.first).length = start := List.length_take
  have spaced : splice = .spaced (text.take selection.first) (text.drop selection.last) 2 :=
    insertIndent_eq_spaced value selection
  have written : splice.value.toList =
      text.take selection.first ++ ' ' :: ' ' :: text.drop selection.last := by
    simp [spaced, Splice.spaced, List.replicate_succ]
  have caret : splice.caret = start + 2 := by rw [spaced, Splice.spaced, size]
  refine ⟨replaceSelectionByOffset?_eq value selection indentation, ?_, caret,
    insertIndent_fits value selection, insertIndent_reversed value selection,
    fun steps => ⟨?_, ?_⟩⟩
  · rw [take, drop, written]
  · rw [spaced, Splice.iterate_indent_spaced, Splice.take_spaced, Splice.drop_spaced,
      List.append_assoc (text.take selection.first), List.replicate_append_replicate]
    simp [Splice.spaced]
  · rw [spaced, Splice.iterate_indent_spaced]
    exact (Nat.add_assoc _ _ _).symm

/-- A stretch that was selected from its end to its start, where offsets count characters. -/
example : insertIndent "héllo" ⟨4, 2⟩ = ⟨"hé  o", 4⟩ := by decide

end Highlight
