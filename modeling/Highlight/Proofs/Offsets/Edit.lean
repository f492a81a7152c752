import Highlight.Document.Edit
import Highlight.Proofs.Offsets.Basic

/-!
Replacing a selection by byte offsets. The ends of a selection are counted in characters; each is
turned into the byte offset at which its character starts, and the text is cut there. The cuts do
not fail, and the result is the one that is counted in characters.
-/

set_option autoImplicit false

namespace Highlight

namespace Text

/-- The characters of a text that starts at a byte offset, each with the offset of its own. -/
def characterOffsets : Nat → List Char → List (Nat × Char)
  | _, [] => []
  | offset, c :: rest => (offset, c) :: characterOffsets (offset + c.utf8Size) rest

/-- The byte offset of a character, or of the end if the text has not so many characters. -/
def byteOffsetAt (index : Nat) (text : List Char) : Nat :=
  ((characterOffsets 0 text)[index]?.map (·.1)).getD (byteSize text)

theorem offset_characterOffsets (offset index : Nat) (text : List Char) :
    ((characterOffsets offset text)[index]?.map (·.1)).getD (offset + byteSize text) =
      offset + byteSize (text.take index) := by
  induction text generalizing offset index with
  | nil => simp [characterOffsets]
  | cons c rest inductionHypothesis =>
    cases index with
    | zero => simp [characterOffsets]
    | succ index =>
      have later := inductionHypothesis (offset + c.utf8Size) index
      rw [Nat.add_assoc, Nat.add_assoc] at later
      rw [characterOffsets, List.getElem?_cons_succ, byteSize_cons, later, List.take_succ_cons,
        byteSize_cons]

theorem byteOffsetAt_eq (index : Nat) (text : List Char) :
    byteOffsetAt index text = byteSize (text.take index) := by
  have counted := offset_characterOffsets 0 index text
  rwa [Nat.zero_add, Nat.zero_add] at counted

variable (index : Nat) (text : List Char)

theorem textBefore?_byteOffsetAt :
    textBefore? (byteOffsetAt index text) text = some (text.take index) := by
  have cut := textBefore?_append (text.take index) (text.drop index)
  rwa [List.take_append_drop, ← byteOffsetAt_eq] at cut

theorem textFrom?_byteOffsetAt :
    textFrom? (byteOffsetAt index text) text = some (text.drop index) := by
  have cut := textFrom?_append (text.take index) (text.drop index)
  rwa [List.take_append_drop, ← byteOffsetAt_eq] at cut

end Text

/-- Puts a text in the place of a selection by cutting at byte offsets; none when a cut fails. -/
def replaceSelectionByOffset? (value : String) (selection : Selection) (inserted : String) :
    Option Splice := do
  let text := value.toList
  let before ← Text.textBefore? (Text.byteOffsetAt selection.first text) text
  let after ← Text.textFrom? (Text.byteOffsetAt selection.last text) text
  return ⟨String.ofList (before ++ inserted.toList ++ after), before.length + inserted.length⟩

theorem replaceSelectionByOffset?_eq (value : String) (selection : Selection) (inserted : String) :
    replaceSelectionByOffset? value selection inserted =
      some (replaceSelection value selection inserted) := by
  simp only [replaceSelectionByOffset?, Text.textBefore?_byteOffsetAt, Text.textFrom?_byteOffsetAt]
  rfl

/-- The second character starts behind the two bytes of the first one. -/
example : replaceSelectionByOffset? "éa" ⟨1, 7⟩ "!" = some ⟨"é!", 2⟩ := by decide

end Highlight
