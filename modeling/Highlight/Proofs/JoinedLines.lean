import Highlight.Document.Basic
import Highlight.Proofs.Lines

/-!
Lines of a value, and the value that lines make up. Joining undoes the cut but for the carriage
returns that lines lose, and the cut undoes the joining of lines that can be those of a value.
-/

set_option autoImplicit false

namespace Highlight

theorem length_lines (value : String) : (lines value).length = value.toList.count '\n' + 1 := by
  rw [lines, List.length_map, Text.length_linesOf]

theorem toList_join_lines (value : String) :
    ("\n".intercalate (lines value)).toList = Text.withoutReturns value.toList := by
  have characters : (lines value).map String.toList = Text.linesOf value.toList := by
    simp [lines]
  rw [String.toList_intercalate, characters]
  exact Text.intercalate_linesOf value.toList

/-- Lines are the lines of what they make up just when the texts are. -/
theorem lines_join_eq_self_iff (parts : List String) :
    lines ("\n".intercalate parts) = parts ↔
      Text.linesOf (['\n'].intercalate (parts.map String.toList)) = parts.map String.toList := by
  have texts : (parts.map String.toList).map String.ofList = parts := by simp
  rw [lines, String.toList_intercalate]
  constructor
  · intro same
    simpa using congrArg (List.map String.toList) same
  · intro same
    exact (congrArg (List.map String.ofList) same).trans texts

/-- Cutting a value into lines is inverse to joining them by line feeds. Lines come back from the
value that they make up just when there is one, none holds a line feed and none ends with a carriage
return; and every value has one more line than it has line feeds, no line holds one, and joined
they are the value without one carriage return before each line feed and at its end. -/
theorem lines_inverse_to_join :
    (∀ parts : List String, lines ("\n".intercalate parts) = parts ↔
      parts ≠ [] ∧ ∀ part ∈ parts, '\n' ∉ part.toList ∧ part.toList.getLast? ≠ some '\r') ∧
    ∀ value : String,
      (lines value).length = value.toList.count '\n' + 1 ∧
        (ChangeReport.of value).lineCount = value.toList.count '\n' + 1 ∧
        (∀ line ∈ lines value, '\n' ∉ line.toList) ∧
        ("\n".intercalate (lines value)).toList = Text.withoutReturns value.toList := by
  constructor
  · intro parts
    rw [lines_join_eq_self_iff, Text.linesOf_intercalate_eq_self_iff]
    simp
  · intro value
    refine ⟨length_lines value, length_lines value, ?_, toList_join_lines value⟩
    intro line member
    obtain ⟨text, listed, rfl⟩ := List.mem_map.mp member
    rw [String.toList_ofList]
    exact Text.not_mem_of_mem_linesOf listed

/-- A line loses the last of its carriage returns, and a lone one in its middle stays. -/
example : lines "a\r\nb\rc\r\r\n\r" = ["a", "b\rc\r", ""] := by
  decide +kernel

end Highlight
