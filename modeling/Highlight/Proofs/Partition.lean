import Highlight.Document.Basic
import Highlight.Proofs.Cover
import Highlight.Proofs.Labels

/-!
Every language partitions every line into tokens.
-/

set_option autoImplicit false

namespace Highlight

theorem partition_tokenize (language : Language) (line : String) :
    Partition line (tokenize language line) := by
  have partition : Partition (String.ofList line.toList) (tokenize language line) :=
    coverLine_partition (language.spans_labelled line.toList)
  rwa [String.ofList_toList] at partition

theorem characters_tokenize (language : Language) (line : String) :
    characters (tokenize language line) = line.toList := by
  rw [← toList_joinText, (partition_tokenize language line).joined]

theorem Document.tokens_compute (value : String) (language : Language) :
    (compute value language).tokens =
      (Text.linesOf value.toList).map fun line => tokenize language (String.ofList line) := by
  simp [compute, Highlight.lines]

/-- The tokens of a line make up the line, none is empty, and plain text comes in whole stretches.
In particular an empty line has no tokens. -/
theorem tokenize_partitions_line (language : Language) (line : String) :
    Partition line (tokenize language line) ∧ tokenize language "" = [] :=
  ⟨partition_tokenize language line, (partition_tokenize language "").eq_nil⟩

end Highlight
