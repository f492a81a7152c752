import Highlight.Document.Edit
import Highlight.Proofs.JoinedLines
import Highlight.Proofs.Partition

/-!
Documents of texts that a line break joins. Each line is read on its own, so the document of the
whole is that of the first text followed by that of the second, and an edit on one side of the break
leaves the lines and tokens on the other side as they are.
-/

set_option autoImplicit false

namespace Highlight

theorem lines_append_feed (first second : String) :
    lines (first ++ "\n" ++ second) = lines first ++ lines second := by
  have characters : (first ++ "\n" ++ second).toList = first.toList ++ '\n' :: second.toList := by
    simp
  rw [lines, characters, Text.linesOf_append_feed, List.map_append]
  rfl

/-! ## Edits beside a break -/

namespace Selection

theorem first_le_last (selection : Selection) : selection.first ≤ selection.last :=
  (min_le_left _ _).trans (le_max_left _ _)

/-- The selection in the rest of a text of which some characters at the start are left out. -/
def behind (selection : Selection) (count : Nat) : Selection :=
  ⟨selection.caret - count, selection.anchor - count⟩

theorem first_behind (selection : Selection) (count : Nat) :
    (selection.behind count).first = selection.first - count := by
  simp only [behind, first]
  omega

theorem last_behind (selection : Selection) (count : Nat) :
    (selection.behind count).last = selection.last - count := by
  simp only [behind, last]
  omega

end Selection

section

variable (before after inserted : String) {selection : Selection}

theorem replaceSelection_append_left (within : selection.last ≤ before.length) :
    (replaceSelection (before ++ after) selection inserted).value =
      (replaceSelection before selection inserted).value ++ after := by
  have start : selection.first ≤ before.toList.length := selection.first_le_last.trans within
  have stop : selection.last ≤ before.toList.length := within
  rw [← String.toList_inj]
  simp only [replaceSelection, String.toList_ofList, String.toList_append,
    List.take_append_of_le_length start, List.drop_append_of_le_length stop, List.append_assoc]

theorem replaceSelection_append_right (beyond : before.length ≤ selection.first) :
    (replaceSelection (before ++ after) selection inserted).value =
      before ++ (replaceSelection after (selection.behind before.length) inserted).value := by
  have start : before.toList.length ≤ selection.first := beyond
  have stop : before.toList.length ≤ selection.last := beyond.trans selection.first_le_last
  rw [← String.toList_inj]
  simp only [replaceSelection, String.toList_ofList, String.toList_append, List.take_append,
    List.drop_append, List.take_of_length_le start, List.drop_of_length_le stop,
    selection.first_behind, selection.last_behind, String.length_toList, List.append_assoc,
    List.nil_append]

end

/-! ## Documents -/

namespace Document

/-- A document has the lines of two others, one after the other, each with its tokens. -/
structure Joins (first second whole : Document) : Prop where
  lines : whole.lines = first.lines ++ second.lines
  tokens : whole.tokens = first.tokens ++ second.tokens

variable (language : Language)

theorem joins_compute (first second : String) :
    (compute first language).Joins (compute second language)
      (compute (first ++ "\n" ++ second) language) := by
  have joined := lines_append_feed first second
  refine ⟨joined, ?_⟩
  change (Highlight.lines (first ++ "\n" ++ second)).map (tokenize language) = _
  rw [joined, List.map_append]
  rfl

theorem joins_edit_first (first second inserted : String) {selection : Selection}
    (within : selection.last ≤ first.length) :
    (compute (replaceSelection first selection inserted).value language).Joins
      (compute second language)
      (compute (replaceSelection (first ++ "\n" ++ second) selection inserted).value
        language) := by
  rw [String.append_assoc, replaceSelection_append_left first _ inserted within,
    ← String.append_assoc]
  exact joins_compute language _ second

theorem joins_edit_second (first second inserted : String) {selection : Selection}
    (beyond : first.length < selection.first) :
    (compute first language).Joins
      (compute (replaceSelection second (selection.behind (first.length + 1)) inserted).value
        language)
      (compute (replaceSelection (first ++ "\n" ++ second) selection inserted).value
        language) := by
  have size : (first ++ "\n").length = first.length + 1 := String.length_append _ _
  rw [replaceSelection_append_right (first ++ "\n") second inserted (size ▸ beyond), size]
  exact joins_compute language first _

/-- Each line of a document stands beside the tokens that make it up. -/
theorem joinText_of_mem_zip {value line : String} {tokens : List Token}
    (row : (line, tokens) ∈ (compute value language).lines.zip (compute value language).tokens) :
    joinText tokens = line ∧ '\n' ∉ (joinText tokens).toList := by
  have rows : (compute value language).lines.zip (compute value language).tokens =
      (Highlight.lines value).map fun line => (line, tokenize language line) := by
    exact List.map_prod_left_eq_zip.symm
  rw [rows] at row
  obtain ⟨_, listed, same⟩ := List.mem_map.mp row
  obtain ⟨rfl, rfl⟩ := Prod.mk.inj same
  obtain ⟨text, isLine, rfl⟩ := List.mem_map.mp listed
  have whole := (partition_tokenize language (String.ofList text)).joined
  refine ⟨whole, ?_⟩
  rw [whole, String.toList_ofList]
  exact Text.not_mem_of_mem_linesOf isLine

end Document

/-- The document of two texts with a line break between them has the lines of the first one and then
those of the second one, each with its tokens. So an edit on one side of the break changes lines and
tokens on this side only. In every document each line stands beside the tokens that make it up, and
no token holds a line break. -/
theorem documents_join_at_breaks (language : Language) :
    (∀ first second : String,
      (Document.compute first language).Joins (Document.compute second language)
        (Document.compute (first ++ "\n" ++ second) language)) ∧
      (∀ (first second inserted : String) (selection : Selection),
        let edited := (replaceSelection (first ++ "\n" ++ second) selection inserted).value
        (selection.last ≤ first.length →
          (Document.compute (replaceSelection first selection inserted).value language).Joins
            (Document.compute second language) (Document.compute edited language)) ∧
        (first.length < selection.first →
          let own := selection.behind (first.length + 1)
          (Document.compute first language).Joins
            (Document.compute (replaceSelection second own inserted).value language)
            (Document.compute edited language))) ∧
      ∀ value : String,
        let document := Document.compute value language
        document.tokens.length = document.lines.length ∧
          ∀ line tokens, (line, tokens) ∈ document.lines.zip document.tokens →
            joinText tokens = line ∧ '\n' ∉ (joinText tokens).toList := by
  refine ⟨Document.joins_compute language, fun first second inserted selection => ⟨?_, ?_⟩, ?_⟩
  · exact Document.joins_edit_first language first second inserted
  · exact Document.joins_edit_second language first second inserted
  · intro value
    refine ⟨List.length_map _, fun line tokens row => ?_⟩
    exact Document.joinText_of_mem_zip language row

/-- A comment that is opened on the first line does not reach the second one, whose own edits do not
reach the first one. The carriage return at the seam belongs to neither. -/
theorem documents_of_edited_comment :
    let opened := replaceSelection "a\r\nb" ⟨0, 1⟩ "/*"
    let closed := replaceSelection "a\r\nb" ⟨4, 3⟩ "*/"
    ((⟨0, 1⟩ : Selection).last ≤ "a\r".length ∧ opened.value = "/*\r\nb" ∧
        (Document.compute "/*\r" .css).Joins (Document.compute "b" .css)
          (Document.compute opened.value .css)) ∧
      ("a\r".length < (⟨4, 3⟩ : Selection).first ∧ closed.value = "a\r\n*/" ∧
        (Document.compute "a\r" .css).Joins (Document.compute "*/" .css)
          (Document.compute closed.value .css)) ∧
      ("/*", [⟨.comment, "/*"⟩]) ∈
          (Document.compute "/*\r" .css).lines.zip (Document.compute "/*\r" .css).tokens ∧
        joinText [⟨.comment, "/*"⟩] = "/*" ∧ '\n' ∉ (joinText [⟨.comment, "/*"⟩]).toList := by
  obtain ⟨-, edits, rows⟩ := documents_join_at_breaks .css
  have row : ("/*", [⟨.comment, "/*"⟩]) ∈
      (Document.compute "/*\r" .css).lines.zip (Document.compute "/*\r" .css).tokens := by
    decide +kernel
  refine ⟨⟨by decide, by decide, ?_⟩, ⟨by decide, by decide, ?_⟩, row, ?_⟩
  · exact (edits "a\r" "b" "/*" ⟨0, 1⟩).1 (by decide)
  · exact (edits "a\r" "b" "*/" ⟨4, 3⟩).2 (by decide)
  · exact (rows "/*\r").2 _ _ row

end Highlight
