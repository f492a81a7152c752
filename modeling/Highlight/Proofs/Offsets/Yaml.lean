import Highlight.Grammar.Yaml
import Highlight.Proofs.Offsets.Basic

/-!
Lines of YAML by byte offsets. The value of a line starts where the head of the line ends, it ends
where its comment starts, and each node property moves its start on; no cut on the way fails.
-/

set_option autoImplicit false

namespace Highlight.Grammar.Yaml

open Text

/-! ## Comments -/

/-- The byte offset of the number sign that opens a comment. -/
def commentOffset? : Option Char → Bool → Nat → List Char → Option Nat
  | _, _, _, [] => none
  | some quote, _, offset, c :: rest =>
    commentOffset? (if c == quote then none else some quote) (isBlank c) (offset + c.utf8Size) rest
  | none, afterBlank, offset, c :: rest =>
    if afterBlank && (c == '\"' || c == '\'') then
      commentOffset? (some c) (isBlank c) (offset + c.utf8Size) rest
    else if afterBlank && c == '#' then some offset
    else commentOffset? none (isBlank c) (offset + c.utf8Size) rest

theorem beforeComment_isPrefix (quote : Option Char) (afterBlank : Bool) (content : List Char) :
    beforeComment quote afterBlank content <+: content := by
  fun_induction beforeComment quote afterBlank content with
  | case1 => exact List.nil_prefix
  | case2 _ _ c rest inductionHypothesis => exact (List.prefix_cons_inj c).mpr inductionHypothesis
  | case3 => exact List.nil_prefix
  | case4 _ c rest _ inductionHypothesis => exact (List.prefix_cons_inj c).mpr inductionHypothesis

/-- A comment starts right behind the text before it, where there is more. -/
theorem commentOffset?_eq (quote : Option Char) (afterBlank : Bool) (offset : Nat)
    (content : List Char) :
    commentOffset? quote afterBlank offset content =
      if (beforeComment quote afterBlank content).length < content.length then
        some (offset + byteSize (beforeComment quote afterBlank content))
      else none := by
  fun_induction commentOffset? quote afterBlank offset content with
  | case1 => rfl
  | case2 quote _ offset c rest inductionHypothesis =>
    rw [inductionHypothesis, beforeComment]
    simp [Nat.add_assoc]
  | case3 afterBlank offset c rest opens inductionHypothesis =>
    have noSign : ¬(afterBlank && c == '#') := by
      intro sign
      simp only [Bool.and_eq_true, Bool.or_eq_true, beq_iff_eq] at opens sign
      rcases opens.2 with rfl | rfl <;> exact absurd sign.2 (by decide)
    simp [beforeComment, noSign, opens, inductionHypothesis, Nat.add_assoc]
  | case4 afterBlank offset c rest closed sign => simp [beforeComment, sign]
  | case5 afterBlank offset c rest closed noSign inductionHypothesis =>
    simp [beforeComment, noSign, closed, inductionHypothesis, Nat.add_assoc]

/-! ## Values -/

def valueSpansByOffset? (offset : Nat) (value : List Char) : Option (List Span) :=
  match value with
  | [] => some []
  | first :: rest =>
    match wholeKind? (first :: rest) with
    | some kind => some [⟨kind, offset, offset + byteSize (first :: rest)⟩]
    | none =>
      match property? first rest with
      | some (kind, count) =>
        let stop := byteSize (first :: rest.take count)
        match _found : textFrom? stop (first :: rest) with
        | none => none
        | some tail => do
          let lead ← minus? (byteSize tail) (byteSize (trimStart tail))
          let others ← valueSpansByOffset? (offset + stop + lead) (trim tail)
          return ⟨kind, offset, offset + stop⟩ :: others
      | none =>
        if first == '[' || first == '{' then
          some (scanRules flowRules ⟨none, offset, first :: rest⟩)
        else some []
termination_by value.length
decreasing_by
  have shorter := length_lt_of_textFrom?
    (Nat.lt_of_lt_of_le first.utf8Size_pos (by simp [stop])) _found
  have trimmed := (trimEnd_isPrefix (trimStart tail)).length_le
  have started := (List.dropWhile_suffix isBlank (l := tail)).length_le
  simp only [trim, trimStart] at *
  omega

theorem valueSpansByOffset?_eq {value : List Char} (offset : Nat)
    (trimmed : trimEnd value = value) :
    valueSpansByOffset? offset value = some (valueSpans offset value) := by
  fun_induction valueSpans offset value with
  | case1 => rw [valueSpansByOffset?]
  | case2 offset first rest kind whole => simp only [valueSpansByOffset?, whole]
  | case3 offset first rest whole kind count property stop tail inductionHypothesis =>
    have split : first :: rest = (first :: rest.take count) ++ tail := by
      simp [tail, List.take_append_drop]
    have tailTrimmed : trimEnd (trimStart tail) = trimStart tail := by
      refine trimEnd_of_suffix ?_ trimmed
      exact (List.dropWhile_suffix isBlank).trans ⟨_, split.symm⟩
    have found : textFrom? (byteSize (first :: rest.take count)) (first :: rest) = some tail := by
      conv_lhs => rw [split]
      exact textFrom?_append _ _
    have others : valueSpansByOffset?
        (offset + byteSize (first :: rest.take count) + byteSize (tail.takeWhile isBlank))
        (trim tail) =
          some (valueSpans (stop + byteSize (tail.takeWhile isBlank)) (trimStart tail)) := by
      rw [trim, tailTrimmed, ← inductionHypothesis tailTrimmed, byteSize_cons, ← Nat.add_assoc]
    rw [valueSpansByOffset?]
    simp only [whole, property]
    split
    · next missed => exact absurd (found.symm.trans missed) (by simp)
    · next same =>
      obtain rfl := Option.some.inj (found.symm.trans same)
      simp only [minus?_trimStart, others, Option.bind_eq_bind, Option.bind_some]
      simp [stop, Nat.add_assoc]
  | case4 offset first rest whole property opens =>
    simp only [valueSpansByOffset?, whole, property, opens, ↓reduceIte]
  | case5 offset first rest whole property closed =>
    simp only [valueSpansByOffset?, whole, property, closed]
    rfl

/-! ## Lines -/

/-- The spans of what follows the head of a line, up to the end of the line. -/
def contentSpansByOffset? (start stop : Nat) (content : List Char) : Option (List Span) := do
  let comment? := commentOffset? none true 0 content
  let value ← comment?.elim (some content) fun comment => textBefore? comment content
  let lead ← minus? (byteSize value) (byteSize (trimStart value))
  let own ← valueSpansByOffset? (start + lead) (trim value)
  return own ++ comment?.toList.map fun comment => ⟨.comment, start + comment, stop⟩

theorem contentSpansByOffset?_eq (start : Nat) (content : List Char) :
    contentSpansByOffset? start (start + byteSize content) content =
      some (contentSpans start content) := by
  have value : (commentOffset? none true 0 content).elim (some content)
      (fun comment => textBefore? comment content) = some (beforeComment none true content) := by
    obtain ⟨comment, whole⟩ := beforeComment_isPrefix none true content
    rw [commentOffset?_eq]
    split
    · have cut := textBefore?_append (beforeComment none true content) comment
      rwa [whole, ← Nat.zero_add (byteSize _)] at cut
    · next complete =>
      have nothing : comment = [] := by
        rw [← List.length_eq_zero_iff]
        have lengths := congrArg List.length whole
        rw [List.length_append] at lengths
        omega
      rw [nothing, List.append_nil] at whole
      simp [whole]
  have own := valueSpansByOffset?_eq
    (start + byteSize ((beforeComment none true content).takeWhile isBlank))
    (trimEnd_trimEnd (trimStart (beforeComment none true content)))
  simp only [contentSpansByOffset?, value, minus?_trimStart, Option.bind_eq_bind,
    Option.bind_some]
  rw [trim, own, commentOffset?_eq]
  simp only [contentSpans, Option.bind_some, trim]
  split <;> simp

def spansByOffset? (line : List Char) : Option (List Span) := do
  let trimmed := trimStart line
  let indent ← minus? (byteSize line) (byteSize trimmed)
  if trimmed.head? = some '#' then return [⟨.comment, indent, byteSize line⟩]
  else if trimEnd trimmed = "---".toList ∨ trimEnd trimmed = "...".toList then
    return [⟨.punctuation, indent, indent + 3⟩]
  else
    let pieces := (head (.start line)).getD []
    let start := ((Place.start line).forward (Piece.total pieces)).offset
    let content ← textFrom? start line
    let others ← contentSpansByOffset? start (byteSize line) content
    return Piece.spansFrom (.start line) pieces ++ others

theorem spansByOffset?_eq (line : List Char) : spansByOffset? line = some (spans line) := by
  have first : (trim line).head? = (trimStart line).head? := head?_trimEnd (stops_trimStart line)
  simp only [spansByOffset?, minus?_trimStart, Option.bind_eq_bind, Option.bind_some, spans, first]
  split
  · rfl
  split
  · next isMark =>
    rw [if_pos (by exact isMark)]
    rfl
  · next noMark =>
    rw [if_neg (by exact noMark), Place.textFrom?_forward, Option.bind_some,
      ← Place.offset_add_byteSize_forward (Piece.total ((head (.start line)).getD [])) line,
      contentSpansByOffset?_eq]
    rfl

end Highlight.Grammar.Yaml
