import Highlight.Grammar.Assignment
import Highlight.Proofs.Offsets.Basic

/-!
Lines of environment files by byte offsets. A value ends behind its closing quote, or before the
blanks in front of its comment; what comes after is cut off at the end of the value.
-/

set_option autoImplicit false

namespace Highlight.Grammar.Assignment

open Text

/-- The byte offset right behind the quote that closes a text, of which a part has been passed. -/
def closingOffset? (quote : Char) : Bool → Nat → List Char → Option Nat
  | _, _, [] => none
  | escaped, offset, c :: rest =>
    if escaped then closingOffset? quote false (offset + c.utf8Size) rest
    else if c == '\\' && quote == '\"' then closingOffset? quote true (offset + c.utf8Size) rest
    else if c == quote then some (offset + c.utf8Size)
    else closingOffset? quote false (offset + c.utf8Size) rest

/-- The byte offset of the first number sign behind a blank, or of the end of the text. -/
def commentOffset (afterBlank : Bool) (offset : Nat) : List Char → Nat
  | [] => offset
  | c :: rest =>
    if c == '#' && afterBlank then offset
    else commentOffset (isBlank c) (offset + c.utf8Size) rest

/-- The byte offset at which a value without leading blanks ends; none when it is empty or opens
with a quote that nothing closes. The first result is none when a cut fails. -/
def valueStop? (start : Nat) : List Char → Option (Option Nat)
  | [] => some none
  | c :: rest =>
    if c == '\"' || c == '\'' then
      some ((closingOffset? c false c.utf8Size rest).map (start + ·))
    else do
      let kept ← textBefore? (commentOffset false 0 (c :: rest)) (c :: rest)
      return some (start + byteSize (trimEnd kept))

/-- The comment after a value, if there is one. -/
def tailSpansByOffset? (offset stop : Nat) (tail : List Char) : Option (List Span) :=
  match firstOffset? (· == '#') 0 tail with
  | none => some []
  | some sign => do
    let gap ← textBefore? sign tail
    return if trim gap = [] then [⟨.comment, offset + sign, stop⟩] else []

def valueSpansByOffset? (offset : Nat) (value : List Char) : Option (List Span) := do
  let body := trimStart value
  let start ← minus? (offset + byteSize value) (byteSize body)
  match ← valueStop? start body with
  | none => return [⟨.string, start, offset + byteSize value⟩]
  | some stop =>
    let length ← minus? stop offset
    let tail ← textFrom? length value
    let others ← tailSpansByOffset? stop (offset + byteSize value) tail
    return ⟨.string, start, stop⟩ :: others

def spansByOffset? (line : List Char) : Option (List Span) :=
  if (trimStart line).head? = some '#' then some [⟨.comment, 0, byteSize line⟩]
  else
    match head (.start line) with
    | none => some []
    | some pieces => do
      let place := (Place.start line).forward (Piece.total pieces)
      let others ← valueSpansByOffset? place.offset place.rest
      return Piece.spansFrom (.start line) pieces ++ others

/-! ## Where a value ends -/

theorem closingOffset?_eq {quote : Char} (isQuote : quote = '\"' ∨ quote = '\'') (escaped : Bool)
    (passed rest : List Char) :
    closingOffset? quote escaped (byteSize passed) rest =
      (closedLength? quote escaped passed.length rest).map fun length =>
        byteSize ((passed ++ rest).take length) := by
  induction rest generalizing escaped passed with
  | nil => rfl
  | cons c rest inductionHypothesis =>
    have following : ∀ next, closingOffset? quote next (byteSize passed + c.utf8Size) rest =
        (closedLength? quote next (passed.length + 1) rest).map fun length =>
          byteSize ((passed ++ c :: rest).take length) := by
      intro next
      simpa using inductionHypothesis next (passed ++ [c])
    rw [closingOffset?, closedLength?]
    cases escaped with
    | true => simpa using following false
    | false =>
      by_cases closes : c = quote
      · -- A quote is no backslash, so it does not matter which of the two is looked for first.
        have noBackslash : quote ≠ '\\' := by rcases isQuote with rfl | rfl <;> decide
        have taken : (passed ++ [c] ++ rest).take (passed.length + 1) = passed ++ [c] :=
          List.take_left' (by simp)
        subst closes
        rw [List.append_assoc, List.singleton_append] at taken
        simp [noBackslash, taken]
      · by_cases escapes : (c == '\\' && quote == '\"')
        · simpa [closes, escapes] using following true
        · simpa [closes, escapes] using following false

theorem beforeComment_isPrefix (afterBlank : Bool) (text : List Char) :
    beforeComment afterBlank text <+: text := by
  fun_induction beforeComment afterBlank text with
  | case1 => exact List.nil_prefix
  | case2 => exact List.nil_prefix
  | case3 _ c rest _ inductionHypothesis => exact (List.prefix_cons_inj c).mpr inductionHypothesis

theorem commentOffset_eq (afterBlank : Bool) (offset : Nat) (text : List Char) :
    commentOffset afterBlank offset text = offset + byteSize (beforeComment afterBlank text) := by
  induction text generalizing afterBlank offset with
  | nil => rfl
  | cons c rest inductionHypothesis =>
    rw [commentOffset, beforeComment]
    split
    · simp
    · rw [inductionHypothesis, byteSize_cons, Nat.add_assoc]

/-- The end of a value by offset is the end of the characters that make it up. An end that is none
is the end of the text. -/
theorem valueStop?_eq (start : Nat) (body : List Char) :
    valueStop? start body = some (some (start + byteSize (body.take (valueLength body)))) ∨
      valueStop? start body = some none ∧ valueLength body = body.length := by
  cases body with
  | nil => exact .inr ⟨rfl, rfl⟩
  | cons c rest =>
    rw [valueStop?, valueLength]
    split
    · next isQuote =>
      have quotes : c = '\"' ∨ c = '\'' := by simpa using isQuote
      have closing := closingOffset?_eq quotes false [c] rest
      simp only [byteSize_cons, byteSize_nil, Nat.add_zero, List.length_singleton,
        List.singleton_append] at closing
      rw [closing]
      cases closedLength? c false 1 rest with
      | none => exact .inr ⟨rfl, rfl⟩
      | some length => exact .inl rfl
    · obtain ⟨comment, whole⟩ := beforeComment_isPrefix false (c :: rest)
      have cut := textBefore?_append (beforeComment false (c :: rest)) comment
      rw [whole, ← Nat.zero_add (byteSize _), ← commentOffset_eq] at cut
      have kept : (c :: rest).take (trimEnd (beforeComment false (c :: rest))).length =
          trimEnd (beforeComment false (c :: rest)) :=
        (List.prefix_iff_eq_take.mp ((trimEnd_isPrefix _).trans ⟨comment, whole⟩)).symm
      rw [cut, kept]
      exact .inl rfl

/-! ## Values and lines -/

theorem tailSpansByOffset?_eq (offset : Nat) (tail : List Char) :
    tailSpansByOffset? offset (offset + byteSize tail) tail = some (tailSpans offset tail) := by
  obtain absent | ⟨gap, rest, whole, absent⟩ :
      (∀ c ∈ tail, (c == '#') = false) ∨
        ∃ gap rest, tail = gap ++ '#' :: rest ∧ ∀ c ∈ gap, (c == '#') = false := by
    by_cases present : '#' ∈ tail
    · obtain ⟨gap, rest, whole, absent⟩ := List.eq_append_cons_of_mem present
      refine .inr ⟨gap, rest, whole, fun c member => ?_⟩
      simpa using ne_of_mem_of_not_mem member absent
    · exact .inl fun c member => by simpa using ne_of_mem_of_not_mem member present
  · have whole : tail.takeWhile (· != '#') = tail := by
      rw [List.takeWhile_eq_self_iff]
      exact fun c member => by simpa using absent c member
    simp [tailSpansByOffset?, firstOffset?_of_absent absent, tailSpans, whole]
  · have gapFound : tail.takeWhile (· != '#') = gap := by
      rw [whole, List.takeWhile_append_of_pos fun c member => by simpa using absent c member]
      simp
    have cut := textBefore?_append gap ('#' :: rest)
    have shorter : gap.length < tail.length := by simp [whole]
    have sign : firstOffset? (· == '#') 0 tail = some (byteSize gap) := by
      rw [whole, firstOffset?_append absent rfl, Nat.zero_add]
    rw [← whole] at cut
    simp only [tailSpansByOffset?, sign, cut, Option.bind_eq_bind, Option.bind_some,
      trim_eq_nil_iff, tailSpans, gapFound, shorter, decide_true, Bool.true_and,
      List.all_eq_true]
    rfl

theorem valueSpansByOffset?_eq (offset : Nat) (value : List Char) :
    valueSpansByOffset? offset value = some (valueSpans offset value) := by
  have split : value = value.takeWhile isBlank ++ trimStart value :=
    List.takeWhile_append_dropWhile.symm
  have size : offset + byteSize value =
      offset + byteSize (value.takeWhile isBlank) + byteSize (trimStart value) := by
    conv_lhs => rw [split, byteSize_append]
    rw [Nat.add_assoc]
  have started := minus?_of_eq size
  simp only [valueSpansByOffset?, started, Option.bind_eq_bind, Option.bind_some, valueSpans]
  obtain stopped | ⟨stopped, whole⟩ := valueStop?_eq
    (offset + byteSize (value.takeWhile isBlank)) (trimStart value)
  · generalize valueLength (trimStart value) = length at stopped
    have reached : minus? (offset + byteSize (value.takeWhile isBlank) +
        byteSize ((trimStart value).take length)) offset =
          some (byteSize (value.takeWhile isBlank ++ (trimStart value).take length)) :=
      minus?_of_eq (by rw [byteSize_append]; omega)
    have cut := textFrom?_append (value.takeWhile isBlank ++ (trimStart value).take length)
      ((trimStart value).drop length)
    rw [List.append_assoc, List.take_append_drop, ← split] at cut
    have tail := tailSpansByOffset?_eq (offset + byteSize (value.takeWhile isBlank) +
      byteSize ((trimStart value).take length)) ((trimStart value).drop length)
    rw [Nat.add_assoc _ (byteSize (List.take _ _)), ← byteSize_append, List.take_append_drop,
      ← size] at tail
    simp only [stopped, Option.bind_some, reached, cut, tail]
    rfl
  · have nothing : tailSpans (offset + byteSize value) [] = [] := rfl
    simp only [stopped, Option.bind_some, whole, List.take_length, List.drop_length, ← size,
      nothing]
    rfl

theorem spansByOffset?_eq (line : List Char) : spansByOffset? line = some (spans line) := by
  unfold spansByOffset? spans
  split
  · rfl
  cases head (.start line) with
  | none => rfl
  | some pieces =>
    simp only [valueSpansByOffset?_eq, Option.bind_eq_bind, Option.bind_some]
    rfl

end Highlight.Grammar.Assignment
