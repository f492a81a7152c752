import Highlight.Proofs.Lexemes
import Highlight.Proofs.Offsets.Assignment
import Highlight.Proofs.Offsets.Yaml
import Highlight.Tokenize

/-!
Every language by byte offsets. Wherever a grammar cuts a line at an offset or takes one offset from
another, the cut lies between two characters of the text and the difference is none below zero, so
the tokens of a line are found whatever the line holds.
-/

set_option autoImplicit false

namespace Highlight.Grammar

open Text

/-! ## Prose -/

namespace Prose

def spansByOffset? (line : List Char) : Option (List Span) := do
  let indent ← minus? (byteSize line) (byteSize (trimStart line))
  if (fence.length? line).isSome then return [⟨.code, indent, byteSize line⟩]
  else if (heading.length? line).isSome then return [⟨.heading, indent, byteSize line⟩]
  else if (sectionRule.length? line).isSome then
    return [⟨.punctuation, indent, byteSize (trimEnd line)⟩]
  else
    let marks := (blockMarks (.start line)).getD []
    let start := ((Place.start line).forward (Piece.total marks)).offset
    let content ← textFrom? start line
    return Piece.spansFrom (.start line) marks ++ scanRules rules ⟨none, start, content⟩

theorem spansByOffset?_eq (line : List Char) : spansByOffset? line = some (spans line) := by
  simp only [spansByOffset?, minus?_trimStart, Option.bind_eq_bind, Option.bind_some, spans]
  split
  · rfl
  split
  · rfl
  split
  · rfl
  · rw [Place.textFrom?_forward]
    rfl

end Prose

/-! ## Records -/

namespace Record

/-- The spans of fields that start at an offset, each but the first with the comma before it. -/
def fieldSpansByOffset? : Bool → Nat → List (List Char) → Option (List Span)
  | _, _, [] => some []
  | isLater, start, field :: fields => do
    let comma ← if isLater then
        (minus? start 1).map fun before => [⟨.punctuation, before, start⟩]
      else some []
    let own ← match fieldKind? (trim field) with
      | none => some []
      | some kind =>
        (minus? (byteSize field) (byteSize (trimStart field))).map fun lead =>
          [⟨kind, start + lead, start + lead + byteSize (trim field)⟩]
    let others ← fieldSpansByOffset? true (start + byteSize field + 1) fields
    return comma ++ own ++ others

def spansByOffset? (line : List Char) : Option (List Span) :=
  fieldSpansByOffset? false 0 (cut ',' line)

/-- The offset of a later field is that of the comma before it and one more. -/
theorem fieldSpansByOffset?_later (comma : Nat) (fields : List (List Char)) :
    fieldSpansByOffset? true (comma + 1) fields =
      some ((if fields.isEmpty then [] else [⟨.punctuation, comma, comma + 1⟩]) ++
        fieldSpans (comma + 1) fields) := by
  induction fields generalizing comma with
  | nil => rfl
  | cons field fields inductionHypothesis =>
    have before : minus? (comma + 1) 1 = some comma := minus?_of_eq rfl
    rw [fieldSpansByOffset?, inductionHypothesis, fieldSpans]
    cases fieldKind? (trim field) <;> simp [before, minus?_trimStart]

theorem spansByOffset?_eq (line : List Char) : spansByOffset? line = some (spans line) := by
  rw [spansByOffset?, spans]
  cases cut ',' line with
  | nil => rfl
  | cons field fields =>
    rw [fieldSpansByOffset?, fieldSpansByOffset?_later, fieldSpans]
    cases fieldKind? (trim field) <;> simp [minus?_trimStart]

end Record

/-! ## Markup -/

namespace Markup

/-- Is the first angle bracket of a line, found by its offset, one that closes? -/
def startsInTagByOffset? (line : List Char) : Option Bool :=
  match firstOffset? (fun c => c == '<' || c == '>') 0 line with
  | some bracket => (textFrom? bracket line).map fun rest => rest.head? == some '>'
  | none => some (continuation.length? line).isSome

def spansByOffset? (line : List Char) : Option (List Span) :=
  (startsInTagByOffset? line).map fun inside => scanFrom step inside (.start line)

theorem startsInTagByOffset?_eq (line : List Char) :
    startsInTagByOffset? line = some (startsInTag line) := by
  unfold startsInTagByOffset? startsInTag
  cases found : line.find? (fun c => c == '<' || c == '>') with
  | none =>
    have absent : ∀ c ∈ line, (c == '<' || c == '>') = false := by
      simpa using List.find?_eq_none.mp found
    rw [firstOffset?_of_absent absent]
  | some bracket =>
    obtain ⟨isBracket, head, rest, rfl, others⟩ := List.find?_eq_some_iff_append.mp found
    have absent : ∀ c ∈ head, (c == '<' || c == '>') = false := by simpa using others
    rw [firstOffset?_append absent isBracket, Nat.zero_add]
    simp only [textFrom?_append]
    rfl

theorem spansByOffset?_eq (line : List Char) : spansByOffset? line = some (spans line) := by
  rw [spansByOffset?, startsInTagByOffset?_eq]
  rfl

end Markup

/-! ## Programs -/

/-- A scan that goes on behind each match, whose own spans are none when a cut fails. -/
def scanByOffset? (read : Place → Option (Nat × Option (List Span))) (place : Place) :
    Option (List Span) :=
  match _hasRest : place.rest with
  | [] => some []
  | _ :: _ =>
    match read place with
    | none => scanByOffset? read (place.forward 1)
    | some (length, own?) => do
      let own ← own?
      let others ← scanByOffset? read (place.forward (max 1 length))
      return own ++ others
termination_by place.rest.length
decreasing_by
  all_goals
    rw [Place.rest_forward, _hasRest, List.length_drop]
    simp only [List.length_cons]
    omega

/-- A scan finds the spans of some rules when each of its matches does. -/
theorem scanByOffset?_eq {rules : List Rule} {read : Place → Option (Nat × Option (List Span))}
    (reads : ∀ place, read place = (Rule.firstOf rules place).map fun pieces =>
      (Piece.total pieces, some (Piece.spansFrom place pieces))) (place : Place) :
    scanByOffset? read place = some (scanRules rules place) := by
  fun_induction scanByOffset? read place with
  | case1 place ended => rw [scanRules, scanFrom_of_end ended]
  | case2 place c rest present nothing inductionHypothesis =>
    have noRule : Rule.firstOf rules place = none := by
      simpa using (reads place).symm.trans nothing
    rw [inductionHypothesis, scanRules, scanRules, scanFrom_of_none present (by simp [noRule])]
  | case3 place c rest present length own? found inductionHypothesis =>
    obtain ⟨pieces, ruleRead, same⟩ := Option.map_eq_some_iff.mp ((reads place).symm.trans found)
    obtain ⟨rfl, rfl⟩ := Prod.mk.inj same
    rw [inductionHypothesis, scanRules, scanRules,
      scanFrom_of_some present (by rw [ruleRead]; rfl)]
    rfl

namespace Program

open Text.Lexeme

def spanByOffset? (kind : TokenKind) (place : Place) (length : Nat) : Option (List Span) := do
  let stop := (place.forward length).offset
  let start ← minus? stop (byteSize (trimStart (place.rest.take length)))
  return [⟨kind, start, stop⟩]

/-- The match at a place, with its spans cut at byte offsets. -/
def matchByOffset? (place : Place) : Option (Nat × Option (List Span)) :=
  let indented (kind : TokenKind) (pieces : List Piece) :=
    (Piece.total pieces, spanByOffset? kind place (Piece.total pieces))
  (directive place).map (indented .keyword) <|>
    (hashComment place).map (indented .comment) <|>
    (Rule.firstOf (rules.drop 2) place).map fun pieces =>
      (Piece.total pieces, some (Piece.spansFrom place pieces))

def spansByOffset? (line : List Char) : Option (List Span) :=
  scanByOffset? matchByOffset? (.start line)

/-- What is read behind the indentation of a line. -/
theorem indented_of_read {kind : TokenKind} {lexeme : Lexeme} {place : Place}
    {pieces : List Piece}
    (read : Rule.atLineStart (.sequence [.skip (.many isIndent), .token kind lexeme]) place =
      some pieces) :
    ∃ length, lexeme.length? (place.rest.dropWhile isIndent) = some length ∧
      pieces = [.plain (place.rest.takeWhile isIndent).length, .labelled kind length] := by
  have skipped : Rule.skip (.many isIndent) place =
      some [.plain (place.rest.takeWhile isIndent).length] := by
    simp [Rule.skip, Rule.classified, many, countRun_eq, Piece.plain]
  have behind : (place.forward (place.rest.takeWhile isIndent).length).rest =
      place.rest.dropWhile isIndent := by
    have drop : ∀ indent body : List Char, (indent ++ body).drop indent.length = body :=
      fun _ _ => List.drop_left
    simpa [Place.rest_forward] using
      drop (place.rest.takeWhile isIndent) (place.rest.dropWhile isIndent)
  have total : Piece.total [.plain (place.rest.takeWhile isIndent).length] =
      (place.rest.takeWhile isIndent).length := by
    simp [Piece.total, Piece.plain]
  unfold Rule.atLineStart at read
  split at read
  · cases found : lexeme.length? (place.rest.dropWhile isIndent) with
    | none => simp [Rule.sequence, skipped, Rule.token, total, behind, found] at read
    | some length =>
      refine ⟨length, rfl, ?_⟩
      simpa [Rule.sequence, skipped, Rule.token, total, behind, found, eq_comm] using read
  · contradiction

theorem head?_of_length?_char {mark : Char} {text : List Char} {length : Nat}
    (read : (char mark).length? text = some length) : text.head? = some mark := by
  cases text with
  | nil => contradiction
  | cons c rest =>
    by_contra different
    have missed : (char mark).Misses (c :: rest) :=
      misses_one (by simpa [Stops] using different)
    exact absurd (missed.symm.trans read) (by simp)

/-- What stands behind the indentation and opens with no blank is what a trim leaves. -/
theorem spanByOffset?_of_read {kind : TokenKind} {lexeme : Lexeme} {place : Place}
    {pieces : List Piece}
    (opens : ∀ text length, lexeme.length? text = some length → text.head? = some '#')
    (read : Rule.atLineStart (.sequence [.skip (.many isIndent), .token kind lexeme]) place =
      some pieces) :
    spanByOffset? kind place (Piece.total pieces) = some (Piece.spansFrom place pieces) := by
  obtain ⟨length, found, rfl⟩ := indented_of_read read
  have first := opens _ _ found
  have whole := (List.takeWhile_append_dropWhile (p := isIndent) (l := place.rest)).symm
  have blank : ∀ c ∈ place.rest.takeWhile isIndent, isBlank c := by
    intro c member
    have isIndent := List.mem_takeWhile_imp member
    simp only [Text.isIndent, Bool.or_eq_true, beq_iff_eq] at isIndent
    rcases isIndent with rfl | rfl <;> rfl
  generalize place.rest.takeWhile isIndent = indent at whole blank
  generalize place.rest.dropWhile isIndent = body at whole first
  have stops : ∀ c ∈ (body.take length).head?, isBlank c = false := by
    intro c head
    cases length with
    | zero => simp at head
    | succ length =>
      rw [List.head?_take, if_neg (by simp), first] at head
      obtain rfl := Option.some.inj head
      rfl
  have total : Piece.total [.plain indent.length, .labelled kind length] =
      indent.length + length := by
    simp [Piece.total, Piece.plain, Piece.labelled]
  have taken : place.rest.take (indent.length + length) = indent ++ body.take length := by
    rw [whole, List.take_length_add_append]
  -- The indentation is all that a trim takes off.
  have trimmed : trimStart (indent ++ body.take length) = body.take length := by
    rw [trimStart, List.dropWhile_append_of_pos blank]
    exact trimStart_of_stops stops
  have start : minus? (place.offset + byteSize (indent ++ body.take length))
      (byteSize (body.take length)) = some (place.offset + byteSize indent) :=
    minus?_of_eq (by rw [byteSize_append, Nat.add_assoc])
  rw [spanByOffset?, total, Place.offset_forward, taken, trimmed, start, Piece.spansFrom_eq]
  simp [Piece.segments, Piece.plain, Piece.labelled, Segment.spansFrom, whole, Nat.add_assoc]

theorem directive_opens (text : List Char) (length : Nat)
    (found : (char '#' ++ many isIndent ++ directiveName).length? text = some length) :
    text.head? = some '#' := by
  obtain ⟨_, before, -⟩ := Option.bind_eq_some_iff.mp found
  obtain ⟨_, own, -⟩ := Option.bind_eq_some_iff.mp before
  exact head?_of_length?_char own

theorem hashComment_opens (text : List Char) (length : Nat)
    (found : (char '#' ++ restOfLine).length? text = some length) : text.head? = some '#' := by
  obtain ⟨_, own, -⟩ := Option.bind_eq_some_iff.mp found
  exact head?_of_length?_char own

theorem matchByOffset?_eq (place : Place) :
    matchByOffset? place = (Rule.firstOf rules place).map fun pieces =>
      (Piece.total pieces, some (Piece.spansFrom place pieces)) := by
  rw [rules]
  cases isDirective : directive place with
  | some pieces =>
    rw [Rule.firstOf_cons_of_some isDirective]
    have span := spanByOffset?_of_read directive_opens isDirective
    simp [matchByOffset?, isDirective, span]
  | none =>
    rw [Rule.firstOf_cons_of_none isDirective]
    cases isComment : hashComment place with
    | some pieces =>
      rw [Rule.firstOf_cons_of_some isComment]
      have span := spanByOffset?_of_read hashComment_opens isComment
      simp [matchByOffset?, isDirective, isComment, span]
    | none =>
      rw [Rule.firstOf_cons_of_none isComment]
      simp [matchByOffset?, isDirective, isComment, rules]

theorem spansByOffset?_eq (line : List Char) : spansByOffset? line = some (spans line) :=
  scanByOffset?_eq matchByOffset?_eq (.start line)

end Program

end Grammar

/-! ## Languages -/

/-- The stretches of a line that a language's grammar labels, cut at byte offsets. The grammars that
are not listed cut at no offset of their own. -/
def Language.spansByOffset? : Language → List Char → Option (List Span)
  | .xml | .html | .svg => Grammar.Markup.spansByOffset?
  | .yaml => Grammar.Yaml.spansByOffset?
  | .markdown => Grammar.Prose.spansByOffset?
  | .env => Grammar.Assignment.spansByOffset?
  | .csv => Grammar.Record.spansByOffset?
  | .code => Grammar.Program.spansByOffset?
  | language => fun line => some (language.spans line)

/-- The tokens of a line, found by cutting it at byte offsets; none when a cut fails. -/
def tokenizeByOffset? (language : Language) (line : String) : Option (List Token) :=
  (language.spansByOffset? line.toList).map (coverLine line.toList)

theorem Language.spansByOffset?_eq (language : Language) (line : List Char) :
    language.spansByOffset? line = some (language.spans line) := by
  cases language with
  | xml | html | svg => exact Grammar.Markup.spansByOffset?_eq line
  | yaml => exact Grammar.Yaml.spansByOffset?_eq line
  | markdown => exact Grammar.Prose.spansByOffset?_eq line
  | env => exact Grammar.Assignment.spansByOffset?_eq line
  | csv => exact Grammar.Record.spansByOffset?_eq line
  | code => exact Grammar.Program.spansByOffset?_eq line
  | json | css | sql | shell | plainText | randomString => rfl

/-- No cut at a byte offset and no difference of two offsets fails, in any language and on any line,
and the tokens are those of the line. -/
theorem tokenize_cuts_at_characters (language : Language) (line : String) :
    tokenizeByOffset? language line = some (tokenize language line) := by
  rw [tokenizeByOffset?, language.spansByOffset?_eq]
  rfl

end Highlight
