import Highlight.Proofs.Delimited
import Highlight.Proofs.Spelling
import Highlight.Tokenize

/-!
Lines of markup. A line is written as text, tags and comments; the tokens of such a line are the
marks, names, values and comments that it was written from, and everything else is plain text.
-/

set_option autoImplicit false

namespace Highlight

namespace Grammar.Markup

open Text Text.Lexeme

/-! ## Written markup -/

/-- May the name of an attribute open with this character? -/
def opensAttribute (c : Char) : Bool :=
  c.isAlpha || c == '_' || c == ':' || c == '@'

abbrev IsTagName (name : List Char) : Prop :=
  IsName Char.isAlpha continuesName name

abbrev IsAttributeName (name : List Char) : Prop :=
  IsName opensAttribute continuesName name

def IsBlanks (text : List Char) : Prop :=
  ∀ c ∈ text, isBlank c

/-- An attribute, with the blanks before it and around its equals sign. -/
structure Attribute where
  before : List Char
  name : List Char
  afterName : List Char
  beforeValue : List Char
  quote : Char
  value : List Char

inductive Item where
  | text (content : List Char)
  | opening (name : List Char) (attributes : List Attribute) (blanks : List Char)
    (selfCloses : Bool)
  | closing (name blanks : List Char)
  | comment (body : List Char)

structure Attribute.WellFormed (entry : Attribute) : Prop where
  separated : entry.before ≠ []
  before : IsBlanks entry.before
  name : IsAttributeName entry.name
  afterName : IsBlanks entry.afterName
  beforeValue : IsBlanks entry.beforeValue
  quote : entry.quote = '\"' ∨ entry.quote = '\''
  value : entry.quote ∉ entry.value ∧ '<' ∉ entry.value

def Item.WellFormed : Item → Prop
  | text content => '<' ∉ content
  | opening name attributes blanks _ =>
    IsTagName name ∧ (∀ entry ∈ attributes, entry.WellFormed) ∧ IsBlanks blanks
  | closing name blanks => IsTagName name ∧ IsBlanks blanks
  | comment body => '\n' ∉ body ∧ ¬"-->".toList <:+: body

def Item.isText : Item → Bool
  | text _ => true
  | _ => false

def Attribute.written (entry : Attribute) : List Char :=
  entry.before ++ (entry.name ++ (entry.afterName ++ ('=' :: (entry.beforeValue ++
    (entry.quote :: (entry.value ++ [entry.quote]))))))

def Item.written : Item → List Char
  | text content => content
  | opening name attributes blanks selfCloses =>
    '<' :: (name ++ (attributes.flatMap Attribute.written ++ (blanks ++
      if selfCloses then ['/', '>'] else ['>'])))
  | closing name blanks => '<' :: '/' :: (name ++ (blanks ++ ['>']))
  | comment body => "<!--".toList ++ (body ++ "-->".toList)

def written (items : List Item) : List Char :=
  items.flatMap Item.written

def Attribute.segments (entry : Attribute) : List Segment :=
  [.plain entry.before, .labelled .attribute entry.name, .plain entry.afterName,
    .labelled .punctuation ['='], .plain entry.beforeValue,
    .labelled .string (entry.quote :: (entry.value ++ [entry.quote]))]

def Item.segments : Item → List Segment
  | text content => [.plain content]
  | opening name attributes blanks selfCloses =>
    [.labelled .bracket ['<'], .labelled .tag name] ++ attributes.flatMap Attribute.segments ++
      [.plain blanks, .labelled .bracket (if selfCloses then ['/', '>'] else ['>'])]
  | closing name blanks =>
    [.labelled .bracket ['<', '/'], .labelled .tag name, .plain blanks, .labelled .bracket ['>']]
  | comment body => [.labelled .comment ("<!--".toList ++ (body ++ "-->".toList))]

/-! ## Names -/

section Names

variable {rest : List Char}

theorem stops_of_mark {c : Char} (isMark : c ∈ ['=', '/', '>']) (rest : List Char) :
    Stops continuesName (c :: rest) := by
  have marks : ∀ d ∈ ['=', '/', '>'], continuesName d = false :=
    forall_mem_of_all (by decide)
  simpa [Stops] using marks c isMark

theorem stops_of_blanks {blanks : List Char} (blank : IsBlanks blanks)
    (stops : blanks = [] → Stops continuesName rest) : Stops continuesName (blanks ++ rest) := by
  cases blanks with
  | nil => exact stops rfl
  | cons c others =>
    have excluded : continuesName c = false :=
      excludes_blank (blank c (by simp)) (by decide +kernel)
    simpa [Stops] using excluded

end Names

/-! ## Single steps -/

section Steps

variable {inside : Bool} {before : Option Char} {offset : Nat} {place : Place} {c : Char}
  {name rest : List Char} {pieces : List Piece}

theorem step_of_everywhere (read : everywhere place = some pieces) :
    step inside place = some (pieces, inside) := by
  simp [step, read]

theorem step_of_opening (nothing : everywhere place = none) (read : opening place = some pieces) :
    step inside place = some (pieces, true) := by
  simp [step, nothing, read]

theorem everywhere_opens : Rule.OpensWith (· == '<') everywhere := by
  refine Rule.opensWith_firstOf ?_
  simp only [List.forall_mem_cons]
  refine ⟨Rule.opensWith_token (opensWith_andThen (opensWith_literal rfl) _) _,
    Rule.opensWith_token ?_ _, List.forall_mem_nil _⟩
  exact opensWith_andThen (opensWith_andThen (opensWith_andThen (opensWith_one _) _) _) _

theorem opening_opens : Rule.OpensWith (· == '<') opening :=
  Rule.opensWith_sequence (Rule.opensWith_token (opensWith_andThen (opensWith_one _) _) _) _

theorem step_inside (different : c ≠ '<') :
    step true ⟨before, offset, c :: rest⟩ =
      ((inTag ⟨before, offset, c :: rest⟩).map (·, true)).or
        ((closing ⟨before, offset, c :: rest⟩).map (·, false)) := by
  have outside : Stops (· == '<') (c :: rest) := by simpa [Stops]
  simp [step, everywhere_opens outside, opening_opens outside]

/-- Outside of tags a step labels nothing, whatever it reads. -/
theorem step_outside (different : c ≠ '<') {next : Bool}
    (read : step false ⟨before, offset, c :: rest⟩ = some (pieces, next)) :
    next = false ∧ ∃ own, pieces = [.plain (Piece.total own)] ∧
      (inTag ⟨before, offset, c :: rest⟩ = some own ∨
        closing ⟨before, offset, c :: rest⟩ = some own) := by
  have outside : Stops (· == '<') (c :: rest) := by simpa [Stops]
  rcases step_cases read with ⟨own, -⟩ | ⟨own, -⟩ | ⟨own, found, rfl, labelled⟩ |
    ⟨own, found, rfl, labelled⟩
  · cases (everywhere_opens outside).symm.trans own
  · cases (opening_opens outside).symm.trans own
  · exact ⟨rfl, own, labelled, .inl found⟩
  · exact ⟨rfl, own, labelled, .inr found⟩

end Steps

/-! ## Text -/

theorem inTag_avoids : Rule.Avoids '<' inTag := by
  have name : attributeName.Avoids '<' :=
    avoids_andThen (avoids_one (by decide)) (avoids_many (by decide))
  have quoted : ∀ quote, '<' ≠ quote → (value quote).Avoids '<' := fun quote different =>
    avoids_andThen (avoids_andThen (avoids_one (by simpa using different))
      (avoids_many (by simp))) (avoids_one (by simpa using different))
  refine Rule.avoids_firstOf ?_
  simp only [List.forall_mem_cons]
  refine ⟨Rule.avoids_sequence ?_, Rule.avoids_skip name, Rule.avoids_token ?_ _, by simp⟩
  · simp only [List.forall_mem_cons]
    refine ⟨Rule.avoids_token name _, Rule.avoids_skip (avoids_many (by decide)),
      Rule.avoids_token (avoids_one (by decide)) _, by simp⟩
  · exact avoids_orElse (quoted _ (by decide)) (quoted _ (by decide))

theorem closing_avoids : Rule.Avoids '<' closing :=
  Rule.avoids_token
    (avoids_andThen (avoids_optional (avoids_one (by decide))) (avoids_one (by decide))) _

/-- Text between tags stays plain, whatever in it looks like a part of a tag. -/
theorem passes_text {text rest : List Char} (plain : '<' ∉ text)
    (ends : ∀ c ∈ rest.head?, c = '<') (before : Option Char) :
    Passes step false false before text rest [.plain text] := by
  refine Passes.of_idle (fun left within present before offset pieces next read => ?_) before
  obtain ⟨c, others, rfl⟩ := List.exists_cons_of_ne_nil present
  have different : c ≠ '<' := by
    rintro rfl
    exact plain (within.subset (by simp))
  rw [List.cons_append] at read
  obtain ⟨same, own, labelled, found⟩ := step_outside different read
  rw [← List.cons_append] at found
  refine ⟨same, Piece.total own, length_le_of_avoids ?_ ends, labelled⟩
  rcases found with found | found
  · exact inTag_avoids _ _ found
  · exact closing_avoids _ _ found

/-! ## Tags and comments -/

section Tags

variable {name rest : List Char}

theorem reads_bracket {slash : List Char} (isSlash : slash = [] ∨ slash = ['/'])
    (isName : IsTagName name) (rest : List Char) :
    (char '<' ++ optional (char '/')).Reads ('<' :: slash) (name ++ rest) := by
  have bracket : (char '<').Reads ['<'] (slash ++ (name ++ rest)) := reads_one rfl _
  refine reads_andThen bracket ?_
  rcases isSlash with rfl | rfl
  · obtain ⟨c, others, rfl, opened, -⟩ := isName
    refine reads_optional_of_misses (misses_one ?_)
    have different : c ≠ '/' := by
      rintro rfl
      contradiction
    simpa [Stops] using different
  · exact reads_optional (reads_one rfl _)

/-- Neither a comment nor a declaration starts at the bracket of a tag. -/
theorem everywhere_none_of_tag {c : Char} (notMark : c ≠ '!') (notQuestion : c ≠ '?')
    (before : Option Char) (offset : Nat) :
    everywhere ⟨before, offset, '<' :: c :: rest⟩ = none := by
  have commentMissing : (literal "<!--").Misses ('<' :: c :: rest) := by
    simp [Misses, literal, notMark.symm]
  have bracket : (char '<').Reads ['<'] (c :: rest) := reads_one rfl _
  have markMissing : (oneOf ['!', '?']).Misses (c :: rest) :=
    misses_one (by simp [Stops, notMark, notQuestion])
  have declarationMissing : declaration.Misses ('<' :: c :: rest) :=
    misses_andThen (misses_andThen (misses_andThen_of_reads bracket markMissing) _) _
  rw [everywhere, Rule.firstOf_cons_of_none (Rule.token_of_misses
      (misses_andThen commentMissing _) _),
    Rule.firstOf_cons_of_none (Rule.token_of_misses declarationMissing _)]
  rfl

/-- The bracket and the name of a tag lead into it. -/
theorem passes_opening {slash : List Char} (isSlash : slash = [] ∨ slash = ['/'])
    (isName : IsTagName name) (stops : Stops continuesName rest) (inside : Bool)
    (before : Option Char) : Passes step inside true before ('<' :: slash ++ name) rest
      [.labelled .bracket ('<' :: slash), .labelled .tag name] := by
  have notMarked : ∃ c others, slash ++ (name ++ rest) = c :: others ∧ c ≠ '!' ∧ c ≠ '?' := by
    obtain ⟨c, others, rfl, opened, -⟩ := isName
    have letters : c ≠ '!' ∧ c ≠ '?' := ⟨by rintro rfl; contradiction, by rintro rfl; contradiction⟩
    rcases isSlash with rfl | rfl
    · exact ⟨c, others ++ rest, rfl, letters⟩
    · exact ⟨'/', _, rfl, by decide, by decide⟩
  have named : tagName.Reads name rest := reads_name isName stops
  refine Passes.of_read (by simp [Segment.labelled]) (by simp) fun offset => ?_
  rw [List.append_assoc]
  refine step_of_opening ?_ ?_
  · obtain ⟨c, others, same, notMark, notQuestion⟩ := notMarked
    rw [List.cons_append, same]
    exact everywhere_none_of_tag notMark notQuestion _ _
  · rw [opening, Rule.sequence_cons_of_piece
        (Rule.token_of_reads (reads_bracket isSlash isName rest) _) rfl,
      Rule.sequence_cons_of_piece (Rule.token_of_reads named _) rfl]
    rfl

end Tags

/-! ## Inside of tags -/

section Inside

variable {before : Option Char} {offset : Nat} {c : Char} {rest : List Char}

theorem attributeName_opens : attributeName.OpensWith opensAttribute :=
  opensWith_andThen (opensWith_one opensAttribute) _

theorem value_opens (quote : Char) : (value quote).OpensWith (· == quote) :=
  opensWith_andThen (opensWith_andThen (opensWith_one _) _) _

theorem inTag_opens :
    Rule.OpensWith (fun c => opensAttribute c || ['"', '\''].contains c) inTag := by
  have names : attributeName.OpensWith fun c => opensAttribute c || ['"', '\''].contains c :=
    attributeName_opens.mono (by simp +contextual)
  have values : ∀ quote ∈ ['"', '\''],
      (value quote).OpensWith fun c => opensAttribute c || ['"', '\''].contains c :=
    fun quote member => (value_opens quote).mono (by simp +contextual [member])
  refine Rule.opensWith_firstOf ?_
  simp only [List.forall_mem_cons]
  exact ⟨Rule.opensWith_sequence (Rule.opensWith_token names _) _, Rule.opensWith_skip names,
    Rule.opensWith_token (opensWith_orElse (values _ (by simp)) (values _ (by simp))) _,
    List.forall_mem_nil _⟩

theorem closing_opens : Rule.OpensWith ['/', '>'].contains closing := by
  refine Rule.opensWith_token (opensWith_optional_andThen ?_ ?_) _
  · exact (opensWith_one (· == '/')).mono (by simp +contextual)
  · exact (opensWith_one (· == '>')).mono (by simp +contextual)

theorem passes_blanks {blanks : List Char} (blank : IsBlanks blanks) (before : Option Char)
    (rest : List Char) : Passes step true true before blanks rest [.plain blanks] := by
  refine Passes.of_nones (fun c member before offset rest => ?_) before rest
  have notName : opensAttribute c = false := excludes_blank (blank c member) (by decide +kernel)
  have noMark : ['<', '"', '\'', '/', '>'].contains c = false :=
    excludes_blank (blank c member) (by decide +kernel)
  simp only [List.contains_eq_mem, List.mem_cons, List.not_mem_nil, or_false, not_or,
    decide_eq_false_iff_not] at noMark
  obtain ⟨notOpening, notDouble, notSingle, notSlash, notBracket⟩ := noMark
  rw [step_inside notOpening, inTag_opens (by simp [Stops, notName, notDouble, notSingle]),
    closing_opens (by simp [Stops, notSlash, notBracket])]
  rfl

theorem passes_attributeName {name blanks : List Char} (isName : IsAttributeName name)
    (blank : IsBlanks blanks) :
    Passes step true true before (name ++ (blanks ++ ['='])) rest
      [.labelled .attribute name, .plain blanks, .labelled .punctuation ['=']] := by
  have equals : Stops isBlank ('=' :: rest) := by
    simpa [Stops] using (by decide : isBlank '=' = false)
  have nameReads : attributeName.Reads name (blanks ++ (['='] ++ rest)) :=
    reads_name isName (stops_of_blanks blank fun _ => stops_of_mark (by simp) rest)
  have blanksRead : (many isBlank).Reads blanks (['='] ++ rest) := reads_many blank equals
  have equalsRead : (char '=').Reads ['='] rest := reads_one rfl rest
  have different : ∃ c others, name = c :: others ∧ c ≠ '<' := by
    obtain ⟨c, others, rfl, opened, -⟩ := isName
    exact ⟨c, others, rfl, by rintro rfl; contradiction⟩
  obtain ⟨c, others, rfl, different⟩ := different
  refine Passes.of_read (by simp [Segment.labelled, Segment.plain]) (by simp) fun offset => ?_
  have read : inTag ⟨before, offset, (c :: others) ++ (blanks ++ (['='] ++ rest))⟩ =
      some [.labelled .attribute (c :: others).length, .plain blanks.length,
        .labelled .punctuation 1] := by
    refine Rule.firstOf_cons_of_some ?_
    rw [Rule.sequence_cons_of_piece (Rule.token_of_reads nameReads _) rfl,
      Rule.sequence_cons_of_piece (Rule.skip_of_reads blanksRead) rfl,
      Rule.sequence_cons_of_piece (Rule.token_of_reads equalsRead _) rfl]
    rfl
  rw [List.cons_append] at read
  rw [List.append_assoc, List.append_assoc, List.cons_append, step_inside different, read]
  rfl

theorem reads_value {quote : Char} {content : List Char} (noQuote : quote ∉ content)
    (noBracket : '<' ∉ content) (rest : List Char) :
    (value quote).Reads (quote :: (content ++ [quote])) rest := by
  have opened : (char quote).Reads [quote] (content ++ ([quote] ++ rest)) := reads_one (by simp) _
  have closed : (char quote).Reads [quote] rest := reads_one (by simp) _
  have members : ∀ c ∈ content, (c != quote && c != '<') = true := by
    intro c member
    have ownQuote : c ≠ quote := fun same => noQuote (same ▸ member)
    have ownBracket : c ≠ '<' := fun same => noBracket (same ▸ member)
    simp [ownQuote, ownBracket]
  have inner : (many fun c => c != quote && c != '<').Reads content ([quote] ++ rest) :=
    reads_many members (by simp [Stops])
  have front := reads_andThen opened inner
  exact reads_andThen front closed

theorem passes_value {quote : Char} {content : List Char} (isQuote : quote = '"' ∨ quote = '\'')
    (noQuote : quote ∉ content) (noBracket : '<' ∉ content) :
    Passes step true true before (quote :: (content ++ [quote])) rest
      [.labelled .string (quote :: (content ++ [quote]))] := by
  have valueReads : (value '"' <|> value '\'').Reads (quote :: (content ++ [quote])) rest := by
    have own := reads_value noQuote noBracket rest
    rcases isQuote with rfl | rfl
    · exact reads_orElse (.inl own)
    · exact reads_orElse (.inr ⟨value_opens _ (by simp [Stops]), own⟩)
  have notName : opensAttribute quote = false := by
    rcases isQuote with rfl | rfl <;> decide
  have different : quote ≠ '<' := by
    rcases isQuote with rfl | rfl <;> decide
  refine Passes.of_read (by simp [Segment.labelled]) (by simp) fun offset => ?_
  have read : inTag ⟨before, offset, (quote :: (content ++ [quote])) ++ rest⟩ =
      some [.labelled .string (quote :: (content ++ [quote])).length] := by
    have nameMissing : attributeName.Misses (quote :: (content ++ [quote] ++ rest)) :=
      attributeName_opens (by simpa [Stops])
    rw [inTag, Rule.firstOf_cons_of_none
        (Rule.sequence_cons_of_none (Rule.token_of_misses nameMissing _)),
      Rule.firstOf_cons_of_none (Rule.skip_of_misses nameMissing),
      Rule.firstOf_cons_of_some (Rule.token_of_reads valueReads _)]
  rw [List.cons_append] at read
  rw [List.cons_append, step_inside different, read]
  rfl

theorem passes_attribute {entry : Attribute} (wellFormed : entry.WellFormed)
    (before : Option Char) (rest : List Char) :
    Passes step true true before entry.written rest entry.segments := by
  have spelled : entry.written = entry.before ++ ((entry.name ++ (entry.afterName ++ ['='])) ++
      (entry.beforeValue ++ (entry.quote :: (entry.value ++ [entry.quote])))) := by
    simp [Attribute.written]
  rw [spelled]
  exact (passes_blanks wellFormed.before _ _).append
    ((passes_attributeName wellFormed.name wellFormed.afterName).append
      ((passes_blanks wellFormed.beforeValue _ _).append
        (passes_value wellFormed.quote wellFormed.value.1 wellFormed.value.2)))

theorem passes_attributes {attributes : List Attribute}
    (wellFormed : ∀ entry ∈ attributes, entry.WellFormed) (before : Option Char)
    (rest : List Char) :
    Passes step true true before (attributes.flatMap Attribute.written) rest
      (attributes.flatMap Attribute.segments) := by
  induction attributes generalizing before with
  | nil => exact .nil true before rest
  | cons entry attributes inductionHypothesis =>
    obtain ⟨own, others⟩ := List.forall_mem_cons.mp wellFormed
    exact (passes_attribute own _ _).append (inductionHypothesis others _)

theorem passes_closing {slash : List Char} (isSlash : slash = [] ∨ slash = ['/'])
    (before : Option Char) (rest : List Char) :
    Passes step true false before (slash ++ ['>']) rest [.labelled .bracket (slash ++ ['>'])] := by
  have reads : (optional (char '/') ++ char '>').Reads (slash ++ ['>']) rest := by
    have bracket : (char '>').Reads ['>'] rest := reads_one rfl rest
    refine reads_andThen ?_ bracket
    rcases isSlash with rfl | rfl
    · exact reads_optional_of_misses (misses_one (by simp [Stops]))
    · exact reads_optional (reads_one rfl _)
  have head : ∃ c others, slash ++ ['>'] = c :: others ∧ c ∈ ['/', '>'] := by
    rcases isSlash with rfl | rfl
    · exact ⟨'>', [], rfl, by simp⟩
    · exact ⟨'/', ['>'], rfl, by simp⟩
  obtain ⟨c, others, same, member⟩ := head
  rw [same] at reads ⊢
  have clear : ∀ d ∈ ['/', '>'], opensAttribute d = false ∧ d ≠ '<' ∧ d ≠ '"' ∧ d ≠ '\'' :=
    forall_mem_of_all (by decide)
  obtain ⟨notName, notOpening, notDouble, notSingle⟩ := clear c member
  refine Passes.of_read (by simp [Segment.labelled]) (by simp) fun offset => ?_
  have read : Rule.token .bracket (optional (char '/') ++ char '>')
      ⟨before, offset, (c :: others) ++ rest⟩ = some [.labelled .bracket (c :: others).length] :=
    Rule.token_of_reads reads _
  rw [List.cons_append] at read ⊢
  rw [step_inside notOpening, inTag_opens (by simp [Stops, notName, notDouble, notSingle]),
    closing, read]
  rfl

end Inside

/-! ## Lines -/

theorem passes_comment {body rest : List Char} (noFeed : '\n' ∉ body)
    (absent : ¬"-->".toList <:+: body) (before : Option Char) :
    Passes step false false before ("<!--".toList ++ (body ++ "-->".toList)) rest
      [.labelled .comment ("<!--".toList ++ (body ++ "-->".toList))] := by
  have closing : "-->".toList = ['-', '-'] ++ ['>'] := rfl
  have reads : (blockComment "<!--" "-->").Reads ("<!--".toList ++ (body ++ "-->".toList)) rest :=
    reads_blockComment closing (by simp) absent noFeed rest
  refine Passes.of_read (by simp [Segment.labelled]) (by simp) fun offset => ?_
  exact step_of_everywhere (Rule.firstOf_cons_of_some (Rule.token_of_reads reads _))

theorem stops_of_attributes {attributes : List Attribute} {rest : List Char}
    (wellFormed : ∀ entry ∈ attributes, entry.WellFormed) (stops : Stops continuesName rest) :
    Stops continuesName (attributes.flatMap Attribute.written ++ rest) := by
  cases attributes with
  | nil => exact stops
  | cons entry attributes =>
    have own := wellFormed entry (by simp)
    simp only [List.flatMap_cons, Attribute.written, List.append_assoc]
    exact stops_of_blanks own.before fun empty => absurd empty own.separated

/-- A tag or a comment starts and ends outside of tags. -/
theorem passes_item {item : Item} (wellFormed : item.WellFormed) (marked : item.isText = false)
    (before : Option Char) (rest : List Char) :
    Passes step false false before item.written rest item.segments := by
  cases item with
  | text content => contradiction
  | opening name attributes blanks selfCloses =>
    obtain ⟨isName, entries, blank⟩ := wellFormed
    obtain ⟨slash, isSlash, spelled⟩ : ∃ slash, (slash = [] ∨ slash = ['/']) ∧
        (if selfCloses then ['/', '>'] else ['>']) = slash ++ ['>'] := by
      cases selfCloses
      · exact ⟨[], .inl rfl, rfl⟩
      · exact ⟨['/'], .inr rfl, rfl⟩
    -- The name ends before an attribute, a blank or one of the closing marks.
    have stops : Stops continuesName
        (attributes.flatMap Attribute.written ++ (blanks ++ (slash ++ ['>'])) ++ rest) := by
      rw [List.append_assoc, List.append_assoc]
      refine stops_of_attributes entries (stops_of_blanks blank fun _ => ?_)
      rcases isSlash with rfl | rfl
      · exact stops_of_mark (by simp) _
      · exact stops_of_mark (by simp) _
    have opened := passes_opening (.inl rfl) isName stops false before
    have inner := (passes_attributes entries ((['<'] ++ name).getLast?.or before) _).append
      ((passes_blanks blank _ _).append (passes_closing isSlash _ rest))
    simpa [Item.written, Item.segments, spelled] using opened.append inner
  | closing name blanks =>
    obtain ⟨isName, blank⟩ := wellFormed
    have stops : Stops continuesName (blanks ++ ['>'] ++ rest) := by
      rw [List.append_assoc]
      exact stops_of_blanks blank fun _ => stops_of_mark (by simp) _
    have opened := passes_opening (.inr rfl) isName stops false before
    have inner := (passes_blanks blank ((['<', '/'] ++ name).getLast?.or before) _).append
      (passes_closing (.inl rfl) _ rest)
    simpa [Item.written, Item.segments] using opened.append inner
  | comment body => exact passes_comment wellFormed.1 wellFormed.2 before

/-- Texts next to one another pass as one text. -/
theorem passes_items {text : List Char} (plain : '<' ∉ text) {items : List Item}
    (wellFormed : ∀ item ∈ items, item.WellFormed) (before : Option Char) :
    Passes step false false before (text ++ written items) []
      (.plain text :: items.flatMap Item.segments) := by
  induction items generalizing text before with
  | nil => simpa [written] using passes_text plain (by simp) before
  | cons item items inductionHypothesis =>
    obtain ⟨own, others⟩ := List.forall_mem_cons.mp wellFormed
    cases marked : item.isText with
    | true =>
      obtain ⟨content, rfl⟩ : ∃ content, item = .text content := by
        cases item <;> simp_all [Item.isText]
      have joined : '<' ∉ text ++ content := by
        simpa [Item.WellFormed] using ⟨plain, own⟩
      have passes := inductionHypothesis joined others before
      rw [List.append_assoc] at passes
      exact passes.alike ((Segment.Alike.plain_append text content).append_right _)
    | false =>
      have opens : ∀ c ∈ (item.written ++ written items ++ []).head?, c = '<' := by
        cases item <;> simp_all [Item.isText, Item.written]
      have marks := passes_item own marked (text.getLast?.or before) (written items ++ [])
      have following := inductionHypothesis List.not_mem_nil others
        (item.written.getLast?.or (text.getLast?.or before))
      have later := following.alike (Segment.Alike.plain_nil.append_right _)
      exact (passes_text plain opens before).append (marks.append later)

/-- The first bracket of a line is that of its first tag or comment, when the text before it has
no bracket. -/
theorem startsInTag_written {items : List Item} (wellFormed : ∀ item ∈ items, item.WellFormed)
    (marked : ∃ item ∈ items, item.isText = false)
    (opens : ∀ item ∈ items.takeWhile Item.isText, '>' ∉ item.written) :
    startsInTag (written items) = false := by
  have found : (written items).find? (fun c => c == '<' || c == '>') = some '<' := by
    induction items with
    | nil => simp at marked
    | cons item items inductionHypothesis =>
      obtain ⟨own, others⟩ := List.forall_mem_cons.mp wellFormed
      rw [written, List.flatMap_cons, List.find?_append]
      cases item with
      | text content =>
        rw [List.takeWhile_cons_of_pos rfl, List.forall_mem_cons] at opens
        have nothing : content.find? (fun c => c == '<' || c == '>') = none := by
          rw [List.find?_eq_none]
          intro c member isBracket
          rcases Bool.or_eq_true_iff.mp isBracket with isOpening | isClosing
          · exact own (eq_of_beq isOpening ▸ member)
          · exact opens.1 (eq_of_beq isClosing ▸ member)
        have later : ∃ item ∈ items, item.isText = false := by
          simpa [Item.isText] using marked
        rw [Item.written, nothing, Option.none_or]
        exact inductionHypothesis others later opens.2
      | opening | closing | comment => rfl
  rw [startsInTag, found]
  rfl

/-- One grammar reads all languages of markup. -/
theorem spans_of_markup {language : Language} (markup : language ∈ [.xml, .html, .svg]) :
    language.spans = spans := by
  simp only [List.mem_cons, List.not_mem_nil, or_false] at markup
  rcases markup with rfl | rfl | rfl <;> rfl

end Grammar.Markup

open Grammar.Markup in
/-- A line of markup that is written as text, tags and comments has the tokens that it was written
from: the marks, names, values and comments, and between them plain text. -/
theorem tokenize_markup_written {language : Language} (markup : language ∈ [.xml, .html, .svg])
    {items : List Item} (wellFormed : ∀ item ∈ items, item.WellFormed)
    (marked : ∃ item ∈ items, item.isText = false)
    (opens : ∀ item ∈ items.takeWhile Item.isText, '>' ∉ item.written) :
    tokenize language (String.ofList (written items)) =
      Segment.tokens (items.flatMap Item.segments) := by
  have outside := startsInTag_written wellFormed marked opens
  have passes := (passes_items List.not_mem_nil wellFormed none).alike
    (Segment.Alike.plain_nil.append_right _)
  rw [tokenize, String.toList_ofList, spans_of_markup markup, Grammar.Markup.spans, outside]
  exact passes.tokens_eq

open Grammar.Markup in
/-- A bracket and an attribute in the text of a paragraph are not those of a tag. -/
theorem tokenize_paragraph :
    tokenize .html "<p id= \"1>0\">a='b' > c</p><!-- <d> -->" =
      [⟨.bracket, "<"⟩, ⟨.tag, "p"⟩, ⟨.text, " "⟩, ⟨.attribute, "id"⟩, ⟨.punctuation, "="⟩,
        ⟨.text, " "⟩, ⟨.string, "\"1>0\""⟩, ⟨.bracket, ">"⟩, ⟨.text, "a='b' > c"⟩,
        ⟨.bracket, "</"⟩, ⟨.tag, "p"⟩, ⟨.bracket, ">"⟩, ⟨.comment, "<!-- <d> -->"⟩] := by
  have name : IsTagName ['p'] := ⟨'p', [], rfl, rfl, by simp⟩
  let entry : Attribute := ⟨[' '], ['i', 'd'], [], [' '], '\"', ['1', '>', '0']⟩
  have entryWellFormed : entry.WellFormed :=
    { separated := List.cons_ne_nil _ _
      before := List.forall_mem_singleton.mpr rfl
      name := Text.isName_of_all rfl rfl
      afterName := List.forall_mem_nil _
      beforeValue := List.forall_mem_singleton.mpr rfl
      quote := .inl rfl
      value := by decide }
  let items : List Item := [.opening ['p'] [entry] [] false, .text "a='b' > c".toList,
    .closing ['p'] [], .comment " <d> ".toList]
  have wellFormed : ∀ item ∈ items, item.WellFormed := by
    have text : '<' ∉ "a='b' > c".toList := by decide
    have body : '\n' ∉ " <d> ".toList ∧ ¬"-->".toList <:+: " <d> ".toList := by decide
    simp only [items, List.forall_mem_cons]
    exact ⟨⟨name, List.forall_mem_singleton.mpr entryWellFormed, List.forall_mem_nil _⟩,
      text, ⟨name, List.forall_mem_nil _⟩, body, List.forall_mem_nil _⟩
  have line : "<p id= \"1>0\">a='b' > c</p><!-- <d> -->" = String.ofList (written items) := by
    decide
  rw [line, tokenize_markup_written (by decide) wellFormed ⟨_, List.mem_cons_self, rfl⟩
    (List.forall_mem_nil _)]
  decide

end Highlight
