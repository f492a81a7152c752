import Highlight.Proofs.Delimited
import Highlight.Proofs.Labels
import Highlight.Proofs.Offsets.Yaml
import Highlight.Proofs.Spelling

/-!
Number signs in the values of YAML. The scan for a comment takes a quote that comes first or after
a blank for an opening one, and the next one of its kind for the closing one, even where that is
escaped or doubled. A value that this scan follows has no comment inside of its quoted scalars.
-/

set_option autoImplicit false

namespace Highlight

open Text

namespace Grammar.Yaml

open Text.Lexeme

/-! ## Values -/

/-- A scalar in quotes. -/
def IsQuoted (text : List Char) : Prop :=
  Enquoted '\"' (EscapedBody '\"') text ∨ Enquoted '\'' (DoubledBody '\'') text

/-- Values are made of plain text and of scalars in quotes. -/
inductive Part where
  | plain (text : List Char)
  | quoted (quote : Char) (body : List Char)

def Part.written : Part → List Char
  | plain text => text
  | quoted quote body => quote :: (body ++ [quote])

def written (parts : List Part) : List Char :=
  parts.flatMap Part.written

def Part.WellFormed : Part → Prop
  | plain _ => True
  | quoted quote body => IsQuoted (quote :: (body ++ [quote]))

/-- Is the last character of a text a blank, or the one before it where it is empty? -/
def blankAfter : Bool → List Char → Bool
  | afterBlank, [] => afterBlank
  | _, c :: rest => blankAfter (isBlank c) rest

/-- Does one of some marks come right after a blank? -/
def marksBlank (marks : List Char) : Bool → List Char → Bool
  | _, [] => false
  | afterBlank, c :: rest =>
    afterBlank && marks.contains c || marksBlank marks (isBlank c) rest

/-- Does no mark come right after a blank behind the first quote of a kind? -/
def QuietBehind (marks : List Char) (quote : Char) (text : List Char) : Prop :=
  ∃ front back, text = front ++ quote :: back ∧ quote ∉ front ∧ marksBlank marks false back = false

/-- Does the scan for comments know at the end of a part that it is not in quotes? -/
def Part.Followed (afterBlank : Bool) : Part → Prop
  | plain text => marksBlank ['\"', '\''] afterBlank text = false
  | quoted quote body =>
    if afterBlank then QuietBehind ['#', '\"', '\''] quote (body ++ [quote])
    else marksBlank ['#', '\"', '\''] false (quote :: (body ++ [quote])) = false

def FollowedFrom : Bool → List Part → Prop
  | _, [] => True
  | afterBlank, part :: parts =>
    part.Followed afterBlank ∧ FollowedFrom (blankAfter afterBlank part.written) parts

/-! ## The scan for comments -/

section Comments

variable {afterBlank : Bool} {quote : Char} {text rest : List Char}

/-- Quotes and number signs that come after no blank change nothing. -/
theorem beforeComment_of_quiet (quiet : marksBlank ['#', '\"', '\''] afterBlank text = false)
    (rest : List Char) :
    beforeComment none afterBlank (text ++ rest) =
      text ++ beforeComment none (blankAfter afterBlank text) rest := by
  induction text generalizing afterBlank with
  | nil => rfl
  | cons c text inductionHypothesis =>
    simp only [marksBlank, Bool.or_eq_false_iff] at quiet
    obtain ⟨own, others⟩ := quiet
    have unsigned : (afterBlank && c == '#') = false := by
      cases afterBlank <;> simp_all
    have unquoted : (afterBlank && (c == '\"' || c == '\'')) = false := by
      cases afterBlank <;> simp_all
    rw [List.cons_append, beforeComment, unsigned, unquoted]
    simp [inductionHypothesis others, blankAfter]

/-- In plain text a comment may start, but no quoted scalar. -/
theorem beforeComment_of_plain (plain : marksBlank ['\"', '\''] afterBlank text = false)
    (rest : List Char) :
    beforeComment none afterBlank (text ++ rest) =
        text ++ beforeComment none (blankAfter afterBlank text) rest ∨
      ∃ front back, text = front ++ back ∧ back ≠ [] ∧
        beforeComment none afterBlank (text ++ rest) = front := by
  induction text generalizing afterBlank with
  | nil => exact .inl rfl
  | cons c text inductionHypothesis =>
    simp only [marksBlank, Bool.or_eq_false_iff] at plain
    obtain ⟨own, others⟩ := plain
    have unquoted : (afterBlank && (c == '\"' || c == '\'')) = false := by
      cases afterBlank <;> simp_all
    cases sign : afterBlank && c == '#' with
    | true => exact .inr ⟨[], c :: text, rfl, by simp, by simp [beforeComment, sign]⟩
    | false =>
      rw [List.cons_append, beforeComment, sign, unquoted]
      simp only [Bool.false_eq_true, ↓reduceIte, List.cons_append, List.cons.injEq, true_and,
        blankAfter]
      obtain passed | ⟨front, back, rfl, present, cut⟩ := inductionHypothesis others
      · exact .inl passed
      · exact .inr ⟨c :: front, back, rfl, present, by rw [cut]⟩

/-- In quotes nothing counts but the next quote of the kind. -/
theorem beforeComment_of_quote (absent : quote ∉ text) (afterBlank : Bool) (rest : List Char) :
    beforeComment (some quote) afterBlank (text ++ quote :: rest) =
      text ++ quote :: beforeComment none (isBlank quote) rest := by
  induction text generalizing afterBlank with
  | nil => simp [beforeComment]
  | cons c text inductionHypothesis =>
    rw [List.mem_cons, not_or] at absent
    have different : (c == quote) = false := by simpa using Ne.symm absent.1
    simp [beforeComment, different, inductionHypothesis absent.2]

/-- No comment starts where no number sign comes after a blank. -/
theorem beforeComment_of_unsigned (unsigned : marksBlank ['#'] afterBlank text = false)
    (quote? : Option Char) : beforeComment quote? afterBlank text = text := by
  induction text generalizing afterBlank quote? with
  | nil => cases quote? <;> rfl
  | cons c text inductionHypothesis =>
    simp only [marksBlank, Bool.or_eq_false_iff] at unsigned
    obtain ⟨own, others⟩ := unsigned
    cases quote? with
    | some quote => simp [beforeComment, inductionHypothesis others]
    | none =>
      have sign : (afterBlank && c == '#') = false := by simpa using own
      rw [beforeComment, sign]
      simp [inductionHypothesis others]

theorem isBlank_of_quote (isQuote : quote ∈ ['\"', '\'']) :
    isBlank quote = false ∧ isIndent quote = false := by
  have quotes : ∀ c ∈ ['\"', '\''], isBlank c = false ∧ isIndent c = false :=
    forall_mem_of_all (by decide)
  exact quotes quote isQuote

theorem blankAfter_append (afterBlank : Bool) (text rest : List Char) :
    blankAfter afterBlank (text ++ rest) = blankAfter (blankAfter afterBlank text) rest := by
  induction text generalizing afterBlank with
  | nil => rfl
  | cons c text inductionHypothesis => exact inductionHypothesis (isBlank c)

/-- A quote that comes after a blank opens a text in quotes. -/
theorem beforeComment_of_opening (isQuote : quote ∈ ['\"', '\'']) (rest : List Char) :
    beforeComment none true (quote :: rest) = quote :: beforeComment (some quote) false rest := by
  have blank := (isBlank_of_quote isQuote).1
  simp only [List.mem_cons, List.not_mem_nil, or_false] at isQuote
  rcases isQuote with rfl | rfl <;> simp [beforeComment, blank]

theorem beforeComment_of_quoted {body : List Char} (isQuote : quote ∈ ['\"', '\''])
    (followed : (Part.quoted quote body).Followed afterBlank) (rest : List Char) :
    beforeComment none afterBlank (quote :: (body ++ [quote]) ++ rest) =
      quote :: (body ++ [quote]) ++
        beforeComment none (blankAfter afterBlank (quote :: (body ++ [quote]))) rest := by
  cases afterBlank with
  | false => exact beforeComment_of_quiet followed rest
  | true =>
    have blank := (isBlank_of_quote isQuote).1
    obtain ⟨front, back, split, absent, quiet⟩ := followed
    have ended : blankAfter true (quote :: (front ++ quote :: back)) = blankAfter false back := by
      rw [blankAfter, blankAfter_append, blankAfter, blank]
    rw [split, ended, List.cons_append, beforeComment_of_opening isQuote, List.append_assoc,
      List.cons_append, beforeComment_of_quote absent, blank, beforeComment_of_quiet quiet]
    simp

/-- A value that the scan follows has its comment, if there is one, behind the start of some plain
text and outside of quotes. -/
theorem beforeComment_of_followed {parts : List Part}
    (isQuote : ∀ quote body, .quoted quote body ∈ parts → quote ∈ ['\"', '\''])
    (followed : FollowedFrom afterBlank parts) :
    beforeComment none afterBlank (written parts) = written parts ∨
      ∃ before front back after, parts = before ++ .plain (front ++ back) :: after ∧ back ≠ [] ∧
        beforeComment none afterBlank (written parts) = written before ++ front := by
  induction parts generalizing afterBlank with
  | nil => exact .inl rfl
  | cons part parts inductionHypothesis =>
    obtain ⟨own, others⟩ := followed
    -- A plain part passes or holds the start of the comment, and a quoted part passes.
    have first : beforeComment none afterBlank (part.written ++ written parts) =
          part.written ++ beforeComment none (blankAfter afterBlank part.written) (written parts) ∨
        ∃ front back, part = .plain (front ++ back) ∧ back ≠ [] ∧
          beforeComment none afterBlank (part.written ++ written parts) = front := by
      cases part with
      | plain text =>
        refine (beforeComment_of_plain own (written parts)).imp_right ?_
        rintro ⟨front, back, rfl, present, cut⟩
        exact ⟨front, back, rfl, present, cut⟩
      | quoted quote body =>
        exact .inl (beforeComment_of_quoted (isQuote quote body List.mem_cons_self) own _)
    have later := inductionHypothesis
      (fun quote body member => isQuote quote body (List.mem_cons_of_mem part member)) others
    rw [written, List.flatMap_cons, ← written]
    obtain passed | ⟨front, back, rfl, present, cut⟩ := first
    · rw [passed]
      refine later.imp (fun whole => by rw [whole]) ?_
      rintro ⟨before, front, back, after, rfl, present, cut⟩
      exact ⟨part :: before, front, back, after, rfl, present, by
        rw [cut]
        simp [written]⟩
    · exact .inr ⟨[], front, back, parts, rfl, present, cut⟩

/-- A scalar has no comment inside when no number sign comes after a blank behind the first quote
that it holds. -/
theorem beforeComment_of_scalar {body : List Char} (isQuote : quote ∈ ['\"', '\''])
    (quiet : QuietBehind ['#'] quote (body ++ [quote])) :
    beforeComment none true (quote :: (body ++ [quote])) = quote :: (body ++ [quote]) := by
  obtain ⟨front, back, split, absent, unsigned⟩ := quiet
  rw [split, beforeComment_of_opening isQuote, beforeComment_of_quote absent,
    (isBlank_of_quote isQuote).1, beforeComment_of_unsigned unsigned]

end Comments

/-! ## Keys -/

/-- A key: a name without colons and number signs that ends with no blank, or text in quotes. -/
inductive IsKey : List Char → Prop
  | plain {c : Char} {rest : List Char} : isBlank c = false → c ∉ keyless →
      (∀ d ∈ rest, d ≠ ':' ∧ d ≠ '#') → (∀ d ∈ rest.getLast?, isIndent d = false) →
      IsKey (c :: rest)
  | double {text : List Char} : Enquoted '\"' (EscapedBody '\"') text → IsKey text
  | single {body : List Char} : '\'' ∉ body → IsKey ('\'' :: (body ++ ['\'']))

section Keys

variable {text rest : List Char}

theorem IsKey.head (isKey : IsKey text) :
    ∃ c others, text = c :: others ∧ isBlank c = false ∧ c ≠ '#' ∧ c ≠ '-' := by
  cases isKey with
  | plain present unlisted =>
    refine ⟨_, _, rfl, present, ?_, ?_⟩ <;>
      exact fun same => unlisted (same ▸ by decide)
  | double enquoted =>
    obtain ⟨body, rfl, -⟩ := enquoted
    exact ⟨_, _, rfl, by decide, by decide, by decide⟩
  | single => exact ⟨_, _, rfl, by decide, by decide, by decide⟩

theorem dropWhile_reverse_of_last {text : List Char}
    (last : ∀ d ∈ text.getLast?, isIndent d = false) :
    text.reverse.dropWhile isIndent = text.reverse := by
  rw [← List.head?_reverse] at last
  cases reversed : text.reverse with
  | nil => rfl
  | cons d others => simp [last d (by rw [reversed]; rfl)]

theorem reads_plainKey {c : Char} (present : isBlank c = false) (unlisted : c ∉ keyless)
    (clear : ∀ d ∈ text, d ≠ ':' ∧ d ≠ '#') (last : ∀ d ∈ text.getLast?, isIndent d = false)
    (rest : List Char) : plainKey.Reads (c :: text) (':' :: rest) := by
  have member : (!isBlank c && isNoneOf keyless c) = true := by
    simpa [isNoneOf, present] using unlisted
  have opening : (one fun c => !isBlank c && isNoneOf keyless c).Reads [c]
      (text ++ ':' :: rest) := reads_one member _
  refine reads_andThen opening ?_
  have body : (text ++ ':' :: rest).takeWhile (fun c => c != ':' && c != '#') = text := by
    rw [List.takeWhile_append_of_pos (by simpa using clear)]
    simp
  simp [Reads, body, dropWhile_reverse_of_last last]

/-- A key between single quotes ends at the next one, whatever comes behind it. -/
theorem reads_singleKey {body : List Char} (absent : '\'' ∉ body) (rest : List Char) :
    key.Reads ('\'' :: (body ++ ['\''])) rest := by
  have doubleMissing : (escapedQuote '\"').Misses ('\'' :: (body ++ ['\'']) ++ rest) :=
    misses_andThen (misses_one (by simp [Stops])) _
  have opening : (char '\'').Reads ['\''] (body ++ ['\''] ++ rest) := reads_one rfl _
  have inner : (many fun c => !(c == '\'')).Reads body (['\''] ++ rest) :=
    reads_many (fun c member => by simpa using ne_of_mem_of_not_mem member absent)
      (by simp [Stops])
  have closing : (char '\'').Reads ['\''] rest := reads_one rfl _
  exact reads_orElse (.inr ⟨doubleMissing, reads_orElse (.inl
    (reads_andThen opening (reads_andThen inner closing)))⟩)

theorem reads_key (isKey : IsKey text) (rest : List Char) : key.Reads text (':' :: rest) := by
  cases isKey with
  | @plain c name present unlisted clear last =>
    have quotes : ∀ quote ∈ ['\"', '\''], quote ∈ keyless := forall_mem_of_all (by decide)
    have apart : ∀ quote ∈ ['\"', '\''], c ≠ quote := by
      rintro quote member rfl
      exact unlisted (quotes c member)
    have doubleMissing : (escapedQuote '\"').Misses (c :: name ++ ':' :: rest) :=
      misses_andThen (misses_one (by simpa [Stops] using apart '\"' (by simp))) _
    have singleMissing : (char '\'' ++ through (· == '\'')).Misses (c :: name ++ ':' :: rest) :=
      misses_andThen (misses_one (by simpa [Stops] using apart '\'' (by simp))) _
    exact reads_orElse (.inr ⟨doubleMissing, reads_orElse (.inr ⟨singleMissing,
      reads_plainKey present unlisted clear last rest⟩)⟩)
  | double enquoted => exact reads_orElse (.inl (reads_escapedQuote (by decide) enquoted _))
  | single absent => exact reads_singleKey absent _

def keyPieces (text : List Char) : List Piece :=
  [.labelled .key text.length, .plain 0, .labelled .punctuation 1, .plain 1]

def keyRule : Rule :=
  .sequence [.token .key key, .skip (.many isIndent), .token .punctuation (.char ':'), gap]

theorem keyRule_of_key (isKey : IsKey text) (opens : Stops isIndent rest)
    (before : Option Char) (offset : Nat) :
    keyRule ⟨before, offset, text ++ (':' :: ' ' :: rest)⟩ = some (keyPieces text) := by
  have keyRead : key.Reads text ([] ++ ([':'] ++ ([' '] ++ rest))) := reads_key isKey _
  have noIndent : (many isIndent).Reads [] ([':'] ++ ([' '] ++ rest)) :=
    reads_many (by simp) (by simpa [Stops] using (by decide : isIndent ':' = false))
  have colon : (char ':').Reads [':'] ([' '] ++ rest) := reads_one rfl _
  have blank : (run isIndent <|> atEnd).Reads [' '] rest :=
    reads_orElse (.inl (reads_run (by simp) (forall_mem_of_all rfl) opens))
  change Rule.sequence _ ⟨before, offset, text ++ ([] ++ ([':'] ++ ([' '] ++ rest)))⟩ = _
  rw [Rule.sequence_cons_of_piece (Rule.token_of_reads keyRead _) rfl,
    Rule.sequence_cons_of_piece (Rule.skip_of_reads noIndent) rfl,
    Rule.sequence_cons_of_piece (Rule.token_of_reads colon _) rfl, gap,
    Rule.sequence_cons_of_piece (Rule.skip_of_reads blank) rfl]
  rfl

/-- A line that opens with neither indentation nor a dash has its key first, if it has one. -/
theorem head_of_opening {c : Char} (noIndent : isIndent c = false) (noDash : c ≠ '-')
    (others : List Char) :
    head (.start (c :: others)) =
      some (.plain 0 :: (keyRule (.start (c :: others))).getD []) := by
  have indentRead : (many isIndent).Reads [] (c :: others) :=
    reads_many (by simp) (by simpa [Stops] using noIndent)
  have skipped : Rule.skip (.many isIndent) (.start (c :: others)) = some [.plain 0] :=
    Rule.skip_of_reads indentRead
  have dashMissing : Rule.sequence [.token .punctuation (.char '-'), gap]
      (.start (c :: others)) = none :=
    Rule.sequence_cons_of_none (Rule.token_of_misses
      (misses_one (by simpa [Stops, Place.start] using noDash)) _)
  have keyed : Rule.sequence [.optional keyRule] (.start (c :: others)) =
      some ((keyRule (.start (c :: others))).getD []) := by
    have own : Rule.optional keyRule (.start (c :: others)) = some _ := rfl
    rw [Rule.sequence_cons_of_some own]
    simp [Rule.sequence]
  have later : Rule.sequence [.optional (.sequence [.token .punctuation (.char '-'), gap]),
      .optional keyRule] (.start (c :: others)) =
        some ((keyRule (.start (c :: others))).getD []) := by
    rw [Rule.sequence_cons_of_some (Rule.optional_of_none dashMissing)]
    simp [Piece.total, Place.forward, keyed]
  have still : (Place.start (c :: others)).forward (Piece.total [.plain 0]) =
      .start (c :: others) := by
    simp [Piece.total, Piece.plain, Place.forward]
  rw [keyRule] at later
  rw [head, Rule.sequence_cons_of_some skipped, still, later]
  rfl

theorem head_of_key (isKey : IsKey text) (opens : Stops isIndent rest) :
    head (.start (text ++ (':' :: ' ' :: rest))) = some (.plain 0 :: keyPieces text) := by
  have keyed := keyRule_of_key isKey opens none 0
  obtain ⟨c, others, rfl, present, -, noDash⟩ := isKey.head
  have noIndent : isIndent c = false := by
    rw [isIndent, Bool.or_eq_false_iff, beq_eq_false_iff_ne, beq_eq_false_iff_ne]
    constructor <;> (rintro rfl; contradiction)
  rw [List.cons_append] at keyed ⊢
  rw [head_of_opening noIndent noDash, Place.start, keyed]
  rfl

end Keys

/-! ## Lines -/

/-- Is a line read for a value, as it is neither a comment nor a mark of a document? -/
def IsEntry (line : List Char) : Prop :=
  (trim line).head? ≠ some '#' ∧ ¬(trim line = "---".toList ∨ trim line = "...".toList)

def headPieces (line : List Char) : List Piece :=
  (head (.start line)).getD []

def headSegments (line : List Char) : List Segment :=
  Piece.segments line (headPieces line)

def contentPlace (line : List Char) : Place :=
  (Place.start line).forward (Piece.total (headPieces line))

theorem characters_headSegments (line : List Char) :
    line = Segment.characters (headSegments line) ++ (contentPlace line).rest := by
  rw [headSegments, Piece.characters_segments, contentPlace, Place.rest_forward]
  exact (List.take_append_drop _ _).symm

theorem offset_contentPlace (line : List Char) :
    (contentPlace line).offset = byteSize (Segment.characters (headSegments line)) := by
  rw [headSegments, Piece.characters_segments, contentPlace, Place.offset_forward]
  exact Nat.zero_add _

theorem spans_of_entry {line : List Char} (isEntry : IsEntry line) :
    spans line = Segment.spansFrom 0 (headSegments line) ++
      contentSpans (contentPlace line).offset (contentPlace line).rest := by
  have pieces := Piece.spansFrom_eq (.start line) (headPieces line)
  simp only [spans, isEntry.1, isEntry.2, ↓reduceIte]
  exact congrArg (· ++ _) pieces

section Lines

variable {name value : List Char}

def keyLine (name value : List Char) : List Char :=
  name ++ (':' :: ' ' :: value)

theorem isEntry_keyLine (isKey : IsKey name) (value : List Char) :
    IsEntry (keyLine name value) := by
  obtain ⟨c, others, rfl, present, noSign, noDash⟩ := isKey.head
  have stops : ∀ d ∈ (keyLine (c :: others) value).head?, isBlank d = false := by
    simpa [keyLine] using present
  have started := trimStart_of_stops stops
  have first : (trim (keyLine (c :: others) value)).head? = some c := by
    rw [trim, started, head?_trimEnd stops]
    rfl
  have colon : ':' ∈ trim (keyLine (c :: others) value) := by
    rw [trim, started]
    exact mem_trimEnd (by simp [keyLine]) (by decide)
  refine ⟨by simpa [first] using noSign, ?_⟩
  rintro (dashes | dots)
  · rw [dashes] at first
    exact noDash (Option.some.inj first).symm
  · rw [dots] at colon
    contradiction

/-- The head of a line with a key ends where its value starts. -/
theorem head_of_keyLine (isKey : IsKey name) (opens : Stops isIndent value) :
    headSegments (keyLine name value) =
        [.plain [], .labelled .key name, .plain [], .labelled .punctuation [':'], .plain [' ']] ∧
      (contentPlace (keyLine name value)).rest = value := by
  have pieces : headPieces (keyLine name value) = .plain 0 :: keyPieces name :=
    congrArg (Option.getD · []) (head_of_key isKey opens)
  constructor
  · rw [headSegments, pieces]
    simp [Piece.segments, keyPieces, Piece.plain, Piece.labelled, Segment.plain,
      Segment.labelled, keyLine]
  · have total : Piece.total (.plain 0 :: keyPieces name) = (name ++ [':', ' ']).length := by
      simp [Piece.total, keyPieces, Piece.plain, Piece.labelled]
    have split : keyLine name value = (name ++ [':', ' ']) ++ value := by simp [keyLine]
    rw [contentPlace, pieces, total, Place.rest_forward, Place.start, split, List.drop_left]

theorem spans_keyLine (isKey : IsKey name) (opens : Stops isIndent value) :
    spans (keyLine name value) =
      Segment.spansFrom 0 [.labelled .key name, .labelled .punctuation [':'], .plain [' ']] ++
        contentSpans (byteSize (name ++ [':', ' '])) value := by
  obtain ⟨segments, content⟩ := head_of_keyLine isKey opens
  rw [spans_of_entry (isEntry_keyLine isKey value), offset_contentPlace, segments, content]
  simp [Segment.spansFrom, Segment.plain, Segment.labelled]

/-- A comment in a line with a key is the one behind the value. -/
theorem mem_spans_keyLine (isKey : IsKey name) (opens : Stops isIndent value) {span : Span}
    (listed : span ∈ spans (keyLine name value)) (isComment : span.kind = .comment) :
    (beforeComment none true value).length < value.length ∧
      span.start = byteSize (name ++ [':', ' '] ++ beforeComment none true value) ∧
      span.stop = byteSize (keyLine name value) := by
  rw [spans_keyLine isKey opens, List.mem_append, contentSpans, List.mem_append] at listed
  obtain inKey | inValue | isLast := listed
  · have kinds : Segment.Within (· ≠ .comment)
        [.labelled .key name, .labelled .punctuation [':'], .plain [' ']] := by
      simp [Segment.Within, Segment.labelled, Segment.plain]
    exact absurd isComment (Segment.spansFrom_within kinds 0 span inKey)
  · have kinds : ∀ kind ∈ valueKinds, kind ≠ .comment := by decide
    exact absurd isComment (kinds span.kind (valueSpans_kinds _ _ span inValue))
  · split at isLast
    · next shorter =>
      obtain rfl := List.mem_singleton.mp isLast
      exact ⟨shorter, by simp [Nat.add_assoc], by simp [keyLine, Nat.add_assoc]⟩
    · contradiction

/-- The comment of a line with a key is what follows the value before it. -/
theorem text_of_comment (isKey : IsKey name) (opens : Stops isIndent value) {token : Token}
    (member : token ∈ tokenize .yaml (String.ofList (keyLine name value)))
    (isComment : token.kind = .comment) :
    (beforeComment none true value).length < value.length ∧
      value = beforeComment none true value ++ token.text.toList := by
  rw [tokenize, String.toList_ofList] at member
  obtain isText | ⟨span, listed, cuts⟩ := cuts_of_mem_coverLine member
  · rw [isText] at isComment
    contradiction
  obtain ⟨shorter, starts, stops⟩ :=
    mem_spans_keyLine isKey opens listed (cuts.kind.trans isComment)
  obtain ⟨before, after, split, atStart, atStop⟩ := cuts.place
  obtain ⟨comment, whole⟩ := beforeComment_isPrefix none true value
  have spelled : keyLine name value =
      name ++ [':', ' '] ++ beforeComment none true value ++ comment := by
    rw [List.append_assoc, whole]
    simp [keyLine]
  -- Both ways to cut the line start the comment at the same byte.
  have here := splitAtByte?_append before (token.text.toList ++ after)
  have there := splitAtByte?_append (name ++ [':', ' '] ++ beforeComment none true value) comment
  rw [← split, atStart, starts, spelled, there, Option.some.injEq, Prod.mk.injEq] at here
  have nothing : after = [] := by
    rw [stops, Nat.min_self, ← atStart] at atStop
    have size := congrArg byteSize split
    rw [byteSize_append, byteSize_append] at size
    rw [← byteSize_eq_zero_iff]
    omega
  rw [nothing, List.append_nil] at here
  exact ⟨shorter, by rw [← here.2, whole]⟩

end Lines

/-! ## Quoted scalars -/

section Scalars

variable {quote : Char} {body : List Char}

theorem IsQuoted.isQuote (isQuoted : IsQuoted (quote :: (body ++ [quote]))) :
    quote ∈ ['\"', '\''] := by
  obtain ⟨inner, same, -⟩ | ⟨inner, same, -⟩ := isQuoted
  · simp [(List.cons.inj same).1]
  · simp [(List.cons.inj same).1]

theorem reads_quoted {text rest : List Char} (isQuoted : IsQuoted text)
    (ends : rest.head? ≠ some '\'') : quoted.Reads text rest := by
  obtain double | single := isQuoted
  · exact reads_orElse (.inl (reads_escapedQuote (by decide) double rest))
  · obtain ⟨inner, rfl, -⟩ := id single
    exact reads_orElse (.inr ⟨misses_andThen (misses_one (by simp [Stops])) _,
      reads_doubledQuote single ends⟩)

/-- The characters that open quoted scalars and node properties. -/
def openingMarks : List Char :=
  ['\"', '\'', '&', '*', '!']

theorem scalarKind?_of_mark {mark : Char} (isMark : mark ∈ openingMarks) (rest : List Char) :
    scalarKind? (mark :: rest) = none := by
  have heads : ∀ word ∈ booleans ++ nulls,
      (word.toList.head?.any fun c => openingMarks.contains c) = false := by
    decide
  have listed : openingMarks.contains mark := by simpa using isMark
  have fixed : mark.toLower = mark ∧ isNumber (mark :: rest) = false := by
    simp only [openingMarks, List.mem_cons, List.not_mem_nil, or_false] at isMark
    rcases isMark with rfl | rfl | rfl | rfl | rfl <;> exact ⟨rfl, rfl⟩
  have noBoolean : asciiLower (String.ofList (mark :: rest)) ∉ booleans := by
    intro found
    have head := heads _ (List.mem_append_left nulls found)
    rw [asciiLower, String.toList_map, String.toList_ofList, List.map_cons, fixed.1,
      List.head?_cons, Option.any_some, listed] at head
    contradiction
  have noNull : String.ofList (mark :: rest) ∉ nulls := by
    intro found
    have head := heads _ (List.mem_append_right booleans found)
    rw [String.toList_ofList, List.head?_cons, Option.any_some, listed] at head
    contradiction
  simp only [scalarKind?, List.contains_eq_mem, noBoolean, noNull, fixed, decide_false,
    Bool.false_eq_true, ↓reduceIte]

theorem wholeKind?_of_quoted (isQuoted : IsQuoted (quote :: (body ++ [quote]))) :
    wholeKind? (quote :: (body ++ [quote])) = some .string := by
  have read : quoted.Reads (quote :: (body ++ [quote])) [] := reads_quoted isQuoted (by simp)
  rw [Reads, List.append_nil] at read
  have whole : quoted.spans (quote :: (body ++ [quote])) := by
    simp [Lexeme.spans, read]
  have isMark : quote ∈ openingMarks := List.mem_append_left ['&', '*', '!'] isQuoted.isQuote
  rw [wholeKind?, scalarKind?_of_mark isMark, if_pos whole]
  rfl

/-- A value without outer blanks and without a comment that has one kind has one span. -/
theorem contentSpans_of_whole {value : List Char} {kind : TokenKind} (present : value ≠ [])
    (whole : beforeComment none true value = value)
    (opens : ∀ c ∈ value.head?, isBlank c = false)
    (closes : ∀ c ∈ value.getLast?, isBlank c = false)
    (isKind : wholeKind? value = some kind) (offset : Nat) :
    contentSpans offset value = [⟨kind, offset, offset + byteSize value⟩] := by
  have trimmed : trim value = value := by
    rw [trim, trimStart_of_stops opens, trimEnd_eq_self_iff]
    exact closes
  simp only [contentSpans, whole, trimmed, Nat.lt_irrefl, ↓reduceIte, List.append_nil]
  obtain ⟨c, others, rfl⟩ := List.exists_cons_of_ne_nil present
  rw [valueSpans, isKind]
  simp [opens c rfl]

theorem contentSpans_of_quoted (isQuoted : IsQuoted (quote :: (body ++ [quote])))
    (quiet : QuietBehind ['#'] quote (body ++ [quote])) (offset : Nat) :
    contentSpans offset (quote :: (body ++ [quote])) =
      [⟨.string, offset, offset + byteSize (quote :: (body ++ [quote]))⟩] := by
  have blank := (isBlank_of_quote isQuoted.isQuote).1
  refine contentSpans_of_whole (by simp) (beforeComment_of_scalar isQuoted.isQuote quiet)
    (by simpa using blank) ?_ (wholeKind?_of_quoted isQuoted) offset
  rw [← List.cons_append, List.getLast?_concat]
  simpa using blank

end Scalars

/-! ## Lines with a key -/

section Lines

variable {name : List Char}

/-- A comment starts in plain text when the scan for comments follows the quotes of the value. -/
theorem comment_in_plain (isKey : IsKey name) {parts : List Part}
    (wellFormed : ∀ part ∈ parts, part.WellFormed) (followed : FollowedFrom true parts)
    (opens : Stops isIndent (written parts)) {token : Token}
    (member : token ∈ tokenize .yaml (String.ofList (keyLine name (written parts))))
    (isComment : token.kind = .comment) :
    ∃ before front back after, parts = before ++ .plain (front ++ back) :: after ∧
      back ≠ [] ∧ token.text.toList = back ++ written after := by
  obtain ⟨shorter, split⟩ := text_of_comment isKey opens member isComment
  have isQuote : ∀ quote body, .quoted quote body ∈ parts → quote ∈ ['\"', '\''] :=
    fun quote body listed => (wellFormed _ listed).isQuote
  obtain whole | ⟨before, front, back, after, rfl, present, cut⟩ :=
    beforeComment_of_followed isQuote followed
  · rw [whole] at shorter
    exact absurd shorter (Nat.lt_irrefl _)
  · refine ⟨before, front, back, after, rfl, present, ?_⟩
    rw [cut] at split
    simpa [written, Part.written] using split.symm

theorem tokens_of_wholeValue (isKey : IsKey name) {value : List Char} {kind : TokenKind}
    (present : value ≠ []) (opens : Stops isIndent value)
    (whole : ∀ offset, contentSpans offset value = [⟨kind, offset, offset + byteSize value⟩]) :
    tokenize .yaml (String.ofList (keyLine name value)) =
      [⟨.key, String.ofList name⟩, ⟨.punctuation, ":"⟩, ⟨.text, " "⟩,
        ⟨kind, String.ofList value⟩] := by
  let segments : List Segment := [.labelled .key name, .labelled .punctuation [':'],
    .plain [' '], .labelled kind value]
  have named : name ≠ [] := by
    obtain ⟨c, others, rfl, -⟩ := isKey.head
    simp
  have cut : spans (keyLine name value) = Segment.spansFrom 0 segments := by
    rw [spans_keyLine isKey opens, whole]
    simp [segments, Segment.spansFrom, Segment.labelled, Segment.plain, Nat.add_assoc]
  have spelled : Segment.characters segments = keyLine name value := by
    simp [segments, keyLine, Segment.labelled, Segment.plain]
  have covered := coverLine_spansFrom segments
  rw [spelled, ← cut] at covered
  rw [tokenize, String.toList_ofList]
  refine covered.trans ?_
  simp [segments, Segment.tokens, Segment.tokensAfter, Segment.labelled, Segment.plain, named,
    present, Cover.push]

theorem tokens_of_quoted (isKey : IsKey name) {quote : Char} {body : List Char}
    (isQuoted : IsQuoted (quote :: (body ++ [quote])))
    (quiet : QuietBehind ['#'] quote (body ++ [quote])) :
    tokenize .yaml (String.ofList (keyLine name (quote :: (body ++ [quote])))) =
      [⟨.key, String.ofList name⟩, ⟨.punctuation, ":"⟩, ⟨.text, " "⟩,
        ⟨.string, String.ofList (quote :: (body ++ [quote]))⟩] := by
  have opens : Stops isIndent (quote :: (body ++ [quote])) := by
    simpa [Stops] using (isBlank_of_quote isQuoted.isQuote).2
  exact tokens_of_wholeValue isKey (by simp) opens (contentSpans_of_quoted isQuoted quiet)

end Lines

end Grammar.Yaml

open Grammar.Yaml in
/-- A comment of a line with a key starts in plain text of the value, and never in a quoted scalar,
when the scan for comments follows the quotes of the value. A value that is one quoted scalar is one
token of its kind when no number sign comes after a blank behind the first quote in it. -/
theorem tokenize_quoted_value {name : List Char} (isKey : IsKey name) :
    (∀ parts : List Part, (∀ part ∈ parts, part.WellFormed) → FollowedFrom true parts →
      Lexeme.Stops isIndent (written parts) →
      ∀ token ∈ tokenize .yaml (String.ofList (keyLine name (written parts))),
        token.kind = .comment →
          ∃ before front back after, parts = before ++ .plain (front ++ back) :: after ∧
            back ≠ [] ∧ token.text.toList = back ++ written after) ∧
    ∀ quote body, IsQuoted (quote :: (body ++ [quote])) →
      QuietBehind ['#'] quote (body ++ [quote]) →
      tokenize .yaml (String.ofList (keyLine name (quote :: (body ++ [quote])))) =
        [⟨.key, String.ofList name⟩, ⟨.punctuation, ":"⟩, ⟨.text, " "⟩,
          ⟨.string, String.ofList (quote :: (body ++ [quote]))⟩] := by
  constructor
  · intro parts wellFormed followed opens token member isComment
    exact comment_in_plain isKey wellFormed followed opens member isComment
  · intro quote body isQuoted quiet
    exact tokens_of_quoted isKey isQuoted quiet

open Grammar.Yaml in
/-- A number sign in a quoted scalar starts no comment, one behind the value does. -/
theorem comments_of_tags :
    tokenize .yaml "tags: \"a # b\"" =
        [⟨.key, "tags"⟩, ⟨.punctuation, ":"⟩, ⟨.text, " "⟩, ⟨.string, "\"a # b\""⟩] ∧
      ∀ token ∈ tokenize .yaml "tags: ['a#b', 'c # d'] # e", token.kind = .comment →
        ∃ before front back after, [Part.plain ['['], .quoted '\'' "a#b".toList,
            .plain [',', ' '], .quoted '\'' "c # d".toList, .plain "] # e".toList] =
          before ++ .plain (front ++ back) :: after ∧
            back ≠ [] ∧ token.text.toList = back ++ written after := by
  have isKey : IsKey ['t', 'a', 'g', 's'] :=
    .plain (by decide) (by decide) (Text.forall_mem_of_all rfl) (by simp [isIndent])
  obtain ⟨comments, scalars⟩ := tokenize_quoted_value isKey
  constructor
  · have body : EscapedBody '\"' "a # b".toList :=
      .character (by decide) (by decide) <| .character (by decide) (by decide) <|
        .character (by decide) (by decide) <| .character (by decide) (by decide) <|
        .character (by decide) (by decide) .nil
    have quiet : QuietBehind ['#'] '\"' ("a # b".toList ++ ['\"']) :=
      ⟨"a # b".toList, [], rfl, by decide, rfl⟩
    exact scalars '\"' "a # b".toList (.inl ⟨_, rfl, body⟩) quiet
  · have first : DoubledBody '\'' "a#b".toList :=
      .character (by decide) <| .character (by decide) <| .character (by decide) .nil
    have second : DoubledBody '\'' "c # d".toList :=
      .character (by decide) <| .character (by decide) <| .character (by decide) <|
        .character (by decide) <| .character (by decide) .nil
    let parts : List Part := [.plain ['['], .quoted '\'' "a#b".toList, .plain [',', ' '],
      .quoted '\'' "c # d".toList, .plain "] # e".toList]
    have wellFormed : ∀ part ∈ parts, part.WellFormed := by
      simp only [parts, List.forall_mem_cons]
      exact ⟨trivial, .inr ⟨_, rfl, first⟩, trivial, .inr ⟨_, rfl, second⟩, trivial,
        List.forall_mem_nil _⟩
    have followed : FollowedFrom true parts :=
      ⟨rfl, rfl, rfl, ⟨"c # d".toList, [], rfl, by decide, rfl⟩, rfl, trivial⟩
    have opens : Lexeme.Stops isIndent (written parts) := by
      simpa [Lexeme.Stops, parts, written, Part.written] using (by decide : isIndent '[' = false)
    have line : keyLine ['t', 'a', 'g', 's'] (written parts) =
        "tags: ['a#b', 'c # d'] # e".toList := by decide
    have outside := comments parts wellFormed followed opens
    rwa [line, String.ofList_toList] at outside

open Grammar.Yaml in
/-- The scan for comments takes an escaped quote for the closing one. -/
theorem comment_in_quoted_scalar :
    IsQuoted "\"a \\\" # b\"".toList ∧
      tokenize .yaml "key: \"a \\\" # b\"" =
        [⟨.key, "key"⟩, ⟨.punctuation, ":"⟩, ⟨.text, " \"a \\\" "⟩, ⟨.comment, "# b\""⟩] := by
  refine ⟨.inl ⟨"a \\\" # b".toList, rfl, ?_⟩, by decide +kernel⟩
  exact .character (by decide) (by decide) <| .character (by decide) (by decide) <|
    .escape (by decide) <| .character (by decide) (by decide) <|
    .character (by decide) (by decide) <| .character (by decide) (by decide) <|
    .character (by decide) (by decide) .nil

end Highlight
