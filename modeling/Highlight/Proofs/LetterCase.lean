import Highlight.Proofs.Grammar.Joined
import Highlight.Proofs.Spelling
import Highlight.Tokenize

/-!
Letters in upper and lower case. A grammar whose rules read a text in lower case as they read the
text itself cuts both at the same places, into tokens of the same kinds.
-/

set_option autoImplicit false

namespace Highlight

namespace Text

/-! ## Characters -/

/-- Does a view of characters show a letter of ASCII in one case as it shows it in the other? -/
def IgnoresCase {α : Type} (view : Char → α) : Prop :=
  ∀ c, view c.toLower = view c

section Characters

variable {c d : Char}

theorem toLower_of_not_isAlpha (mark : c.isAlpha = false) : c.toLower = c := by
  have noUpper : c.isUpper = false := (Bool.or_eq_false_iff.mp mark).1
  exact dif_neg (of_decide_eq_false noUpper)

/-- The other case of a letter is one, and both have the same upper case. -/
theorem toLower_of_isAlpha (letter : c.isAlpha) :
    c.toLower.isAlpha ∧ c.toLower.toUpper = c.toUpper := by
  have same := holds_of_isAscii (isAscii_of_isAlpha letter)
    (fun d => !d.isAlpha || d.toLower.isAlpha && d.toLower.toUpper == d.toUpper)
    (by decide +kernel)
  rwa [letter, Bool.not_true, Bool.false_or, Bool.and_eq_true, beq_iff_eq] at same

theorem toUpper_toLower : IgnoresCase Char.toUpper := by
  intro c
  by_cases letter : c.isAlpha
  · exact (toLower_of_isAlpha letter).2
  · rw [toLower_of_not_isAlpha (by simpa using letter)]

/-- A view that does not tell letters apart ignores their case. -/
theorem ignoresCase_of_letters {α : Type} {view : Char → α} {shown : α}
    (letters : ∀ c, c.isAlpha → view c = shown) : IgnoresCase view := by
  intro c
  by_cases letter : c.isAlpha
  · rw [letters c letter, letters c.toLower (toLower_of_isAlpha letter).1]
  · rw [toLower_of_not_isAlpha (by simpa using letter)]

theorem isWord_ignoresCase : IgnoresCase isWord :=
  ignoresCase_of_letters fun _ => isWord_of_isAlpha

theorem isDecimal_ignoresCase : IgnoresCase isDecimal :=
  ignoresCase_of_letters fun _ => isDecimal_of_isAlpha

theorem utf8Size_toLower : IgnoresCase Char.utf8Size := by
  have single : ∀ c : Char, c.isAlpha → c.utf8Size = 1 := by
    intro c letter
    have ascii : c.toNat < 0x80 := by simpa [isAscii] using isAscii_of_isAlpha letter
    exact Char.utf8Size_eq_one_iff.mpr (UInt32.le_iff_toNat_le.mpr (Nat.le_of_lt_succ ascii))
  exact ignoresCase_of_letters single

theorem toLower_beq (mark : c.isAlpha = false) (d : Char) : (d.toLower == c) = (d == c) := by
  have apart : ∀ d, d.isAlpha → (d == c) = false := by
    intro d letter
    refine beq_eq_false_iff_ne.mpr ?_
    rintro rfl
    simp [mark] at letter
  exact ignoresCase_of_letters apart d

theorem ignoresCase_contains {members : List Char}
    (marks : members.all fun c => !c.isAlpha) : IgnoresCase members.contains :=
  ignoresCase_of_letters fun _ letter => not_contains Char.isAlpha letter marks

theorem isPrefixOf_map_toLower {expected : List Char}
    (marks : expected.all fun c => !c.isAlpha) (text : List Char) :
    expected.isPrefixOf (text.map Char.toLower) = expected.isPrefixOf text := by
  induction expected generalizing text with
  | nil => rfl
  | cons c expected inductionHypothesis =>
    cases text with
    | nil => rfl
    | cons d text =>
      obtain ⟨own, others⟩ := Bool.and_eq_true_iff.mp marks
      have mark := toLower_beq (by simpa using own) d
      rw [BEq.comm, @BEq.comm _ _ _ d] at mark
      simp only [List.map_cons, List.isPrefixOf, mark, inductionHypothesis others]

end Characters

/-! ## Lexemes -/

namespace Lexeme

/-- Does the lexeme take up as much of a text as of the text in lower case? -/
def IgnoresCase (lexeme : Lexeme) : Prop :=
  ∀ text, lexeme.length? (text.map Char.toLower) = lexeme.length? text

section Lexemes

variable {first second : Lexeme} {isMember : Char → Bool}

theorem ignoresCase_one (ignores : Text.IgnoresCase isMember) : (one isMember).IgnoresCase := by
  intro text
  cases text with
  | nil => rfl
  | cons c rest => simp [one, ignores c]

theorem countRun_map_toLower (ignores : Text.IgnoresCase isMember) (count : Nat)
    (text : List Char) :
    countRun isMember count (text.map Char.toLower) = countRun isMember count text := by
  induction text generalizing count with
  | nil => rfl
  | cons c rest inductionHypothesis =>
    simp only [List.map_cons, countRun, ignores c, inductionHypothesis]

theorem ignoresCase_many (ignores : Text.IgnoresCase isMember) :
    (many isMember).IgnoresCase := by
  intro text
  simp only [many, countRun_map_toLower ignores]

theorem ignoresCase_run (ignores : Text.IgnoresCase isMember) : (run isMember).IgnoresCase := by
  intro text
  simp only [run, countRun_map_toLower ignores]

theorem ignoresCase_literal {expected : String}
    (marks : expected.toList.all fun c => !c.isAlpha) : (literal expected).IgnoresCase := by
  intro text
  simp only [literal, isPrefixOf_map_toLower marks]

theorem ignoresCase_anyOf {choices : List String}
    (marks : ∀ choice ∈ choices, choice.toList.all fun c => !c.isAlpha) :
    (anyOf choices).IgnoresCase := by
  intro text
  induction choices with
  | nil => rfl
  | cons choice choices inductionHypothesis =>
    obtain ⟨own, others⟩ := List.forall_mem_cons.mp marks
    have following := inductionHypothesis others
    simp only [anyOf] at following
    simp only [anyOf, List.findSome?_cons, ignoresCase_literal own text, following]

theorem ignoresCase_andThen (firstIgnores : first.IgnoresCase)
    (secondIgnores : second.IgnoresCase) : (first ++ second).IgnoresCase := by
  intro text
  change (andThen first second).length? _ = (andThen first second).length? _
  simp only [andThen, firstIgnores text, ← List.map_drop, secondIgnores _]

theorem ignoresCase_orElse (firstIgnores : first.IgnoresCase)
    (secondIgnores : second.IgnoresCase) : (first <|> second).IgnoresCase := by
  intro text
  simp only [orElse_length?, firstIgnores text, secondIgnores text]

theorem ignoresCase_wordEnd : wordEnd.IgnoresCase := by
  intro text
  cases text with
  | nil => rfl
  | cons c rest => simp [wordEnd, ahead, wordEnds, isWord_ignoresCase c]

theorem ignoresCase_restOfLine : restOfLine.IgnoresCase := by
  have feed : ∀ c : Char, (c.toLower != '\n') = (c != '\n') := by
    intro c
    rw [bne, bne, toLower_beq (by decide)]
  intro text
  simp only [restOfLine, List.all_map, Function.comp_def, feed, List.length_map]

theorem ignoresCase_blockComment {opening closing : String}
    (openingMarks : opening.toList.all fun c => !c.isAlpha)
    (closingMarks : closing.toList.all fun c => !c.isAlpha) :
    (blockComment opening closing).IgnoresCase := by
  have feed := toLower_beq (show '\n'.isAlpha = false by decide)
  have closed : ∀ taken text, closedLength? closing.toList taken (text.map Char.toLower) =
      closedLength? closing.toList taken text := by
    intro taken text
    induction text generalizing taken with
    | nil => rfl
    | cons c rest inductionHypothesis =>
      have own := isPrefixOf_map_toLower closingMarks (c :: rest)
      rw [List.map_cons] at own ⊢
      simp only [closedLength?, own, feed c, inductionHypothesis]
  exact ignoresCase_andThen (ignoresCase_literal openingMarks) (closed 0)

theorem ignoresCase_doubledQuote {quote : Char} (mark : quote.isAlpha = false) :
    (doubledQuote quote).IgnoresCase := by
  have isQuote := toLower_beq mark
  have closed : ∀ fallback taken text,
      doubledLength? quote fallback taken (text.map Char.toLower) =
        doubledLength? quote fallback taken text := by
    intro fallback taken text
    fun_induction doubledLength? quote fallback taken text with
    | case1 => rfl
    | case2 fallback taken c closes next rest isPair inductionHypothesis =>
      simp only [List.map_cons, doubledLength?, isQuote, closes, isPair, ↓reduceIte,
        inductionHypothesis]
    | case3 fallback taken c closes next rest noPair =>
      simp [doubledLength?, isQuote, closes, noPair]
    | case4 fallback taken c closes =>
      simp [doubledLength?, isQuote, closes]
    | case5 fallback taken c rest noQuote inductionHypothesis =>
      rw [List.map_cons, doubledLength?.eq_def]
      simp [isQuote, noQuote, inductionHypothesis]
  exact ignoresCase_andThen (ignoresCase_one isQuote) (closed none 0)

end Lexemes

end Lexeme

end Text

open Text

/-! ## Rules -/

def Place.lower (place : Place) : Place :=
  ⟨place.before.map Char.toLower, place.offset, place.rest.map Char.toLower⟩

theorem Place.forward_lower (count : Nat) (place : Place) :
    place.lower.forward count = (place.forward count).lower := by
  induction count generalizing place with
  | zero => rfl
  | succ count inductionHypothesis =>
    match place with
    | ⟨_, _, []⟩ => rfl
    | ⟨before, offset, c :: rest⟩ =>
      have following := inductionHypothesis ⟨some c, offset + c.utf8Size, rest⟩
      simpa [lower, forward, utf8Size_toLower c] using following

namespace Rule

/-- Does the rule read the same pieces in lower case? -/
def IgnoresCase (rule : Rule) : Prop :=
  ∀ place : Place, rule place.lower = rule place

section Rules

variable {rule : Rule} {rules : List Rule} {lexeme : Lexeme}

theorem ignoresCase_classified {kindOf : List Char → Option TokenKind}
    (kinds : ∀ text, kindOf (text.map Char.toLower) = kindOf text)
    (ignores : lexeme.IgnoresCase) : (classified kindOf lexeme).IgnoresCase := by
  intro place
  have lengths := ignores place.rest
  simp only [classified, Place.lower, lengths, ← List.map_take, kinds]

theorem ignoresCase_token (ignores : lexeme.IgnoresCase) (kind : TokenKind) :
    (token kind lexeme).IgnoresCase := by
  intro place
  have lengths := ignores place.rest
  simp only [token, Place.lower, lengths]

theorem ignoresCase_atWordStart (ignores : rule.IgnoresCase) :
    (atWordStart rule).IgnoresCase := by
  intro place
  have starts : place.lower.wordStarts = place.wordStarts := by
    cases before : place.before with
    | none => simp [Place.wordStarts, Place.lower, before]
    | some c => simp [Place.wordStarts, Place.lower, before, isWord_ignoresCase c]
  simp only [atWordStart, starts, ignores place]

theorem ignoresCase_firstOf (ignores : ∀ rule ∈ rules, rule.IgnoresCase) :
    (firstOf rules).IgnoresCase := by
  intro place
  induction rules with
  | nil => rfl
  | cons rule rules inductionHypothesis =>
    obtain ⟨own, others⟩ := List.forall_mem_cons.mp ignores
    have following := inductionHypothesis others
    simp only [firstOf] at following
    simp only [firstOf, List.findSome?_cons, own place, following]

end Rules

end Rule

/-! ## Tokens -/

def Segment.lower (segment : Segment) : Segment :=
  ⟨segment.kind?, segment.text.map Char.toLower⟩

def Token.lower (token : Token) : Token :=
  ⟨token.kind, asciiLower token.text⟩

theorem Piece.segments_map_toLower (text : List Char) (pieces : List Piece) :
    Piece.segments (text.map Char.toLower) pieces =
      (Piece.segments text pieces).map Segment.lower := by
  induction pieces generalizing text with
  | nil => rfl
  | cons piece pieces inductionHypothesis =>
    have following := inductionHypothesis (text.drop piece.length)
    simp [Piece.segments, Segment.lower, ← List.map_take, ← List.map_drop, following]

section Scans

variable {State : Type} {step : State → Place → Option (List Piece × State)}

theorem segmentsFrom_lower (ignores : ∀ state place, step state place.lower = step state place)
    (state : State) (place : Place) :
    segmentsFrom step state place.lower = (segmentsFrom step state place).map Segment.lower := by
  fun_induction segmentsFrom step state place with
  | case1 state place ended =>
    have lowerEnded : place.lower.rest = [] := by simp [Place.lower, ended]
    rw [segmentsFrom_of_end lowerEnded, List.map_nil]
  | case2 state place c rest present nothing inductionHypothesis =>
    have lowerPresent : place.lower.rest = c.toLower :: rest.map Char.toLower := by
      simp [Place.lower, present]
    rw [segmentsFrom_of_none lowerPresent ((ignores state place).trans nothing),
      Place.forward_lower, inductionHypothesis]
    rfl
  | case3 state place c rest present pieces next read inductionHypothesis =>
    have lowerPresent : place.lower.rest = c.toLower :: rest.map Char.toLower := by
      simp [Place.lower, present]
    have lowerRead := (ignores state place).trans read
    have cut : Piece.segments place.lower.rest pieces =
        (Piece.segments place.rest pieces).map Segment.lower :=
      Piece.segments_map_toLower place.rest pieces
    by_cases still : Piece.total pieces = 0
    · rw [still, Nat.max_eq_left (Nat.zero_le 1)] at inductionHypothesis
      rw [segmentsFrom_of_still lowerPresent lowerRead still, cut, Place.forward_lower]
      simp [still, inductionHypothesis, Segment.lower, Segment.plain]
    · have advances := Nat.pos_of_ne_zero still
      rw [Nat.max_eq_right advances] at inductionHypothesis
      rw [segmentsFrom_of_some lowerRead advances (by simp [lowerPresent]), cut,
        Place.forward_lower]
      simp [still, Nat.max_eq_right advances, inductionHypothesis]

theorem asciiLower_ofList (text : List Char) :
    asciiLower (String.ofList text) = String.ofList (text.map Char.toLower) := by
  rw [← String.toList_inj, asciiLower, String.toList_map, String.toList_ofList,
    String.toList_ofList]

theorem push_lower (kind : TokenKind) (text : List Char) :
    Cover.push kind (text.map Char.toLower) [] = (Cover.push kind text []).map Token.lower := by
  by_cases present : text = []
  · subst present
    rfl
  · rw [Cover.push_of_ne_nil present, Cover.push_of_ne_nil (by simpa using present)]
    simp [Token.lower, asciiLower_ofList]

theorem Segment.tokensAfter_lower (gap : List Char) (segments : List Segment) :
    tokensAfter (gap.map Char.toLower) (segments.map lower) =
      (tokensAfter gap segments).map Token.lower := by
  induction segments generalizing gap with
  | nil => exact push_lower .text gap
  | cons segment segments inductionHypothesis =>
    obtain ⟨kind?, text⟩ := segment
    cases kind? with
    | none =>
      have following := inductionHypothesis (gap ++ text)
      rw [List.map_append] at following
      exact following
    | some kind =>
      by_cases empty : text = []
      · subst empty
        simpa [lower, tokensAfter] using inductionHypothesis gap
      · have following := inductionHypothesis []
        rw [List.map_nil] at following
        simp [lower, tokensAfter, empty, push_lower, following, Token.lower, asciiLower_ofList]

/-- A scan that reads the same in lower case cuts a line at the same places. -/
theorem coverLine_lower (ignores : ∀ state place, step state place.lower = step state place)
    (state : State) (line : List Char) :
    coverLine (line.map Char.toLower) (scanFrom step state (.start (line.map Char.toLower))) =
      (coverLine line (scanFrom step state (.start line))).map Token.lower := by
  have cut : segmentsFrom step state (.start (line.map Char.toLower)) =
      (segmentsFrom step state (.start line)).map Segment.lower :=
    segmentsFrom_lower ignores state (.start line)
  rw [coverLine_scanFrom, coverLine_scanFrom, cut]
  exact Segment.tokensAfter_lower [] _

end Scans

/-! ## SQL -/

namespace Grammar.Query

open Text.Lexeme

theorem wordKind?_map_toLower (word : List Char) :
    wordKind? (word.map Char.toLower) = wordKind? word := by
  have upper : (word.map Char.toLower).map Char.toUpper = word.map Char.toUpper := by
    rw [List.map_map]
    exact List.map_congr_left fun c _ => toUpper_toLower c
  rw [wordKind?, wordKind?, upper]

theorem rules_ignoreCase : ∀ rule ∈ rules, rule.IgnoresCase := by
  have digits : (run isDecimal).IgnoresCase := ignoresCase_run isDecimal_ignoresCase
  have point : (char '.').IgnoresCase := ignoresCase_one (toLower_beq (by decide))
  have commentIgnores : comment.IgnoresCase :=
    ignoresCase_orElse
      (ignoresCase_andThen (ignoresCase_literal (by decide)) ignoresCase_restOfLine)
      (ignoresCase_blockComment (by decide) (by decide))
  have numberIgnores : number.IgnoresCase :=
    ignoresCase_orElse
      (ignoresCase_andThen (ignoresCase_andThen (ignoresCase_andThen digits point) digits)
        ignoresCase_wordEnd)
      (ignoresCase_andThen digits ignoresCase_wordEnd)
  have opens : Text.IgnoresCase fun c => c.isAlpha || c == '_' :=
    ignoresCase_of_letters fun c letter => by rw [letter, Bool.true_or]
  have continues : Text.IgnoresCase fun c => isWord c || c == '$' :=
    ignoresCase_of_letters fun c letter => by rw [isWord_of_isAlpha letter, Bool.true_or]
  have wordIgnores : word.IgnoresCase :=
    ignoresCase_andThen (ignoresCase_one opens) (ignoresCase_many continues)
  have single : ∀ members : List Char, (members.all fun c => !c.isAlpha) →
      (oneOf members).IgnoresCase := fun _ marks => ignoresCase_one (ignoresCase_contains marks)
  simp only [rules, List.forall_mem_cons]
  refine ⟨?_, ?_, ?_, ?_, ?_, ?_, ?_, List.forall_mem_nil _⟩
  · exact Rule.ignoresCase_token commentIgnores _
  · exact Rule.ignoresCase_token (ignoresCase_doubledQuote (by decide)) _
  · exact Rule.ignoresCase_atWordStart (Rule.ignoresCase_token numberIgnores _)
  · exact Rule.ignoresCase_classified wordKind?_map_toLower wordIgnores
  · exact Rule.ignoresCase_token
      (ignoresCase_orElse (ignoresCase_anyOf (by decide)) (single _ (by decide))) _
  · exact Rule.ignoresCase_token (single _ (by decide)) _
  · exact Rule.ignoresCase_token (single _ (by decide)) _

end Grammar.Query

/-- A line of SQL in lower case has the tokens of the line in lower case. -/
theorem tokenize_sql_asciiLower (line : String) :
    tokenize .sql (asciiLower line) = (tokenize .sql line).map Token.lower := by
  have ignores : ∀ state place, Grammar.ruleStep Grammar.Query.rules state (Place.lower place) =
      Grammar.ruleStep Grammar.Query.rules state place := by
    intro state place
    rw [Grammar.ruleStep, Rule.ignoresCase_firstOf Grammar.Query.rules_ignoreCase place]
    rfl
  have lowered := coverLine_lower ignores () line.toList
  rw [tokenize, asciiLower, String.toList_map]
  exact lowered

theorem utf8ByteSize_ofList (text : List Char) :
    (String.ofList text).utf8ByteSize = byteSize text := by
  induction text with
  | nil => simp
  | cons c rest inductionHypothesis =>
    rw [String.ofList_cons, String.utf8ByteSize_append, String.utf8ByteSize_singleton,
      inductionHypothesis, byteSize_cons]

theorem byteSize_map_toLower (text : List Char) :
    byteSize (text.map Char.toLower) = byteSize text := by
  induction text with
  | nil => rfl
  | cons c rest inductionHypothesis =>
    rw [List.map_cons, byteSize_cons, byteSize_cons, inductionHypothesis, utf8Size_toLower c]

theorem utf8ByteSize_asciiLower (text : String) :
    (asciiLower text).utf8ByteSize = text.utf8ByteSize := by
  obtain ⟨characters, rfl⟩ := text.exists_eq_ofList
  rw [asciiLower_ofList, utf8ByteSize_ofList, utf8ByteSize_ofList, byteSize_map_toLower]

/-- Lines of SQL that differ only in the case of letters of ASCII have as many tokens, of the same
kinds and the same sizes. -/
theorem sql_ignores_case {line other : String} (alike : asciiLower line = asciiLower other) :
    (tokenize .sql line).map (fun token => (token.kind, token.text.utf8ByteSize)) =
      (tokenize .sql other).map (fun token => (token.kind, token.text.utf8ByteSize)) := by
  let shape (token : Token) : TokenKind × Nat := (token.kind, token.text.utf8ByteSize)
  have kept : shape ∘ Token.lower = shape := by
    funext token
    simp [shape, Token.lower, utf8ByteSize_asciiLower]
  have lowered (line : String) :
      (tokenize .sql (asciiLower line)).map shape = (tokenize .sql line).map shape := by
    rw [tokenize_sql_asciiLower, List.map_map, kept]
  change (tokenize .sql line).map shape = (tokenize .sql other).map shape
  rw [← lowered line, alike, lowered]

/-- A letter beyond ASCII has no other case here, and keywords are told in any. -/
theorem sizes_of_query :
    asciiLower "sELECT 'É' From t1 -- X" = asciiLower "Select 'É' fROM T1 -- x" ∧
      tokenize .sql "Select 'É' fROM T1 -- x" =
        [⟨.keyword, "Select"⟩, ⟨.text, " "⟩, ⟨.string, "'É'"⟩, ⟨.text, " "⟩, ⟨.keyword, "fROM"⟩,
          ⟨.text, " T1 "⟩, ⟨.comment, "-- x"⟩] ∧
      (tokenize .sql "sELECT 'É' From t1 -- X").map
          (fun token => (token.kind, token.text.utf8ByteSize)) =
        [(.keyword, 6), (.text, 1), (.string, 4), (.text, 1), (.keyword, 4), (.text, 4),
          (.comment, 4)] := by
  have alike : asciiLower "sELECT 'É' From t1 -- X" = asciiLower "Select 'É' fROM T1 -- x" := by
    rw [← String.toList_inj, asciiLower, asciiLower, String.toList_map, String.toList_map]
    decide
  have tokens : tokenize .sql "Select 'É' fROM T1 -- x" =
      [⟨.keyword, "Select"⟩, ⟨.text, " "⟩, ⟨.string, "'É'"⟩, ⟨.text, " "⟩, ⟨.keyword, "fROM"⟩,
        ⟨.text, " T1 "⟩, ⟨.comment, "-- x"⟩] := by
    decide +kernel
  refine ⟨alike, tokens, ?_⟩
  rw [sql_ignores_case alike, tokens]
  rfl

end Highlight
