import Highlight.Proofs.Endings
import Highlight.Proofs.Grammar.Program
import Highlight.Proofs.Grammar.Query
import Highlight.Proofs.Labels
import Highlight.Proofs.Neighbors

/-!
Words of program source and of SQL. A word ends where no word character follows. It starts behind
what the scan has read, and that ends with no letter when a letter comes next; so only a character
at which nothing is read, as an accented letter that opens a name, can stand right before a word.
-/

set_option autoImplicit false

namespace Highlight

open Text

/-! ## Words of a grammar -/

/-- The kinds that a list of words gives. -/
def wordKinds : List TokenKind :=
  [.keyword, .boolean, .null]

namespace Rule

/-- Does the rule read one word, behind which no word character comes, or nothing with a kind of
words but what a number sign opens? -/
def ReadsWords (rule : Rule) : Prop :=
  ∀ ⦃before offset segments rest⦄, rule.Reads before offset segments rest →
    (∃ kind text, segments = [.labelled kind text] ∧ text.head?.any Char.isAlpha ∧
        Lexeme.Stops isWord rest) ∨
      ∀ segment ∈ segments, ∀ kind ∈ segment.kind?, kind ∈ wordKinds →
        segment.text.head? = some '#'

section Words

variable {rule : Rule} {lexeme : Lexeme}

theorem readsWords_of_within (within : rule.Within (· ∉ wordKinds)) : rule.ReadsWords := by
  intro before offset segments rest read
  right
  intro segment member kind labelled isWordKind
  exact absurd isWordKind (within _ _ read segment.piece (List.mem_map_of_mem member) kind labelled)

theorem readsWords_token {kind : TokenKind} (outside : kind ∉ wordKinds) (lexeme : Lexeme) :
    (token kind lexeme).ReadsWords :=
  readsWords_of_within (token_within outside lexeme)

/-- Words that a list gives a kind are words with a letter at their start. -/
theorem readsWords_classified {kindOf : List Char → Option TokenKind}
    (letters : ∀ text kind, kindOf text = some kind → text.head?.any Char.isAlpha)
    (halts : lexeme.Halts isWord) : (classified kindOf lexeme).ReadsWords := by
  intro before offset segments rest read
  obtain ⟨text, rfl, reads⟩ := read.of_classified
  cases kind? : kindOf text with
  | none =>
    right
    simp
  | some kind => exact .inl ⟨kind, text, rfl, letters text kind kind?, halts reads⟩

end Words

end Rule

/-- Rules that keep words apart from what they read before them. They read something wherever a
member of a class comes, and behind no member of it a letter that they have left. -/
structure KeepsApart (rules : List Rule) (isLast : Char → Bool) : Prop where
  fits : ∀ rule ∈ rules, rule.Fits
  advances : ∀ rule ∈ rules, rule.Advances
  occurs : ∀ {c}, isLast c → ∀ before offset rest,
    Rule.firstOf rules ⟨before, offset, c :: rest⟩ ≠ none
  seals : ∀ rule ∈ rules, rule.Seals isLast Char.isAlpha
  words : ∀ rule ∈ rules, rule.ReadsWords

/-- Does no letter come next behind a member of a class? -/
def Sealed (isLast : Char → Bool) (before : Option Char) (text : List Char) : Prop :=
  ∀ c ∈ before, isLast c → Lexeme.Stops Char.isAlpha text

/-- A word, unless a number sign opens it, comes behind no member of a class, and no word character
comes behind it. -/
def StandsApart (isLast : Char → Bool) (before : Option Char) (token : Token)
    (behind : List Token) : Prop :=
  token.kind ∈ wordKinds → token.text.toList.head? ≠ some '#' →
    Lexeme.Stops isWord (characters behind) ∧ ∀ c ∈ before, isLast c = false

namespace KeepsApart

variable {rules : List Rule} {isLast : Char → Bool}

theorem each_of_read (apart : KeepsApart rules isLast) {before : Option Char} {offset : Nat}
    {segments tail : List Segment} {rest : List Char}
    (isSealed : Sealed isLast before (Segment.characters segments ++ rest))
    (read : (Rule.firstOf rules).Reads before offset segments rest)
    (continues : Segment.characters tail = rest)
    (each : Segment.Each (StandsApart isLast)
      ((Segment.characters segments).getLast?.or before) tail) :
    Segment.Each (StandsApart isLast) before (segments ++ tail) := by
  obtain ⟨rule, listed, own⟩ := read.of_firstOf
  rcases apart.words rule listed own with ⟨kind, text, rfl, letter, halts⟩ | others
  · rw [List.singleton_append, Segment.each_labelled_cons]
    refine ⟨fun _ _ => ⟨?_, ?_⟩, by simpa [Segment.labelled] using each⟩
    · rwa [Segment.characters_tokens, continues]
    · intro c isBefore
      by_contra member
      have stops := isSealed c isBefore (by simpa using member)
      cases text with
      | nil => simp at letter
      | cons d others =>
        have noLetter : d.isAlpha = false := stops d rfl
        simp [noLetter] at letter
  · refine Segment.each_append ?_ each
    intro segment member kind labelled before behind isWordKind unsigned
    rw [String.toList_ofList] at unsigned
    exact absurd (others segment member kind labelled isWordKind) unsigned

theorem sealed_of_read (apart : KeepsApart rules isLast) {before : Option Char} {offset : Nat}
    {segments : List Segment} {rest : List Char}
    (read : (Rule.firstOf rules).Reads before offset segments rest) :
    Sealed isLast ((Segment.characters segments).getLast?.or before) rest := by
  obtain ⟨rule, listed, own⟩ := read.of_firstOf
  have advances := apart.advances rule listed own
  rw [List.getLast?_eq_some_getLast advances, Option.some_or]
  intro c last isMember
  exact apart.seals rule listed own c
    ((List.getLast?_eq_some_getLast advances).trans last) isMember

theorem scanInvariant (apart : KeepsApart rules isLast) :
    ScanInvariant (Grammar.ruleStep rules) (fun _ => Sealed isLast) (StandsApart isLast) := by
  refine .of_rules apart.fits apart.advances ?_ ?_
  · intro before offset c rest _ nothing d isBefore isMember
    obtain rfl : c = d := Option.some.inj isBefore
    exact absurd nothing (apart.occurs isMember before offset rest)
  · intro before offset segments rest isSealed read
    refine ⟨apart.sealed_of_read read, ?_⟩
    intro tail continues each
    exact apart.each_of_read isSealed read continues each

theorem word (apart : KeepsApart rules isLast) {line : List Char} {front behind : List Token}
    {token : Token} (isWordKind : token.kind ∈ wordKinds)
    (unsigned : token.text.toList.head? ≠ some '#')
    (split : coverLine line (scanRules rules (.start line)) = front ++ token :: behind) :
    Lexeme.Stops isWord (characters behind) ∧
      ∀ c ∈ (characters front).getLast?, isLast c = false := by
  have isLabel : token.kind ≠ .text := by
    intro isText
    rw [isText] at isWordKind
    simp [wordKinds] at isWordKind
  have atStart : Sealed isLast none line := by
    intro c isBefore
    contradiction
  exact apart.scanInvariant.holds () atStart isLabel split isWordKind unsigned

end KeepsApart

/-! ## SQL -/

namespace Grammar.Query

open Text.Lexeme

theorem wordKind?_letter (text : List Char) (kind : TokenKind)
    (found : wordKind? text = some kind) : text.head?.any Char.isAlpha := by
  have heads : ∀ word ∈ reserved, word.toList.head?.any Char.isAlpha :=
    Text.forall_mem_of_all rfl
  unfold wordKind? at found
  split at found
  · next listed =>
    have upper := heads _ (by simpa using listed)
    cases text with
    | nil => simp at upper
    | cons c others =>
      have letter : c.toUpper.isAlpha := by simpa using upper
      by_cases lower : c.isLower
      · exact Bool.or_eq_true_iff.mpr (.inr lower)
      · have same : c.toUpper = c := dif_neg fun range =>
          lower (Bool.and_eq_true_iff.mpr ⟨decide_eq_true range.1, decide_eq_true range.2⟩)
        rwa [same] at letter
  · cases found

theorem number_halts : number.Halts isWord :=
  halts_orElse (halts_andThen _ halts_wordEnd) (halts_andThen _ halts_wordEnd)

theorem word_halts : word.Halts isWord :=
  halts_andThen _ (halts_many fun c member => by simp [member])

theorem rules_fit : ∀ rule ∈ rules, rule.Fits := by
  have digits : (run isDecimal).Fits := fits_run _
  have commentFits : comment.Fits :=
    fits_orElse (fits_andThen (fits_literal _) fits_restOfLine) (fits_blockComment _ _)
  have numberFits : number.Fits :=
    fits_orElse (fits_andThen (fits_andThen (fits_andThen digits (fits_one _)) digits)
      (fits_ahead _)) (fits_andThen digits (fits_ahead _))
  simp only [rules, List.forall_mem_cons]
  refine ⟨?_, ?_, ?_, ?_, ?_, ?_, ?_, List.forall_mem_nil _⟩
  · exact Rule.fits_token commentFits _
  · exact Rule.fits_token (fits_doubledQuote _) _
  · exact Rule.fits_atWordStart (Rule.fits_token numberFits _)
  · exact Rule.fits_classified (fits_andThen (fits_one _) (fits_many _)) _
  · exact Rule.fits_token (fits_orElse (fits_anyOf _) (fits_one _)) _
  · exact Rule.fits_token (fits_one _) _
  · exact Rule.fits_token (fits_one _) _

theorem rules_advance : ∀ rule ∈ rules, rule.Advances := by
  have digits : (run isDecimal).Advances := advances_run _
  have commentAdvances : comment.Advances :=
    advances_orElse (advances_andThen (advances_literal (by decide)) _)
      (advances_andThen (advances_literal (by decide)) _)
  have numberAdvances : number.Advances :=
    advances_orElse (advances_andThen (advances_andThen (advances_andThen digits _) _) _)
      (advances_andThen digits _)
  simp only [rules, List.forall_mem_cons]
  refine ⟨?_, ?_, ?_, ?_, ?_, ?_, ?_, List.forall_mem_nil _⟩
  · exact Rule.advances_token commentAdvances _
  · exact Rule.advances_token (advances_andThen (advances_one _) _) _
  · exact Rule.advances_atWordStart (Rule.advances_token numberAdvances _)
  · exact Rule.advances_classified (advances_andThen (advances_one _) _) _
  · exact Rule.advances_token (advances_orElse (advances_anyOf (by decide)) (advances_one _)) _
  · exact Rule.advances_token (advances_one _) _
  · exact Rule.advances_token (advances_one _) _

theorem rules_seal : ∀ rule ∈ rules, rule.Seals opensWord Char.isAlpha := by
  have commentSeals : comment.Seals opensWord Char.isAlpha := seals_starComment (by decide)
  simp only [rules, List.forall_mem_cons]
  refine ⟨?_, ?_, ?_, ?_, ?_, ?_, ?_, List.forall_mem_nil _⟩
  · exact Rule.seals_token commentSeals _
  · exact Rule.seals_token
      (seals_of_enquoted (fun _ _ => enquoted_of_reads_doubledQuote) (by decide)) _
  · exact Rule.seals_atWordStart
      (Rule.seals_token ((number_halts.mono fun _ => isWord_of_isAlpha).seals _) _)
  · exact Rule.seals_classified ((word_halts.mono fun _ => isWord_of_isAlpha).seals _) _
  · exact Rule.seals_token (seals_orElse (seals_anyOf (by decide)) (seals_oneOf (by decide))) _
  · exact Rule.seals_token (seals_oneOf (by decide)) _
  · exact Rule.seals_token (seals_oneOf (by decide)) _

theorem rules_readWords : ∀ rule ∈ rules, rule.ReadsWords := by
  simp only [rules, List.forall_mem_cons]
  refine ⟨?_, ?_, ?_, ?_, ?_, ?_, ?_, List.forall_mem_nil _⟩
  · exact Rule.readsWords_token (by decide) _
  · exact Rule.readsWords_token (by decide) _
  · exact Rule.readsWords_of_within (Rule.atWordStart_within (Rule.token_within (by decide) _))
  · exact Rule.readsWords_classified wordKind?_letter word_halts
  · exact Rule.readsWords_token (by decide) _
  · exact Rule.readsWords_token (by decide) _
  · exact Rule.readsWords_token (by decide) _

theorem rules_keepApart : KeepsApart rules opensWord where
  fits := rules_fit
  advances := rules_advance
  occurs := by
    intro c opened before offset rest
    have listed : .classified wordKind? word ∈ rules := by simp [rules]
    have first : (one fun c => c.isAlpha || c == '_').Reads [c] rest := reads_one opened rest
    obtain ⟨length, read⟩ := exists_length?_andThen_many first fun c => isWord c || c == '$'
    exact Rule.firstOf_ne_none listed (Rule.classified_ne_none read _)
  seals := rules_seal
  words := rules_readWords

end Grammar.Query

/-! ## Program source -/

namespace Grammar.Program

open Text.Lexeme

theorem wordKind?_letter (text : List Char) (kind : TokenKind)
    (found : wordKind? text = some kind) : text.head?.any Char.isAlpha := by
  have heads : ∀ word ∈ keywords ++ booleans ++ nulls, word.toList.head?.any Char.isAlpha :=
    Text.forall_mem_of_all rfl
  have letter (words : List String) (within : words ⊆ keywords ++ booleans ++ nulls)
      (listed : words.contains (String.ofList text)) : text.head?.any Char.isAlpha := by
    have own := heads _ (within (by simpa using listed))
    rwa [String.toList_ofList] at own
  unfold wordKind? at found
  dsimp only at found
  split at found
  · next listed => exact letter keywords (by simp) listed
  split at found
  · next listed => exact letter booleans (by simp) listed
  split at found
  · next listed => exact letter nulls (by simp) listed
  · cases found

theorem directiveName_halts : directiveName.Halts isWord := by
  intro text rest read
  obtain ⟨name, -, own⟩ := List.exists_of_findSome?_eq_some read
  exact halts_andThen (literal name) halts_wordEnd own

theorem directiveName_fits : directiveName.Fits := by
  intro text length read
  obtain ⟨name, -, own⟩ := List.exists_of_findSome?_eq_some read
  exact fits_andThen (fits_literal name) (fits_ahead _) text length own

theorem number_halts : number.Halts Char.isAlpha :=
  halts_andThen _ (halts_many fun c letter => by simp [Char.isAlphanum, letter])

theorem word_halts : word.Halts isWord :=
  halts_andThen _ (halts_many fun c member => by simp [member])

theorem number_fits : number.Fits := by
  have zero : (char '0').Fits := fits_one _
  have digits : (run isDecimal).Fits := fits_run _
  have exponentFits : exponent.Fits :=
    fits_andThen (fits_andThen (fits_one _) (fits_optional (fits_one _))) digits
  have decimalFits : decimal.Fits :=
    fits_andThen (fits_andThen (fits_andThen (fits_one _) (fits_many _))
      (fits_optional (fits_andThen (fits_one _) digits))) (fits_optional exponentFits)
  have hexadecimalFits : hexadecimal.Fits :=
    fits_andThen (fits_andThen zero (fits_one _)) (fits_run _)
  have binaryFits : binary.Fits := fits_andThen (fits_andThen zero (fits_one _)) (fits_run _)
  exact fits_andThen (fits_orElse hexadecimalFits (fits_orElse binaryFits decimalFits))
    (fits_many _)

theorem number_advances : number.Advances := by
  have zero (second : Lexeme) : (char '0' ++ second).Advances := advances_andThen (advances_one _) _
  have decimalAdvances : decimal.Advances :=
    advances_andThen (advances_andThen (advances_andThen (advances_one _) _) _) _
  exact advances_andThen (advances_orElse (advances_andThen (zero _) _)
    (advances_orElse (advances_andThen (zero _) _) decimalAdvances)) _

theorem rules_fit : ∀ rule ∈ rules, rule.Fits := by
  have mark : (char '#').Fits := fits_one _
  have indented : ∀ kind lexeme, Lexeme.Fits lexeme → Rule.Fits (.atLineStart (.sequence
      [.skip (.many isIndent), .token kind lexeme])) := by
    intro kind lexeme fits
    refine Rule.fits_atLineStart (Rule.fits_sequence ?_)
    simp only [List.forall_mem_cons]
    exact ⟨Rule.fits_skip (fits_many _), Rule.fits_token fits _, List.forall_mem_nil _⟩
  have commentFits : comment.Fits :=
    fits_orElse (fits_andThen (fits_literal _) fits_restOfLine) (fits_blockComment _ _)
  have quotedFits : quoted.Fits :=
    fits_orElse (fits_escapedQuote _) (fits_orElse (fits_escapedQuote _) (fits_escapedQuote _))
  simp only [rules, List.forall_mem_cons]
  refine ⟨?_, ?_, ?_, ?_, ?_, ?_, ?_, ?_, ?_, ?_, List.forall_mem_nil _⟩
  · exact indented _ _ (fits_andThen (fits_andThen mark (fits_many _)) directiveName_fits)
  · exact indented _ _ (fits_andThen mark fits_restOfLine)
  · exact Rule.fits_token commentFits _
  · exact Rule.fits_token quotedFits _
  · exact Rule.fits_token number_fits _
  · exact Rule.fits_token (fits_andThen (fits_andThen (fits_one _) (fits_one _)) (fits_many _)) _
  · exact Rule.fits_classified (fits_andThen (fits_one _) (fits_many _)) _
  · exact Rule.fits_token (fits_one _) _
  · exact Rule.fits_token (fits_orElse (fits_anyOf _) (fits_one _)) _
  · exact Rule.fits_token (fits_one _) _

theorem rules_advance : ∀ rule ∈ rules, rule.Advances := by
  have indented : ∀ kind lexeme, Lexeme.Advances lexeme → Rule.Advances (.atLineStart (.sequence
      [.skip (.many isIndent), .token kind lexeme])) := by
    intro kind lexeme advances
    have own : (Rule.token kind lexeme).Advances := Rule.advances_token advances _
    exact Rule.advances_atLineStart (Rule.advances_sequence ⟨_, by simp, own⟩)
  have commentAdvances : comment.Advances :=
    advances_orElse (advances_andThen (advances_literal (by decide)) _)
      (advances_andThen (advances_literal (by decide)) _)
  have quote (c : Char) : (escapedQuote c).Advances := advances_andThen (advances_one _) _
  have mark (second : Lexeme) : (char '#' ++ second).Advances :=
    advances_andThen (advances_one _) _
  simp only [rules, List.forall_mem_cons]
  refine ⟨?_, ?_, ?_, ?_, ?_, ?_, ?_, ?_, ?_, ?_, List.forall_mem_nil _⟩
  · exact indented _ _ (advances_andThen (mark _) _)
  · exact indented _ _ (mark _)
  · exact Rule.advances_token commentAdvances _
  · exact Rule.advances_token (advances_orElse (quote _) (advances_orElse (quote _) (quote _))) _
  · exact Rule.advances_token number_advances _
  · exact Rule.advances_token (advances_andThen (advances_andThen (advances_one _) _) _) _
  · exact Rule.advances_classified (advances_andThen (advances_one _) _) _
  · exact Rule.advances_token (advances_one _) _
  · exact Rule.advances_token (advances_orElse (advances_anyOf (by decide)) (advances_one _)) _
  · exact Rule.advances_token (advances_one _) _

/-- The characters at which a word or a number is read, whatever stands before them. -/
def opensLexeme (c : Char) : Bool :=
  opensWord c || isDecimal c

theorem rules_seal : ∀ rule ∈ rules, rule.Seals opensLexeme Char.isAlpha := by
  have letters : ∀ c, c.isAlpha → isWord c := fun _ => isWord_of_isAlpha
  have commentSeals : comment.Seals opensLexeme Char.isAlpha := seals_starComment (by decide)
  have quote : ∀ c, opensLexeme c = false → (escapedQuote c).Seals opensLexeme Char.isAlpha :=
    fun _ outside => seals_of_enquoted (fun _ _ => enquoted_of_reads_escapedQuote) outside
  have quotedSeals : quoted.Seals opensLexeme Char.isAlpha :=
    seals_orElse (quote _ (by decide)) (seals_orElse (quote _ (by decide)) (quote _ (by decide)))
  have decoratorHalts : decorator.Halts Char.isAlpha :=
    halts_andThen _ (halts_many fun c letter => by simp [letters c letter])
  simp only [rules, List.forall_mem_cons]
  refine ⟨?_, ?_, ?_, ?_, ?_, ?_, ?_, ?_, ?_, ?_, List.forall_mem_nil _⟩
  · exact Rule.seals_atLineStart
      (Rule.seals_indented ((halts_andThen _ directiveName_halts).mono letters) _ _)
  · exact Rule.seals_atLineStart (Rule.seals_indented (halts_andThen _ halts_restOfLine) _ _)
  · exact Rule.seals_token commentSeals _
  · exact Rule.seals_token quotedSeals _
  · exact Rule.seals_token (number_halts.seals _) _
  · exact Rule.seals_token (decoratorHalts.seals _) _
  · exact Rule.seals_classified ((word_halts.mono letters).seals _) _
  · exact Rule.seals_token (seals_oneOf (by decide)) _
  · exact Rule.seals_token (seals_orElse (seals_anyOf (by decide)) (seals_oneOf (by decide))) _
  · exact Rule.seals_token (seals_oneOf (by decide)) _

/-- A directive is a keyword that a number sign opens. -/
theorem directive_readsWords : directive.ReadsWords := by
  intro before offset segments rest read
  obtain ⟨blanks, text, rfl, reads⟩ := read.of_atLineStart.of_indented
  right
  obtain ⟨front, name, rfl, frontRead, -⟩ := reads_andThen_iff.mp reads
  obtain ⟨mark, gap, rfl, markRead, -⟩ := reads_andThen_iff.mp frontRead
  obtain ⟨c, rfl, isMark⟩ := reads_one_iff.mp markRead
  obtain rfl : c = '#' := by simpa using isMark
  simp [Segment.plain, Segment.labelled]

theorem rules_readWords : ∀ rule ∈ rules, rule.ReadsWords := by
  have hashCommentWithin : hashComment.Within (· ∉ wordKinds) := by
    refine Rule.atLineStart_within (Rule.sequence_within ?_)
    simp only [List.forall_mem_cons]
    exact ⟨Rule.skip_within _, Rule.token_within (by decide) _, List.forall_mem_nil _⟩
  simp only [rules, List.forall_mem_cons]
  refine ⟨?_, ?_, ?_, ?_, ?_, ?_, ?_, ?_, ?_, ?_, List.forall_mem_nil _⟩
  · exact directive_readsWords
  · exact Rule.readsWords_of_within hashCommentWithin
  · exact Rule.readsWords_token (by decide) _
  · exact Rule.readsWords_token (by decide) _
  · exact Rule.readsWords_token (by decide) _
  · exact Rule.readsWords_token (by decide) _
  · exact Rule.readsWords_classified wordKind?_letter word_halts
  · exact Rule.readsWords_token (by decide) _
  · exact Rule.readsWords_token (by decide) _
  · exact Rule.readsWords_token (by decide) _

theorem rules_occur {c : Char} (opened : opensLexeme c) (before : Option Char) (offset : Nat)
    (rest : List Char) : Rule.firstOf rules ⟨before, offset, c :: rest⟩ ≠ none := by
  rcases Bool.or_eq_true_iff.mp opened with letter | digit
  · have listed : .classified wordKind? word ∈ rules := by simp [rules]
    have first : (one fun c => c.isAlpha || c == '_' || c == '$').Reads [c] rest :=
      reads_one letter rest
    obtain ⟨length, read⟩ := exists_length?_andThen_many first fun c => isWord c || c == '$'
    exact Rule.firstOf_ne_none listed (Rule.classified_ne_none read _)
  · have listed : .token .number number ∈ rules := by simp [rules]
    have magnitude : IsMagnitude (c :: ([] ++ ([] ++ []))) :=
      .decimal digit (List.forall_mem_nil _) .missing .missing
    obtain ⟨count, -, first⟩ := covers_magnitude magnitude rest
    obtain ⟨length, read⟩ := exists_length?_andThen_many first Char.isAlphanum
    have numberRead : number.length? (c :: rest) = some length := read
    exact Rule.firstOf_ne_none listed (Rule.classified_ne_none numberRead fun _ => some .number)

theorem rules_keepApart : KeepsApart rules opensLexeme where
  fits := rules_fit
  advances := rules_advance
  occurs := rules_occur
  seals := rules_seal
  words := rules_readWords

end Grammar.Program

/-- In every line of SQL and of program source, no word character comes behind a keyword, a boolean
or a null that is a word. No letter of ASCII and no underscore stands before it, and in program
source no digit. -/
theorem words_stand_apart {language : Language} (known : language = .sql ∨ language = .code)
    {line : String} {front behind : List Token} {token : Token}
    (isWordKind : token.kind ∈ [.keyword, .boolean, .null])
    (letter : token.text.toList.head?.any Char.isAlpha)
    (split : tokenize language line = front ++ token :: behind) :
    Lexeme.Stops isWord (characters behind) ∧
      ∀ c ∈ (characters front).getLast?,
        c.isAlpha = false ∧ c ≠ '_' ∧ (language = .code → isDecimal c = false) := by
  have unsigned : token.text.toList.head? ≠ some '#' := by
    intro sign
    rw [sign] at letter
    contradiction
  rcases known with rfl | rfl
  · obtain ⟨stops, outside⟩ := Grammar.Query.rules_keepApart.word isWordKind unsigned split
    refine ⟨stops, ?_⟩
    intro c last
    have opensNothing := outside c last
    simpa [Grammar.Query.opensWord] using opensNothing
  · obtain ⟨stops, outside⟩ := Grammar.Program.rules_keepApart.word isWordKind unsigned split
    refine ⟨stops, ?_⟩
    intro c last
    have opensNothing := outside c last
    simp only [Grammar.Program.opensLexeme, Grammar.Program.opensWord, Bool.or_eq_false_iff,
      beq_eq_false_iff_ne] at opensNothing
    obtain ⟨⟨⟨noLetter, noUnderscore⟩, -⟩, noDigit⟩ := opensNothing
    exact ⟨noLetter, noUnderscore, fun _ => noDigit⟩

/-- A word that only starts like a keyword is none, and one in brackets is read. -/
theorem word_of_call :
    tokenize .code "if_(new X)" =
        [⟨.text, "if_"⟩, ⟨.bracket, "("⟩, ⟨.keyword, "new"⟩, ⟨.text, " X"⟩, ⟨.bracket, ")"⟩] ∧
      Lexeme.Stops isWord " X)".toList ∧ isDecimal '(' = false := by
  let front : List Token := [⟨.text, "if_"⟩, ⟨.bracket, "("⟩]
  let behind : List Token := [⟨.text, " X"⟩, ⟨.bracket, ")"⟩]
  have tokens : tokenize .code "if_(new X)" = front ++ ⟨.keyword, "new"⟩ :: behind := by
    decide +kernel
  obtain ⟨stops, outside⟩ := words_stand_apart (.inr rfl) (by decide) (by decide) tokens
  exact ⟨tokens, stops, (outside '(' rfl).2.2 rfl⟩

/-- A name that an accented letter opens is cut behind that letter, and what is left of it can be a
keyword. -/
theorem keyword_inside_accented_name :
    tokenize .sql "éorder" = [⟨.text, "é"⟩, ⟨.keyword, "order"⟩] ∧ isWord 'é' := by
  decide +kernel

end Highlight
