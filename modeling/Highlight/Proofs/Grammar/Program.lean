import Highlight.Grammar.Program
import Highlight.Proofs.Delimited
import Highlight.Proofs.Grammar.Joined
import Highlight.Proofs.Spelling

/-!
The lexemes of program source. Each is read as a whole between spaces, whatever it contains: no
rule cuts a number or an operator short, and none looks into a text in quotes or into a comment.
-/

set_option autoImplicit false

namespace Highlight.Grammar.Program

open Text Text.Lexeme

/-! ## Lexemes -/

inductive IsExponent : List Char → Prop
  | missing : IsExponent []
  | present {mark : Char} {sign digits : List Char} : mark ∈ ['e', 'E'] →
      sign ∈ [[], ['+'], ['-']] → IsDecimals digits → IsExponent (mark :: (sign ++ digits))

/-- A number without the letters and digits of a suffix. -/
inductive IsMagnitude : List Char → Prop
  | hexadecimal {mark : Char} {digits : List Char} : mark ∈ ['x', 'X'] → digits ≠ [] →
      (∀ c ∈ digits, isHexDigit c || c == '_') → IsMagnitude ('0' :: mark :: digits)
  | binary {mark : Char} {digits : List Char} : mark ∈ ['b', 'B'] → digits ≠ [] →
      (∀ c ∈ digits, ['0', '1', '_'].contains c) → IsMagnitude ('0' :: mark :: digits)
  | decimal {c : Char} {digits fraction exponent : List Char} : isDecimal c →
      (∀ d ∈ digits, isDecimal d || d == '_') → IsDecimalPart fraction → IsExponent exponent →
      IsMagnitude (c :: (digits ++ (fraction ++ exponent)))

def IsNumber (text : List Char) : Prop :=
  ∃ magnitude suffix, text = magnitude ++ suffix ∧ IsMagnitude magnitude ∧
    ∀ c ∈ suffix, c.isAlphanum

def opensWord (c : Char) : Bool :=
  c.isAlpha || c == '_' || c == '$'

def quotes : List Char :=
  ['\"', '\x60', '\'']

def brackets : List Char :=
  ['{', '}', '(', ')', '[', ']']

/-- The operators of one character, with which the longer ones open as well. -/
def marks : List Char :=
  ['-', '+', '*', '/', '%', '=', '<', '>', '!', '&', '|', '^', '~', '?', ':']

def operators : List String :=
  ["=>", "->", "::", "===", "!==", "==", "!=", "<=", ">=", "&&", "||", "++", "--"] ++
    marks.map Char.toString

def punctuation : List Char :=
  [';', ',', '.']

/-- A lexeme of program source, with the kind that it is to have. Names that no list holds have
none. -/
inductive IsLexeme : Segment → Prop
  | quoted {quote : Char} {text : List Char} : quote ∈ quotes →
      Enquoted quote (EscapedBody quote) text → IsLexeme (.labelled .string text)
  | number {text : List Char} : IsNumber text → IsLexeme (.labelled .number text)
  | comment {body : List Char} : ¬"*/".toList <:+: body →
      IsLexeme (.labelled .comment ("/*".toList ++ (body ++ "*/".toList)))
  | decorator {name : List Char} :
      IsName (fun c => c.isAlpha || c == '_') (fun c => isWord c || c == '.') name →
      IsLexeme (.labelled .attribute ('@' :: name))
  | keyword {word : String} : word ∈ keywords → IsLexeme (.labelled .keyword word.toList)
  | boolean {word : String} : word ∈ booleans → IsLexeme (.labelled .boolean word.toList)
  | null {word : String} : word ∈ nulls → IsLexeme (.labelled .null word.toList)
  | name {text : List Char} : IsName opensWord (fun c => isWord c || c == '$') text →
      String.ofList text ∉ keywords ++ (booleans ++ nulls) → IsLexeme (.plain text)
  | bracket {c : Char} : c ∈ brackets → IsLexeme (.labelled .bracket [c])
  | operator {spelled : String} : spelled ∈ operators →
      IsLexeme (.labelled .operator spelled.toList)
  | punctuation {c : Char} : c ∈ punctuation → IsLexeme (.labelled .punctuation [c])

/-! ## First characters -/

def classes : List (Char → Bool) :=
  [[' ', '\t', '#'].contains, [' ', '\t', '#'].contains, ['/'].contains, quotes.contains,
    isDecimal, ['@'].contains, opensWord, brackets.contains, marks.contains, punctuation.contains]

theorem rules_open : List.Forall₂ Rule.OpensWith classes rules := by
  have indented : ∀ c, isIndent c → [' ', '\t', '#'].contains c := by
    simp [isIndent]
  have mark : (char '#').OpensWith [' ', '\t', '#'].contains :=
    (opensWith_one _).mono (by simp)
  have slash : comment.OpensWith ['/'].contains :=
    opensWith_orElse (opensWith_andThen (opensWith_literal rfl) _)
      (opensWith_andThen (opensWith_literal rfl) _)
  have quote : ∀ c ∈ quotes, (escapedQuote c).OpensWith quotes.contains := fun c member =>
    opensWith_andThen ((opensWith_one _).mono (by simpa using member)) _
  have zero : ∀ second : Lexeme, (char '0' ++ second).OpensWith isDecimal := fun second =>
    opensWith_andThen ((opensWith_one _).mono (by simpa using (by decide : isDecimal '0'))) _
  refine .cons ?_ <| .cons ?_ <| .cons ?_ <| .cons ?_ <| .cons ?_ <| .cons ?_ <| .cons ?_ <|
    .cons ?_ <| .cons ?_ <| .cons ?_ .nil
  · exact Rule.opensWith_atLineStart (Rule.opensWith_sequence_skip indented
      (Rule.opensWith_token (opensWith_andThen (opensWith_andThen mark _) _) _) _)
  · exact Rule.opensWith_atLineStart (Rule.opensWith_sequence_skip indented
      (Rule.opensWith_token (opensWith_andThen mark _) _) _)
  · exact Rule.opensWith_token slash _
  · exact Rule.opensWith_token (opensWith_orElse (quote _ (by decide))
      (opensWith_orElse (quote _ (by decide)) (quote _ (by decide)))) _
  · have digit : (one isDecimal).OpensWith isDecimal := opensWith_one _
    exact Rule.opensWith_token (opensWith_andThen (opensWith_orElse (opensWith_andThen (zero _) _)
      (opensWith_orElse (opensWith_andThen (zero _) _) (opensWith_andThen (opensWith_andThen
        (opensWith_andThen digit _) _) _))) _) _
  · exact Rule.opensWith_token (opensWith_andThen (opensWith_andThen
      ((opensWith_one _).mono (by simp)) _) _) _
  · exact Rule.opensWith_classified (opensWith_andThen (opensWith_one opensWord) _) _
  · exact Rule.opensWith_token (opensWith_one _) _
  · exact Rule.opensWith_token (opensWith_orElse (opensWith_anyOf (by decide))
      (opensWith_one marks.contains)) _
  · exact Rule.opensWith_token (opensWith_one _) _

theorem passesSpaces_rules : PassesSpaces rules := by
  intro c offset rest
  have directiveMissing : directive ⟨some c, offset, ' ' :: rest⟩ = none := rfl
  have hashMissing : hashComment ⟨some c, offset, ' ' :: rest⟩ = none := rfl
  rw [rules, Rule.firstOf_cons_of_none directiveMissing, Rule.firstOf_cons_of_none hashMissing]
  exact Rule.firstOf_of_opens (List.forall₂_drop 2 rules_open) 8 (by decide) rest (some c) offset

/-! ## Numbers -/

section Numbers

variable {text rest : List Char}

theorem covers_exponent (isExponent : IsExponent text) (rest : List Char) :
    (optional exponent).Covers text rest := by
  cases isExponent with
  | missing => exact ⟨_, Nat.zero_le _, rfl⟩
  | @present mark sign digits isMark isSign isDecimals =>
    have markRead : (oneOf ['e', 'E']).Reads [mark] (sign ++ (digits ++ rest)) :=
      reads_one (by simpa using isMark) _
    have signRead : (optional (oneOf ['+', '-'])).Reads sign (digits ++ rest) := by
      simp only [List.mem_cons, List.not_mem_nil, or_false] at isSign
      rcases isSign with rfl | rfl | rfl
      · obtain ⟨c, others, rfl⟩ := List.exists_cons_of_ne_nil isDecimals.1
        exact reads_optional_of_misses (misses_one
          (stops_of_excluded isDecimal (isDecimals.2 c (by simp)) (by decide) _))
      · exact reads_optional (reads_one rfl _)
      · exact reads_optional (reads_one rfl _)
    have front := reads_andThen markRead signRead
    have whole := covers_andThen front (covers_run isDecimals.1 isDecimals.2 rest)
    refine covers_optional ?_
    simpa [exponent] using whole

/-- The digits of a number end where a fraction or an exponent starts. -/
theorem stops_of_present {fraction exponent : List Char} (isFraction : IsDecimalPart fraction)
    (isExponent : IsExponent exponent) (present : fraction ++ exponent ≠ []) (rest : List Char) :
    Stops (fun d => isDecimal d || d == '_') (fraction ++ (exponent ++ rest)) := by
  have outside : ∀ c ∈ ['.', 'e', 'E'], (isDecimal c || c == '_') = false :=
    forall_mem_of_all (by decide)
  cases isFraction with
  | present isDecimals => simpa [Stops] using outside '.' (by simp)
  | missing =>
    cases isExponent with
    | missing => simp at present
    | @present mark _ _ isMark =>
      simpa [Stops] using outside mark (List.mem_cons_of_mem '.' isMark)

theorem covers_decimal {c : Char} {digits fraction exponent : List Char} (digit : isDecimal c)
    (isDigits : ∀ d ∈ digits, isDecimal d || d == '_') (isFraction : IsDecimalPart fraction)
    (isExponent : IsExponent exponent) (rest : List Char) :
    decimal.Covers (c :: (digits ++ (fraction ++ exponent))) rest := by
  have first : ∀ rest, (one isDecimal).Reads [c] rest := reads_one digit
  have front : fraction ++ exponent ≠ [] →
      (one isDecimal ++ many fun d => isDecimal d || d == '_').Reads (c :: digits)
        (fraction ++ (exponent ++ rest)) := fun present =>
    reads_andThen (first _) (reads_many isDigits (stops_of_present isFraction isExponent present _))
  have whole : decimal.Covers ((c :: digits) ++ (fraction ++ exponent)) rest := by
    cases isExponent with
    | missing =>
      refine covers_andThen_optional ?_ _
      cases isFraction with
      | missing =>
        refine covers_andThen_optional ?_ _
        simpa using covers_andThen (first _) (covers_many isDigits rest)
      | @present fractionDigits isDecimals =>
        have point : (char '.').Reads ['.'] (fractionDigits ++ rest) := reads_one rfl _
        have fractionCovers := covers_optional
          (covers_andThen point (covers_run isDecimals.1 isDecimals.2 rest))
        simpa using covers_andThen (front (by simp)) fractionCovers
    | @present mark sign exponentDigits isMark isSign isDecimals =>
      have outside : ∀ d ∈ ['e', 'E'], (d == '.') = false ∧ isDecimal d = false :=
        forall_mem_of_all (by decide)
      have fractionRead : (optional (char '.' ++ run isDecimal)).Reads fraction
          (mark :: (sign ++ exponentDigits) ++ rest) :=
        reads_decimalPart isFraction (by simpa [Stops] using (outside mark isMark).1)
          (by simpa [Stops] using (outside mark isMark).2)
      have exponentCovers := covers_exponent (.present isMark isSign isDecimals) rest
      rw [← List.append_assoc]
      exact covers_andThen (reads_andThen (front (by simp)) fractionRead) exponentCovers
  simpa using whole

theorem number_avoids : (hexadecimal <|> binary <|> decimal).Avoids ' ' := by
  have zero : (char '0').Avoids ' ' := avoids_one (by decide)
  have digits : (run isDecimal).Avoids ' ' := avoids_run (by decide)
  have exponentAvoids : exponent.Avoids ' ' := avoids_andThen (avoids_andThen
    (avoids_one (by decide)) (avoids_optional (avoids_one (by decide)))) digits
  refine avoids_orElse ?_ (avoids_orElse ?_ ?_)
  · exact avoids_andThen (avoids_andThen zero (avoids_one (by decide))) (avoids_run (by decide))
  · exact avoids_andThen (avoids_andThen zero (avoids_one (by decide))) (avoids_run (by decide))
  · exact avoids_andThen (avoids_andThen (avoids_andThen (avoids_one (by decide))
      (avoids_many (by decide))) (avoids_optional (avoids_andThen (avoids_one (by decide)) digits)))
      (avoids_optional exponentAvoids)

/-- Where a decimal number could be read as one of another base, it is a lone digit that goes on
with a suffix. -/
theorem length_le_of_prefixed {marks : List Char} {isMember : Char → Bool} {c : Char}
    (plain : Stops marks.contains text) {count : Nat}
    (read : (char '0' ++ oneOf marks ++ run isMember).length? (c :: text ++ rest) = some count) :
    (c :: text).length ≤ count := by
  obtain ⟨front, within, frontRead⟩ := exists_of_andThen read
  cases text with
  | nil =>
    obtain ⟨taken, below, zeroRead⟩ := exists_of_andThen frontRead
    have single : 1 = taken := by
      by_cases isZero : c = '0' <;> simp_all [char, one]
    simp only [List.length_singleton]
    omega
  | cons d others =>
    have missing : (char '0' ++ oneOf marks).Misses (c :: d :: (others ++ rest)) := by
      have markMissing : (oneOf marks).Misses (d :: (others ++ rest)) :=
        misses_one (by simpa [Stops] using plain)
      by_cases isZero : c = '0'
      · have zeroRead : (char '0').Reads [c] (d :: (others ++ rest)) :=
          reads_one (by simpa using isZero) _
        exact misses_andThen_of_reads zeroRead markMissing
      · exact misses_andThen (misses_one (by simpa [Stops] using isZero)) _
    rw [Misses] at missing
    simp [missing] at frontRead

theorem covers_prefixed {marks digits : List Char} {isMember : Char → Bool} {mark : Char}
    (isMark : mark ∈ marks) (present : digits ≠ []) (isDigits : ∀ c ∈ digits, isMember c)
    (rest : List Char) :
    (char '0' ++ oneOf marks ++ run isMember).Covers ('0' :: mark :: digits) rest := by
  have zeroRead : (char '0').Reads ['0'] ([mark] ++ (digits ++ rest)) := reads_one rfl _
  have markRead : (oneOf marks).Reads [mark] (digits ++ rest) := reads_one (by simpa) _
  exact covers_andThen (reads_andThen zeroRead markRead) (covers_run present isDigits rest)

/-- No digits, fraction or exponent open like the mark of another base. -/
theorem stops_baseMark {digits fraction exponent : List Char}
    (isDigits : ∀ d ∈ digits, isDecimal d || d == '_') (isFraction : IsDecimalPart fraction)
    (isExponent : IsExponent exponent) :
    Stops ['x', 'X', 'b', 'B'].contains (digits ++ (fraction ++ exponent)) := by
  cases digits with
  | cons d digits =>
    exact stops_of_excluded (fun d => isDecimal d || d == '_') (isDigits d (by simp)) (by decide) _
  | nil =>
    cases isFraction with
    | present isDecimals => simp [Stops]
    | missing =>
      cases isExponent with
      | missing => simp [Stops]
      | @present mark _ _ isMark =>
        have outside : ∀ d ∈ ['e', 'E'], ['x', 'X', 'b', 'B'].contains d = false :=
          forall_mem_of_all (by decide)
        simpa [Stops] using outside mark isMark

theorem covers_magnitude (isMagnitude : IsMagnitude text) (rest : List Char) :
    (hexadecimal <|> binary <|> decimal).Covers text rest := by
  cases isMagnitude with
  | hexadecimal isMark present isDigits =>
    exact covers_orElse_left (covers_prefixed isMark present isDigits rest) _
  | @binary mark digits isMark present isDigits =>
    have outside : ∀ d ∈ ['b', 'B'], ['x', 'X'].contains d = false :=
      forall_mem_of_all (by decide)
    have plain : Stops ['x', 'X'].contains (mark :: digits) := by
      simpa [Stops] using outside mark isMark
    exact covers_orElse (fun count read => length_le_of_prefixed plain read)
      (covers_orElse_left (covers_prefixed isMark present isDigits rest) _)
  | @decimal c digits fraction exponent digit isDigits isFraction isExponent =>
    have plain := stops_baseMark isDigits isFraction isExponent
    refine covers_orElse (fun count read => length_le_of_prefixed (plain.mono ?_) read)
      (covers_orElse (fun count read => length_le_of_prefixed (plain.mono ?_) read) ?_)
    · simp +contextual
    · simp +contextual
    · exact covers_decimal digit isDigits isFraction isExponent rest

theorem reads_number (isNumber : IsNumber text) (ends : AtSpace rest.head?) :
    number.Reads text rest := by
  obtain ⟨magnitude, suffix, rfl, isMagnitude, isSuffix⟩ := isNumber
  exact reads_of_covers (covers_magnitude isMagnitude _) number_avoids isSuffix (by decide) ends

end Numbers

/-! ## Lexemes between spaces -/

section Lexemes

variable {segment : Segment} {before : Option Char} {text rest : List Char}

theorem reads_quoted {quote : Char} (isQuote : quote ∈ quotes)
    (enquoted : Enquoted quote (EscapedBody quote) text) (rest : List Char) :
    quoted.Reads text rest := by
  have noBackslash : ∀ c ∈ quotes, c ≠ '\\' := forall_mem_of_all (by decide)
  have own := reads_escapedQuote (noBackslash quote isQuote) enquoted rest
  obtain ⟨body, rfl, -⟩ := enquoted
  have other : ∀ c, quote ≠ c → (escapedQuote c).Misses (quote :: (body ++ [quote]) ++ rest) :=
    fun c different => misses_andThen (misses_one (by simpa [Stops])) _
  simp only [quotes, List.mem_cons, List.not_mem_nil, or_false] at isQuote
  rcases isQuote with rfl | rfl | rfl
  · exact reads_orElse (.inl own)
  · exact reads_orElse (.inr ⟨other _ (by decide), reads_orElse (.inl own)⟩)
  · exact reads_orElse (.inr ⟨other _ (by decide),
      reads_orElse (.inr ⟨other _ (by decide), own⟩)⟩)

theorem IsNumber.head (isNumber : IsNumber text) : ∃ c, text.head? = some c ∧ isDecimal c := by
  obtain ⟨magnitude, suffix, rfl, isMagnitude, -⟩ := isNumber
  cases isMagnitude with
  | hexadecimal | binary => exact ⟨'0', rfl, by decide⟩
  | decimal digit => exact ⟨_, rfl, digit⟩

theorem isDecimal_of_opensWord {c : Char} (opens : opensWord c) : isDecimal c = false := by
  simp only [opensWord, Bool.or_eq_true, beq_iff_eq] at opens
  rcases opens with (letter | rfl) | rfl
  · exact isDecimal_of_isAlpha letter
  · rfl
  · rfl

theorem wordKind?_of_keyword {word : String} (listed : word ∈ keywords) :
    wordKind? word.toList = some .keyword := by
  simp [wordKind?, listed]

theorem wordKind?_of_boolean {word : String} (listed : word ∈ booleans) :
    wordKind? word.toList = some .boolean := by
  have other : word ∉ keywords := (by decide : ∀ word ∈ booleans, word ∉ keywords) word listed
  simp [wordKind?, listed, other]

theorem wordKind?_of_null {word : String} (listed : word ∈ nulls) :
    wordKind? word.toList = some .null := by
  have other : word ∉ keywords ∧ word ∉ booleans :=
    (by decide : ∀ word ∈ nulls, word ∉ keywords ∧ word ∉ booleans) word listed
  simp [wordKind?, listed, other]

theorem wordKind?_of_unlisted
    (unlisted : String.ofList text ∉ keywords ++ (booleans ++ nulls)) : wordKind? text = none := by
  simp only [List.mem_append, not_or] at unlisted
  simp [wordKind?, unlisted]

theorem readsSpaced_word (isName : IsName opensWord (fun c => isWord c || c == '$') text)
    {kind? : Option TokenKind} (kind : wordKind? text = kind?) :
    ReadsSpaced rules ⟨kind?, text⟩ := by
  intro before rest atSpace ends
  have reads : word.Reads text rest := reads_name isName (stops_of_atSpace ends (by decide))
  obtain ⟨c, others, rfl, opens, -⟩ := isName
  refine readsWhole_of_rule rules_open 6 rfl rfl ?_ fun offset => ?_
  · have unmarked : ∀ marks : List Char, marks.all (fun mark => !opensWord mark) →
        marks.contains c = false := fun _ => not_contains opensWord opens
    simp only [classes, List.take_succ_cons, List.take_zero, List.forall_mem_cons]
    exact ⟨unmarked _ (by decide), unmarked _ (by decide), unmarked _ (by decide),
      unmarked _ (by decide), isDecimal_of_opensWord opens, unmarked _ (by decide),
      List.forall_mem_nil _⟩
  · rw [Rule.classified_of_reads reads, kind]
    rfl

theorem readsSpaced_number (isNumber : IsNumber text) :
    ReadsSpaced rules (.labelled .number text) := by
  intro before rest atSpace ends
  obtain ⟨c, head, digit⟩ := isNumber.head
  refine readsWhole_of_rule rules_open 4 rfl head ?_ fun offset =>
    Rule.token_of_reads (reads_number isNumber ends) _
  have unmarked : ∀ marks : List Char, marks.all (fun mark => !isDecimal mark) →
      marks.contains c = false := fun _ => not_contains isDecimal digit
  simp only [classes, List.take_succ_cons, List.take_zero, List.forall_mem_cons]
  exact ⟨unmarked _ (by decide), unmarked _ (by decide), unmarked _ (by decide),
    unmarked _ (by decide), List.forall_mem_nil _⟩

theorem readsSpaced_quoted {quote : Char} (isQuote : quote ∈ quotes)
    (enquoted : Enquoted quote (EscapedBody quote) text) :
    ReadsSpaced rules (.labelled .string text) := by
  intro before rest atSpace ends
  have reads := reads_quoted isQuote enquoted rest
  obtain ⟨body, rfl, -⟩ := enquoted
  have elsewhere : ∀ c ∈ quotes, ∀ isMember ∈ classes.take 3, isMember c = false :=
    forall_mem_of_all (by decide)
  exact readsWhole_of_rule rules_open 3 rfl rfl (elsewhere quote isQuote) fun offset =>
    Rule.token_of_reads reads _

theorem readsSpaced_comment {body : List Char} (absent : ¬"*/".toList <:+: body)
    (oneLine : '\n' ∉ body) :
    ReadsSpaced rules (.labelled .comment ("/*".toList ++ (body ++ "*/".toList))) := by
  intro before rest _ _
  have reads : comment.Reads ("/*".toList ++ (body ++ "*/".toList)) rest :=
    reads_starComment rfl absent oneLine
  exact readsWhole_of_rule rules_open 2 rfl rfl (by decide) fun offset =>
    Rule.token_of_reads reads _

theorem readsSpaced_decorator {name : List Char}
    (isName : IsName (fun c => c.isAlpha || c == '_') (fun c => isWord c || c == '.') name) :
    ReadsSpaced rules (.labelled .attribute ('@' :: name)) := by
  intro before rest atSpace ends
  obtain ⟨c, others, rfl, opens, continues⟩ := isName
  have sign : (char '@').Reads ['@'] ([c] ++ (others ++ rest)) := reads_one rfl _
  have opening : (one fun c => c.isAlpha || c == '_').Reads [c] (others ++ rest) :=
    reads_one opens _
  have front := reads_andThen sign opening
  have reads : decorator.Reads ('@' :: c :: others) rest :=
    reads_andThen front (reads_many continues (stops_of_atSpace ends (by decide)))
  exact readsWhole_of_rule rules_open 5 rfl rfl (by decide) fun offset =>
    Rule.token_of_reads reads _

/-- An operator is read to its end, and is not the start of a comment, where a space follows. -/
theorem reads_operator {spelled : String} (listed : spelled ∈ operators)
    (ends : AtSpace rest.head?) :
    comment.Misses (spelled.toList ++ rest) ∧ operator.Reads spelled.toList rest := by
  have all : ∀ spelled ∈ operators,
      comment.Misses (spelled.toList ++ rest) ∧ operator.Reads spelled.toList rest := by
    cases rest with
    | nil => decide
    | cons c rest =>
      obtain rfl := ends c rfl
      exact forall_mem_of_all rfl
  exact all spelled listed

theorem readsSpaced_operator {spelled : String} (listed : spelled ∈ operators) :
    ReadsSpaced rules (.labelled .operator spelled.toList) := by
  have opening : ∀ spelled ∈ operators, spelled.toList.head?.any (· ∈ marks) :=
    forall_mem_of_all (by decide)
  -- Comments open with the slash as well.
  exact readsSpaced_behind rules_open 2 5 rfl rfl (by decide) (opening spelled listed)
    fun _ ends => reads_operator listed ends

theorem isName_of_listed {word : String} (listed : word ∈ keywords ++ (booleans ++ nulls)) :
    IsName opensWord (fun c => isWord c || c == '$') word.toList := by
  have all : ∀ word ∈ keywords ++ (booleans ++ nulls),
      word.toList.head?.any opensWord ∧ word.toList.tail.all fun c => isWord c || c == '$' := by
    decide +kernel
  exact isName_of_all (all word listed).1 (all word listed).2

/-- Each lexeme is read as a whole between spaces. -/
theorem readsSpaced_of_isLexeme (isLexeme : IsLexeme segment) (oneLine : '\n' ∉ segment.text) :
    ReadsSpaced rules segment := by
  cases isLexeme with
  | quoted isQuote enquoted => exact readsSpaced_quoted isQuote enquoted
  | number isNumber => exact readsSpaced_number isNumber
  | comment absent => exact readsSpaced_comment absent (by simp_all [Segment.labelled])
  | decorator isName => exact readsSpaced_decorator isName
  | keyword listed =>
    exact readsSpaced_word (isName_of_listed (by simp [listed])) (wordKind?_of_keyword listed)
  | boolean listed =>
    exact readsSpaced_word (isName_of_listed (by simp [listed])) (wordKind?_of_boolean listed)
  | null listed =>
    exact readsSpaced_word (isName_of_listed (by simp [listed])) (wordKind?_of_null listed)
  | name isName unlisted => exact readsSpaced_word isName (wordKind?_of_unlisted unlisted)
  | bracket isBracket => exact readsSpaced_oneOf rules_open 7 rfl (by decide) isBracket
  | operator listed => exact readsSpaced_operator listed
  | punctuation isPunctuation =>
    exact readsSpaced_oneOf rules_open 9 rfl (by decide) isPunctuation

theorem readsWhole_lineComment {body : List Char} (oneLine : '\n' ∉ body) (before : Option Char) :
    ReadsWhole rules (.labelled .comment ("//".toList ++ body)) before [] := by
  have opened := reads_literal "//" (body ++ [])
  have reads : comment.Reads ("//".toList ++ body) [] :=
    reads_orElse (.inl (reads_andThen opened (reads_restOfLine oneLine)))
  exact readsWhole_of_rule rules_open 2 rfl rfl (by decide) fun offset =>
    Rule.token_of_reads reads _

end Lexemes

end Highlight.Grammar.Program
