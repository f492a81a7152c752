import Highlight.Grammar.Json
import Highlight.Proofs.Json.Grammar
import Highlight.Proofs.Lexemes

/-!
The rules that label JSON, at each lexical token. One rule reads the token and nothing of what comes
after it, and no rule reads anything at a blank.
-/

set_option autoImplicit false

namespace Highlight.Grammar.Json

open Text
open Text.Lexeme
open Highlight.Json
open Highlight.Json.Cursor (isSpace)

/-! ## What comes after a token -/

/-- Text after a value: blanks, and then the end, a comma or a closing bracket. -/
def AfterValue (text : List Char) : Prop :=
  ∃ blanks rest, (∀ c ∈ blanks, isSpace c) ∧ (∀ c ∈ rest.head?, c ∈ [',', ']', '}']) ∧
    text = blanks ++ rest

/-- Text before which a quoted text is a key. -/
def BeforeColon (text : List Char) : Prop :=
  ∃ blanks rest, (∀ c ∈ blanks, isSpace c) ∧ text = blanks ++ ':' :: rest

theorem isSpace_cases {c : Char} (blank : isSpace c) : c ∈ [' ', '\n', '\t', '\r'] := by
  simpa [isSpace, or_assoc] using blank

theorem isBlank_of_isSpace {c : Char} (blank : isSpace c) : isBlank c := by
  have blanks : ∀ c ∈ [' ', '\n', '\t', '\r'], isBlank c := forall_mem_of_all (by decide)
  exact blanks c (isSpace_cases blank)

namespace AfterValue

variable {text line : List Char}

theorem of_blanks (blank : ∀ c ∈ text, isSpace c) : AfterValue text :=
  ⟨text, [], blank, by simp, by simp⟩

theorem of_isPrefix (after : AfterValue text) (starts : line <+: text) : AfterValue line := by
  obtain ⟨blanks, rest, blank, ends, rfl⟩ := after
  obtain ⟨more, same⟩ := starts
  obtain ⟨others, rfl, -⟩ | ⟨others, rfl, rest_eq⟩ := List.append_eq_append_iff.mp same
  · exact of_blanks fun c member => blank c (List.mem_append_left others member)
  · refine ⟨blanks, others, blank, fun c head => ends c ?_, rfl⟩
    simp [rest_eq, List.head?_append, Option.mem_def.mp head]

/-- A value is not followed by anything that could belong to it. -/
theorem stops (after : AfterValue text) {isMember : Char → Bool}
    (excluded : [' ', '\n', '\t', '\r', ',', ']', '}'].all (!isMember ·)) :
    Stops isMember text := by
  obtain ⟨blanks, rest, blank, ends, rfl⟩ := after
  intro c head
  suffices present : c ∈ [' ', '\n', '\t', '\r', ',', ']', '}'] by
    simpa using List.all_eq_true.mp excluded c present
  cases blanks with
  | nil => exact List.mem_append_right [' ', '\n', '\t', '\r'] (ends c (by simpa using head))
  | cons d blanks =>
    obtain rfl : d = c := by simpa using head
    exact List.mem_append_left [',', ']', '}'] (isSpace_cases (blank d (by simp)))

/-- No colon comes next after a value, whatever blanks are passed over. -/
theorem stops_colon (after : AfterValue text) :
    ∃ blanks rest, (∀ c ∈ blanks, isBlank c) ∧ Stops isBlank rest ∧ Stops (· == ':') rest ∧
      text = blanks ++ rest := by
  obtain ⟨blanks, rest, blank, ends, rfl⟩ := after
  refine ⟨blanks, rest, fun c member => isBlank_of_isSpace (blank c member), ?_, ?_, rfl⟩
  · have marks : ∀ c ∈ [',', ']', '}'], isBlank c = false := forall_mem_of_all (by decide)
    exact fun c head => marks c (ends c head)
  · have marks : ∀ c ∈ [',', ']', '}'], (c == ':') = false := forall_mem_of_all (by decide)
    exact fun c head => marks c (ends c head)

end AfterValue

/-! ## Numerals -/

theorem isDecimal_of_isDigit {c : Char} (digit : c.isDigit) : isDecimal c := by
  have bound : c.toNat < 0x80 := by
    have bounds : c.val ≥ 48 ∧ c.val ≤ 57 := by simpa [Char.isDigit] using digit
    have small : c.val.toNat ≤ 57 := UInt32.le_iff_toNat_le.mp bounds.2
    simp only [Char.toNat]
    omega
  simp [isDecimal, isAscii, bound, digit]

theorem stops_of_isDigits {digits : List Char} (isDigits : IsDigits digits)
    {isMember : Char → Bool} (excluded : ∀ c, isMember c → c.isDigit = false) (rest : List Char) :
    Stops isMember (digits ++ rest) := by
  intro c head
  by_contra member
  have noDigit := excluded c (by simpa using member)
  have isDigit := isDigits.2 c (List.mem_of_mem_head? (by
    rwa [List.head?_append_of_ne_nil _ isDigits.1] at head))
  simp [noDigit] at isDigit

theorem stops_of_isFraction {fraction rest : List Char} (fractions : IsFraction fraction)
    {isMember : Char → Bool} (excluded : isMember '.' = false) (stops : Stops isMember rest) :
    Stops isMember (fraction ++ rest) := by
  cases fractions with
  | missing => exact stops
  | present => simpa [Stops] using excluded

theorem stops_of_isExponent {exponent rest : List Char} (exponents : IsExponent exponent)
    {isMember : Char → Bool} (excluded : isMember 'e' = false ∧ isMember 'E' = false)
    (stops : Stops isMember rest) : Stops isMember (exponent ++ rest) := by
  cases exponents with
  | missing => exact stops
  | present mark =>
    rcases mark with rfl | rfl
    · simpa [Stops] using excluded.1
    · simpa [Stops] using excluded.2

theorem reads_digits {digits rest : List Char} (isDigits : IsDigits digits)
    (stops : Stops isDecimal rest) : (run isDecimal).Reads digits rest :=
  reads_run isDigits.1 (fun c member => isDecimal_of_isDigit (isDigits.2 c member)) stops

theorem reads_fraction {text rest : List Char} (fractions : IsFraction text)
    (noPoint : Stops (· == '.') rest) (noDigit : Stops isDecimal rest) :
    (optional fraction).Reads text rest := by
  cases fractions with
  | missing => exact reads_optional_of_misses (misses_andThen (misses_one noPoint) _)
  | @present digits isDigits =>
    have pointRead : (char '.').Reads ['.'] (digits ++ rest) := reads_one rfl _
    exact reads_optional (reads_andThen pointRead (reads_digits isDigits noDigit))

theorem reads_exponent {text rest : List Char} (exponents : IsExponent text)
    (noMark : Stops (['e', 'E'].contains ·) rest) (noDigit : Stops isDecimal rest) :
    (optional exponent).Reads text rest := by
  cases exponents with
  | missing =>
    exact reads_optional_of_misses (misses_andThen (misses_andThen (misses_one noMark) _) _)
  | @present mark sign digits marks signs isDigits =>
    have markRead : (oneOf ['e', 'E']).Reads [mark] (sign ++ (digits ++ rest)) :=
      reads_one (by simpa using marks) _
    have signRead : (optional (oneOf ['+', '-'])).Reads sign (digits ++ rest) := by
      rcases signs with rfl | rfl | rfl
      · refine reads_optional_of_misses (misses_one (stops_of_isDigits isDigits ?_ rest))
        simp
      · exact reads_optional (reads_one (by decide) _)
      · exact reads_optional (reads_one (by decide) _)
    have read := reads_andThen (reads_andThen markRead signRead) (reads_digits isDigits noDigit)
    rw [List.append_assoc] at read
    exact reads_optional read

theorem reads_number {text rest : List Char} (numeral : IsNumeral text) (after : AfterValue rest) :
    number.Reads text rest := by
  obtain @⟨sign, integer, fraction, exponent, signs, integers, fractions, exponents⟩ := numeral
  have exponentRead : (optional Json.exponent).Reads exponent rest :=
    reads_exponent exponents (after.stops (by decide)) (after.stops (by decide))
  have fractionRead : (optional Json.fraction).Reads fraction (exponent ++ rest) :=
    reads_fraction fractions (stops_of_isExponent exponents (by decide) (after.stops (by decide)))
      (stops_of_isExponent exponents (by decide) (after.stops (by decide)))
  have integerRead : (run isDecimal).Reads integer (fraction ++ (exponent ++ rest)) :=
    reads_digits integers.1 (stops_of_isFraction fractions (by decide)
      (stops_of_isExponent exponents (by decide) (after.stops (by decide))))
  have signRead :
      (optional (char '-')).Reads sign (integer ++ (fraction ++ (exponent ++ rest))) := by
    rcases signs with rfl | rfl
    · refine reads_optional_of_misses (misses_one (stops_of_isDigits integers.1 ?_ _))
      simp
    · exact reads_optional (reads_one rfl _)
  have read := reads_andThen (reads_andThen (reads_andThen signRead integerRead) fractionRead)
    exponentRead
  rwa [List.append_assoc, List.append_assoc] at read

/-! ## Strings -/

theorem escapedLength?_character {c : Char} (noQuote : c ≠ '\"') (noBackslash : c ≠ '\\')
    (taken : Nat) (rest : List Char) :
    escapedLength? '\"' taken (c :: rest) = escapedLength? '\"' (taken + 1) rest := by
  rw [escapedLength?]
  · simp [noQuote, noBackslash]
  · exact fun d others isBackslash => absurd isBackslash noBackslash

theorem escapedLength?_escape {letter : Char} (noFeed : letter ≠ '\n') (taken : Nat)
    (rest : List Char) :
    escapedLength? '\"' taken ('\\' :: letter :: rest) = escapedLength? '\"' (taken + 2) rest := by
  simp [escapedLength?, noFeed]

theorem escapedLength?_body {body : List Char} (spelled : IsStringBody body) (taken : Nat)
    (rest : List Char) :
    escapedLength? '\"' taken (body ++ '\"' :: rest) = some (taken + body.length + 1) := by
  induction spelled generalizing taken with
  | empty => simp [escapedLength?]
  | character noQuote noBackslash _ _ inductionHypothesis =>
    rw [List.cons_append, escapedLength?_character noQuote noBackslash, inductionHypothesis]
    simp only [List.length_cons, Option.some.injEq]
    omega
  | @escape letter _ short _ inductionHypothesis =>
    have noFeed : letter ≠ '\n' := by
      rintro rfl
      contradiction
    rw [List.cons_append, List.cons_append, escapedLength?_escape noFeed, inductionHypothesis]
    simp only [List.length_cons, Option.some.injEq]
    omega
  | @codeUnit a b c d _ digits _ inductionHypothesis =>
    have plain : ∀ digit ∈ [a, b, c, d], digit ≠ '\"' ∧ digit ≠ '\\' :=
      fun digit member => ⟨(plain_of_isHexDigit (digits digit member)).1,
        (plain_of_isHexDigit (digits digit member)).2.1⟩
    simp only [List.forall_mem_cons] at plain
    obtain ⟨first, second, third, fourth, -⟩ := plain
    simp only [List.cons_append]
    rw [escapedLength?_escape (by decide), escapedLength?_character first.1 first.2,
      escapedLength?_character second.1 second.2, escapedLength?_character third.1 third.2,
      escapedLength?_character fourth.1 fourth.2, inductionHypothesis]
    simp only [List.length_cons, Option.some.injEq]
    omega

theorem reads_quoted {text : List Char} (isString : IsString text) (rest : List Char) :
    quoted.Reads text rest := by
  obtain @⟨body, spelled⟩ := isString
  have quoteRead : (char '\"').Reads ['\"'] (body ++ ['\"'] ++ rest) := reads_one rfl _
  have bodyRead : Reads ⟨escapedLength? '\"' 0⟩ (body ++ ['\"']) rest := by
    simpa [Reads] using escapedLength?_body spelled 0 rest
  exact reads_andThen quoteRead bodyRead

/-! ## Rules -/

section Heads

variable {before : Option Char} {offset : Nat} {c : Char} {rest : List Char}

theorem misses_quoted (noQuote : c ≠ '\"') (rest : List Char) : quoted.Misses (c :: rest) :=
  misses_andThen (misses_one (by simpa [Stops] using noQuote)) _

theorem misses_number (noSign : c ≠ '-') (noDigit : isDecimal c = false) (rest : List Char) :
    number.Misses (c :: rest) := by
  have signMissing : (optional (char '-')).Reads [] (c :: rest) :=
    reads_optional_of_misses (misses_one (by simpa [Stops] using noSign))
  have digitsMissing : (run isDecimal).Misses (c :: rest) :=
    misses_run (by simpa [Stops] using noDigit)
  exact misses_andThen (misses_andThen (misses_andThen_of_reads signMissing digitsMissing) _) _

theorem firstOf_of_noQuote (noQuote : c ≠ '\"') :
    Rule.firstOf rules ⟨before, offset, c :: rest⟩ =
      Rule.firstOf (rules.drop 2) ⟨before, offset, c :: rest⟩ := by
  have keyMissing : key ⟨before, offset, c :: rest⟩ = none :=
    Rule.sequence_cons_of_none (Rule.token_of_misses (misses_quoted noQuote rest) .key)
  have stringMissing : Rule.token .string quoted ⟨before, offset, c :: rest⟩ = none :=
    Rule.token_of_misses (misses_quoted noQuote rest) .string
  rw [rules, Rule.firstOf_cons_of_none keyMissing, Rule.firstOf_cons_of_none stringMissing]
  rfl

theorem firstOf_of_noNumber (noQuote : c ≠ '\"') (noSign : c ≠ '-')
    (noDigit : isDecimal c = false) :
    Rule.firstOf rules ⟨before, offset, c :: rest⟩ =
      Rule.firstOf (rules.drop 3) ⟨before, offset, c :: rest⟩ := by
  have numberMissing : Rule.token .number number ⟨before, offset, c :: rest⟩ = none :=
    Rule.token_of_misses (misses_number noSign noDigit rest) .number
  rw [firstOf_of_noQuote noQuote]
  exact Rule.firstOf_cons_of_none numberMissing

theorem boolean_none (noTrue : c ≠ 't') (noFalse : c ≠ 'f') :
    Rule.atWordStart (.token .boolean (.anyOf ["true", "false"] ++ .wordEnd))
      ⟨before, offset, c :: rest⟩ = none := by
  have trueMissing : (literal "true").Misses (c :: rest) := misses_literal rfl noTrue.symm rest
  have falseMissing : (literal "false").Misses (c :: rest) := misses_literal rfl noFalse.symm rest
  refine Rule.atWordStart_of_none (Rule.token_of_misses (misses_andThen (misses_anyOf ?_) _) _)
  simpa using ⟨trueMissing, falseMissing⟩

theorem null_none (noNull : c ≠ 'n') :
    Rule.atWordStart (.token .null (.literal "null" ++ .wordEnd))
      ⟨before, offset, c :: rest⟩ = none :=
  Rule.atWordStart_of_none
    (Rule.token_of_misses (misses_andThen (misses_literal rfl noNull.symm rest) _) _)

/-- Only a bracket or another mark can be read where no longer token begins. -/
theorem firstOf_of_noWord
    (other : c ∈ [' ', '\n', '\t', '\r'] ++ (['{', '}', '[', ']'] ++ [':', ','])) :
    Rule.firstOf rules ⟨before, offset, c :: rest⟩ =
      Rule.firstOf (rules.drop 5) ⟨before, offset, c :: rest⟩ := by
  have others : ∀ d ∈ [' ', '\n', '\t', '\r'] ++ (['{', '}', '[', ']'] ++ [':', ',']),
      d ≠ '\"' ∧ d ≠ '-' ∧ isDecimal d = false ∧ d ≠ 't' ∧ d ≠ 'f' ∧ d ≠ 'n' :=
    forall_mem_of_all (by decide)
  obtain ⟨noQuote, noSign, noDigit, noTrue, noFalse, noNull⟩ := others c other
  rw [firstOf_of_noNumber noQuote noSign noDigit]
  exact (Rule.firstOf_cons_of_none (boolean_none noTrue noFalse)).trans
    (Rule.firstOf_cons_of_none (null_none noNull))

theorem firstOf_of_isSpace (blank : isSpace c) :
    Rule.firstOf rules ⟨before, offset, c :: rest⟩ = none := by
  have marks : ∀ d ∈ [' ', '\n', '\t', '\r'],
      ['{', '}', '[', ']'].contains d = false ∧ [':', ','].contains d = false :=
    forall_mem_of_all (by decide)
  obtain ⟨noBracket, noMark⟩ := marks c (isSpace_cases blank)
  rw [firstOf_of_noWord (List.mem_append_left _ (isSpace_cases blank))]
  refine (Rule.firstOf_cons_of_none ?_).trans (Rule.firstOf_cons_of_none ?_)
  · exact Rule.token_of_misses (misses_one (by simpa [Stops] using noBracket)) _
  · exact Rule.token_of_misses (misses_one (by simpa [Stops] using noMark)) _

theorem firstOf_of_bracket (isBracket : c ∈ ['{', '}', '[', ']']) :
    Rule.firstOf rules ⟨before, offset, c :: rest⟩ = some [.labelled .bracket 1] := by
  have bracketRead : (oneOf ['{', '}', '[', ']']).Reads [c] rest :=
    reads_one (List.contains_iff_mem.mpr isBracket) rest
  rw [firstOf_of_noWord (List.mem_append_right _ (List.mem_append_left _ isBracket))]
  exact Rule.firstOf_cons_of_some (Rule.token_of_reads bracketRead .bracket)

theorem firstOf_of_punctuation (isMark : c ∈ [':', ',']) :
    Rule.firstOf rules ⟨before, offset, c :: rest⟩ = some [.labelled .punctuation 1] := by
  have brackets : ∀ d ∈ [':', ','], ['{', '}', '[', ']'].contains d = false :=
    forall_mem_of_all (by decide)
  have bracketMissing : (oneOf ['{', '}', '[', ']']).Misses (c :: rest) :=
    misses_one (by simpa [Stops] using brackets c isMark)
  have markRead : (oneOf [':', ',']).Reads [c] rest :=
    reads_one (List.contains_iff_mem.mpr isMark) rest
  rw [firstOf_of_noWord (List.mem_append_right _ (List.mem_append_right _ isMark))]
  exact (Rule.firstOf_cons_of_none (Rule.token_of_misses bracketMissing .bracket)).trans
    (Rule.firstOf_cons_of_some (Rule.token_of_reads markRead .punctuation))

end Heads

section Tokens

variable {before : Option Char} {offset : Nat} {text rest : List Char}

theorem firstOf_of_numeral (numeral : IsNumeral text) (after : AfterValue rest) :
    Rule.firstOf rules ⟨before, offset, text ++ rest⟩ =
      some [.labelled .number text.length] := by
  have read : Rule.token .number number ⟨before, offset, text ++ rest⟩ =
      some [.labelled .number text.length] :=
    Rule.token_of_reads (reads_number numeral after) .number
  obtain ⟨c, others, rfl, head⟩ := numeral.exists_cons
  have noQuote : c ≠ '\"' := by
    rintro rfl
    revert head
    decide
  exact (firstOf_of_noQuote noQuote).trans (Rule.firstOf_cons_of_some read)

theorem firstOf_of_boolean (spelled : text = "true".toList ∨ text = "false".toList)
    (clear : ∀ c ∈ before, isWord c = false) (after : AfterValue rest) :
    Rule.firstOf rules ⟨before, offset, text ++ rest⟩ =
      some [.labelled .boolean text.length] := by
  have wordRead : (anyOf ["true", "false"]).Reads text rest := by
    rcases spelled with rfl | rfl
    · exact reads_anyOf (.inl (reads_literal "true" rest))
    · refine reads_anyOf (.inr ⟨misses_literal rfl (by decide) _, ?_⟩)
      exact reads_anyOf (.inl (reads_literal "false" rest))
  obtain ⟨c, others, rfl, head⟩ : ∃ c others, text = c :: others ∧ c ∈ ['t', 'f'] := by
    rcases spelled with rfl | rfl <;> exact ⟨_, _, rfl, by decide⟩
  have apart : ∀ d ∈ ['t', 'f'], d ≠ '\"' ∧ d ≠ '-' ∧ isDecimal d = false :=
    forall_mem_of_all (by decide)
  obtain ⟨noQuote, noSign, noDigit⟩ := apart c head
  exact (firstOf_of_noNumber noQuote noSign noDigit).trans
    (Rule.firstOf_cons_of_some
      (Rule.word_of_reads clear wordRead (after.stops (by decide)) .boolean))

theorem firstOf_of_null (clear : ∀ c ∈ before, isWord c = false) (after : AfterValue rest) :
    Rule.firstOf rules ⟨before, offset, "null".toList ++ rest⟩ = some [.labelled .null 4] := by
  refine (firstOf_of_noNumber (by decide) (by decide) (by decide)).trans ?_
  exact (Rule.firstOf_cons_of_none (boolean_none (by decide) (by decide))).trans
    (Rule.firstOf_cons_of_some
      (Rule.word_of_reads clear (reads_literal "null" rest) (after.stops (by decide)) .null))

/-- A quoted text is a string where no colon follows its blanks. -/
theorem firstOf_of_string (isString : IsString text) (after : AfterValue rest) :
    Rule.firstOf rules ⟨before, offset, text ++ rest⟩ =
      some [.labelled .string text.length] := by
  have keyMissing : key ⟨before, offset, text ++ rest⟩ = none := by
    obtain ⟨blanks, others, blank, stops, noColon, rfl⟩ := after.stops_colon
    have colonMissing : (char ':').Misses others := misses_one noColon
    rw [key, Rule.sequence_cons_of_piece (Rule.token_of_reads (reads_quoted isString _) .key) rfl,
      Rule.sequence_cons_of_piece (Rule.skip_of_reads (reads_many blank stops)) rfl,
      Rule.sequence_cons_of_none (Rule.token_of_misses colonMissing .punctuation)]
    rfl
  have read : Rule.token .string quoted ⟨before, offset, text ++ rest⟩ =
      some [.labelled .string text.length] :=
    Rule.token_of_reads (reads_quoted isString rest) .string
  exact (Rule.firstOf_cons_of_none keyMissing).trans (Rule.firstOf_cons_of_some read)

/-- A quoted text is read as a key together with its colon. -/
theorem firstOf_of_key (isString : IsString text) {blanks : List Char}
    (blank : ∀ c ∈ blanks, isSpace c) :
    Rule.firstOf rules ⟨before, offset, text ++ (blanks ++ [':']) ++ rest⟩ =
      some [.labelled .key text.length, .plain blanks.length, .labelled .punctuation 1] := by
  have blankRead : (many isBlank).Reads blanks ([':'] ++ rest) :=
    reads_many (fun c member => isBlank_of_isSpace (blank c member)) (by simp [Stops]; decide)
  have colonRead : (char ':').Reads [':'] rest := reads_one rfl rest
  refine Rule.firstOf_cons_of_some ?_
  rw [List.append_assoc, List.append_assoc, key,
    Rule.sequence_cons_of_piece (Rule.token_of_reads (reads_quoted isString _) .key) rfl,
    Rule.sequence_cons_of_piece (Rule.skip_of_reads blankRead) rfl,
    Rule.sequence_cons_of_piece (Rule.token_of_reads colonRead .punctuation) rfl]
  rfl

end Tokens

end Highlight.Grammar.Json
