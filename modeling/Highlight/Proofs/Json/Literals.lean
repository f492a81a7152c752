import Highlight.Grammar.Json
import Highlight.Proofs.Labels
import Highlight.Proofs.Neighbors
import Highlight.Proofs.Spelling

/-!
Keys and strings in lines of JSON, well-formed or not. The rule for keys comes first, so a quoted
text with a colon behind it is a key, and one without is a string. Either is a whole literal, since
the rules find its end by the same reading of backslashes.
-/

set_option autoImplicit false

namespace Highlight

open Text

namespace Grammar.Json

open Text.Lexeme

/-- A key or a string is one literal in quotes. A colon comes behind a key, if not at once then
beyond blanks, and no colon comes so behind a string. -/
structure Told (token : Token) (behind : List Token) : Prop where
  literal : token.kind = .key ∨ token.kind = .string →
    Enquoted '\"' (EscapedBody '\"') token.text.toList
  key : token.kind = .key → ColonFollows isBlank behind
  string : token.kind = .string → ((characters behind).dropWhile isBlank).head? ≠ some ':'

theorem told_of_other {token : Token} (noKey : token.kind ≠ .key) (noString : token.kind ≠ .string)
    (behind : List Token) : Told token behind where
  literal isLiteral := absurd isLiteral (not_or.mpr ⟨noKey, noString⟩)
  key isKey := absurd isKey noKey
  string isString := absurd isString noString

section Rules

variable {before : Option Char} {offset : Nat} {text rest : List Char} {segments : List Segment}

/-! ## The rules -/

/-- What the rule for keys reads is a literal, blanks and a colon. -/
theorem segments_of_key (read : key.Reads before offset segments rest) :
    ∃ text blanks, segments =
        [.labelled .key text, .plain blanks, .labelled .punctuation [':']] ∧
      Enquoted '\"' (EscapedBody '\"') text ∧ ∀ c ∈ blanks, isBlank c := by
  obtain ⟨first, others, rfl, literalRead, read⟩ := Rule.Reads.of_sequence_cons read
  obtain ⟨text, rfl, reads⟩ := Rule.reads_token_iff.mp literalRead
  obtain ⟨second, others, rfl, blanksRead, read⟩ := read.of_sequence_cons
  obtain ⟨blanks, rfl, blanksReads⟩ := blanksRead.of_skip
  obtain ⟨third, others, rfl, colonRead, read⟩ := read.of_sequence_cons
  obtain ⟨colon, rfl, colonReads⟩ := Rule.reads_token_iff.mp colonRead
  obtain ⟨c, rfl, isColon⟩ := reads_one_iff.mp colonReads
  obtain rfl : c = ':' := by simpa using isColon
  obtain rfl := read.of_sequence_nil
  exact ⟨text, blanks, rfl, enquoted_of_reads_escapedQuote reads, (reads_many_iff.mp blanksReads).1⟩

/-- A literal with a colon behind it, or beyond blanks, is read as a key. -/
theorem key_of_colon (before : Option Char) (offset : Nat) (reads : quoted.Reads text rest)
    (colon : (rest.dropWhile isBlank).head? = some ':') :
    key ⟨before, offset, text ++ rest⟩ ≠ none := by
  obtain ⟨others, found⟩ := List.head?_eq_some_iff.mp colon
  obtain ⟨blanks, split, blank⟩ :
      ∃ blanks, rest = blanks ++ ':' :: others ∧ ∀ c ∈ blanks, isBlank c := by
    refine ⟨rest.takeWhile isBlank, ?_, fun c member => List.mem_takeWhile_imp member⟩
    rw [← found, List.takeWhile_append_dropWhile]
  subst split
  have outside : isBlank ':' = false := by decide
  have literalRead : quoted.Reads text (blanks ++ ([':'] ++ others)) := reads
  have blanksRead : (many isBlank).Reads blanks ([':'] ++ others) :=
    reads_many blank (by simpa [Stops] using outside)
  have colonRead : (char ':').Reads [':'] others := reads_one rfl others
  change key ⟨before, offset, text ++ (blanks ++ ([':'] ++ others))⟩ ≠ none
  rw [key, Rule.sequence_cons_of_piece (Rule.token_of_reads literalRead .key) rfl,
    Rule.sequence_cons_of_piece (Rule.skip_of_reads blanksRead) rfl,
    Rule.sequence_cons_of_piece (Rule.token_of_reads colonRead .punctuation) rfl]
  simp [Rule.sequence]

def otherRules : List Rule :=
  rules.drop 2

theorem otherRules_within :
    ∀ rule ∈ otherRules, rule.Within fun kind => kind ≠ .key ∧ kind ≠ .string := by
  simp [otherRules, rules, Rule.token_within, Rule.atWordStart_within]

theorem number_fits : number.Fits := by
  have digits : (run isDecimal).Fits := fits_run _
  have fractionFits : fraction.Fits := fits_andThen (fits_one _) digits
  have exponentFits : exponent.Fits :=
    fits_andThen (fits_andThen (fits_one _) (fits_optional (fits_one _))) digits
  exact fits_andThen (fits_andThen (fits_andThen (fits_optional (fits_one _)) digits)
    (fits_optional fractionFits)) (fits_optional exponentFits)

theorem number_advances : number.Advances :=
  advances_andThen (advances_andThen (advances_andThen_right _ (advances_run _)) _) _

theorem rules_fit : ∀ rule ∈ rules, rule.Fits := by
  have literal : quoted.Fits := fits_escapedQuote _
  have parts : ∀ rule ∈ [.token .key quoted, .skip (.many isBlank),
      .token .punctuation (.char ':')], Rule.Fits rule := by
    simp only [List.forall_mem_cons]
    exact ⟨Rule.fits_token literal _, Rule.fits_skip (fits_many _), Rule.fits_token (fits_one _) _,
      List.forall_mem_nil _⟩
  simp only [rules, List.forall_mem_cons]
  refine ⟨Rule.fits_sequence parts, ?_, ?_, ?_, ?_, ?_, ?_, List.forall_mem_nil _⟩
  · exact Rule.fits_token literal _
  · exact Rule.fits_token number_fits _
  · exact Rule.fits_atWordStart (Rule.fits_token (fits_andThen (fits_anyOf _) (fits_ahead _)) _)
  · exact Rule.fits_atWordStart (Rule.fits_token (fits_andThen (fits_literal _) (fits_ahead _)) _)
  · exact Rule.fits_token (fits_one _) _
  · exact Rule.fits_token (fits_one _) _

theorem rules_advance : ∀ rule ∈ rules, rule.Advances := by
  have literal : quoted.Advances := advances_andThen (advances_one _) _
  have keyToken : (Rule.token .key quoted).Advances := Rule.advances_token literal _
  simp only [rules, List.forall_mem_cons]
  refine ⟨Rule.advances_sequence ⟨_, List.mem_cons_self, keyToken⟩, ?_, ?_, ?_, ?_, ?_, ?_,
    List.forall_mem_nil _⟩
  · exact Rule.advances_token literal _
  · exact Rule.advances_token number_advances _
  · exact Rule.advances_atWordStart (Rule.advances_token
      (advances_andThen (advances_anyOf (by decide)) _) _)
  · exact Rule.advances_atWordStart (Rule.advances_token
      (advances_andThen (advances_literal (by decide)) _) _)
  · exact Rule.advances_token (advances_one _) _
  · exact Rule.advances_token (advances_one _) _

/-! ## The scan -/

/-- What the rules read is told apart by what comes behind it. -/
theorem each_of_read (read : (Rule.firstOf rules).Reads before offset segments rest)
    {tail : List Segment} (continues : Segment.characters tail = rest)
    (each : Segment.Each (fun _ => Told) ((Segment.characters segments).getLast?.or before) tail) :
    Segment.Each (fun _ => Told) before (segments ++ tail) := by
  rcases read.of_firstOf_cons with keyRead | ⟨noKey, read⟩
  · obtain ⟨text, blanks, rfl, enquoted, blank⟩ := segments_of_key keyRead
    have colon := colonFollows_tokens blank tail
    have mark : Told ⟨.punctuation, ":"⟩ (Segment.tokens tail) :=
      told_of_other (by simp) (by simp) _
    have own : Told ⟨.key, String.ofList text⟩ (Segment.tokens
        (.plain blanks :: .labelled .punctuation [':'] :: tail)) := by
      refine ⟨fun _ => ?_, fun _ => colon, fun isString => by contradiction⟩
      rwa [String.toList_ofList]
    simp only [List.cons_append, List.nil_append, Segment.each_labelled_cons,
      Segment.each_plain_cons]
    refine ⟨own, mark, ?_⟩
    simpa [Segment.labelled, Segment.plain, List.getLast?_append, Option.or_assoc] using each
  -- A literal that is not read as a key has no colon behind it.
  rcases read.of_firstOf_cons with stringRead | ⟨-, read⟩
  · obtain ⟨text, rfl, reads⟩ := Rule.reads_token_iff.mp stringRead
    have own : Told ⟨.string, String.ofList text⟩ (Segment.tokens tail) := by
      refine ⟨fun _ => ?_, fun isKey => by contradiction, fun _ colon => ?_⟩
      · rw [String.toList_ofList]
        exact enquoted_of_reads_escapedQuote reads
      · rw [Segment.characters_tokens, continues] at colon
        refine key_of_colon before offset reads colon ?_
        simpa [Segment.labelled] using noKey
    rw [List.singleton_append, Segment.each_labelled_cons]
    exact ⟨own, by simpa [Segment.labelled] using each⟩
  · obtain ⟨rule, listed, own⟩ := read.of_firstOf
    refine Segment.each_append ?_ each
    intro segment member kind labelled before behind
    have allowed := otherRules_within rule listed _ _ own segment.piece
      (List.mem_map_of_mem member) kind labelled
    exact told_of_other allowed.1 allowed.2 behind

theorem scanInvariant :
    ScanInvariant (ruleStep rules) (fun _ _ _ => True) (fun _ => Told) :=
  .of_rules rules_fit rules_advance (fun _ _ => trivial)
    fun _ read => ⟨trivial, fun _ continues each => each_of_read read continues each⟩

end Rules

end Grammar.Json

/-- In every line of JSON, a key and a string are whole literals in quotes. A colon is the next
token behind a key, or the one behind blanks, and behind a string something else comes beyond the
blanks, or nothing. -/
theorem json_literals_told_by_colon {line : String} {front behind : List Token} {token : Token}
    (split : tokenize .json line = front ++ token :: behind) :
    (token.kind = .key ∨ token.kind = .string →
        Enquoted '\"' (EscapedBody '\"') token.text.toList) ∧
      (token.kind = .key → ColonFollows isBlank behind) ∧
      (token.kind = .string →
        ((characters behind).dropWhile isBlank).head? ≠ some ':') := by
  by_cases isText : token.kind = .text
  · simp [isText]
  · have told : Grammar.Json.Told token behind :=
      Grammar.Json.scanInvariant.holds () trivial isText split
    exact ⟨told.literal, told.key, told.string⟩

/-- A colon inside of a literal makes it no key, and an open literal behind the colon of a key is
none. -/
theorem json_literals_of_open_line :
    tokenize .json "[\"s\\\":\", \"k\" : \"x" =
        [⟨.bracket, "["⟩, ⟨.string, "\"s\\\":\""⟩, ⟨.punctuation, ","⟩, ⟨.text, " "⟩,
          ⟨.key, "\"k\""⟩, ⟨.text, " "⟩, ⟨.punctuation, ":"⟩, ⟨.text, " \"x"⟩] ∧
      Enquoted '\"' (EscapedBody '\"') "\"s\\\":\"".toList ∧
      ColonFollows isBlank [⟨.text, " "⟩, ⟨.punctuation, ":"⟩, ⟨.text, " \"x"⟩] := by
  let front : List Token := [⟨.bracket, "["⟩]
  let middle : List Token := [⟨.punctuation, ","⟩, ⟨.text, " "⟩]
  let behind : List Token := [⟨.text, " "⟩, ⟨.punctuation, ":"⟩, ⟨.text, " \"x"⟩]
  let string : Token := ⟨.string, "\"s\\\":\""⟩
  let key : Token := ⟨.key, "\"k\""⟩
  have tokens : tokenize .json "[\"s\\\":\", \"k\" : \"x" =
      front ++ string :: (middle ++ key :: behind) := by decide +kernel
  have again : tokenize .json "[\"s\\\":\", \"k\" : \"x" =
      (front ++ string :: middle) ++ key :: behind := tokens
  exact ⟨tokens, (json_literals_told_by_colon tokens).1 (.inr rfl),
    (json_literals_told_by_colon again).2.1 rfl⟩

end Highlight
