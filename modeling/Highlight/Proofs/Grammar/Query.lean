import Highlight.Grammar.Query
import Highlight.Proofs.Delimited
import Highlight.Proofs.Grammar.Joined
import Highlight.Proofs.Spelling

/-!
The lexemes of SQL. Each is read as a whole between spaces, whatever it contains.
-/

set_option autoImplicit false

namespace Highlight.Grammar.Query

open Text Text.Lexeme

/-! ## Lexemes -/

def opensWord (c : Char) : Bool :=
  c.isAlpha || c == '_'

def continuesWord (c : Char) : Bool :=
  isWord c || c == '$'

def operators : List String :=
  ["<>", "<=", ">=", "!=", "||", "::", "=", "<", ">", "+", "-", "*", "/", "%"]

def brackets : List Char :=
  ['(', ')']

def punctuation : List Char :=
  [',', ';', '.']

/-- A lexeme of SQL, with the kind that it is to have. Names that are not reserved have none. -/
inductive IsLexeme : Segment → Prop
  | quoted {text : List Char} : Enquoted '\'' (DoubledBody '\'') text →
      IsLexeme (.labelled .string text)
  | number {digits fraction : List Char} : IsDecimals digits → IsDecimalPart fraction →
      IsLexeme (.labelled .number (digits ++ fraction))
  | comment {body : List Char} : ¬"*/".toList <:+: body →
      IsLexeme (.labelled .comment ("/*".toList ++ (body ++ "*/".toList)))
  | keyword {text : List Char} : IsName opensWord continuesWord text →
      String.ofList (text.map Char.toUpper) ∈ reserved → IsLexeme (.labelled .keyword text)
  | name {text : List Char} : IsName opensWord continuesWord text →
      String.ofList (text.map Char.toUpper) ∉ reserved → IsLexeme (.plain text)
  | operator {spelled : String} : spelled ∈ operators →
      IsLexeme (.labelled .operator spelled.toList)
  | bracket {c : Char} : c ∈ brackets → IsLexeme (.labelled .bracket [c])
  | punctuation {c : Char} : c ∈ punctuation → IsLexeme (.labelled .punctuation [c])

/-! ## First characters -/

/-- The characters that operators open with. -/
def marks : List Char :=
  ['=', '<', '>', '+', '-', '*', '/', '%', '!', '|', ':']

def classes : List (Char → Bool) :=
  [['-', '/'].contains, ['\''].contains, isDecimal, opensWord, marks.contains,
    brackets.contains, punctuation.contains]

theorem rules_open : List.Forall₂ Rule.OpensWith classes rules := by
  have quote : (doubledQuote '\'').OpensWith ['\''].contains :=
    opensWith_andThen ((opensWith_one _).mono (by simp)) _
  have digits : (run isDecimal).OpensWith isDecimal := opensWith_run _
  have single : ∀ c, ['=', '<', '>', '+', '-', '*', '/', '%'].contains c → marks.contains c := by
    intro c listed
    have all : ∀ c ∈ ['=', '<', '>', '+', '-', '*', '/', '%'], marks.contains c :=
      forall_mem_of_all (by decide)
    exact all c (by simpa using listed)
  refine .cons ?_ <| .cons ?_ <| .cons ?_ <| .cons ?_ <| .cons ?_ <| .cons ?_ <| .cons ?_ .nil
  · exact Rule.opensWith_token (opensWith_orElse (opensWith_andThen (opensWith_literal rfl) _)
      (opensWith_andThen (opensWith_literal rfl) _)) _
  · exact Rule.opensWith_token quote _
  · exact Rule.opensWith_atWordStart (Rule.opensWith_token (opensWith_orElse
      (opensWith_andThen (opensWith_andThen (opensWith_andThen digits _) _) _)
      (opensWith_andThen digits _)) _)
  · exact Rule.opensWith_classified (opensWith_andThen (opensWith_one opensWord) _) _
  · exact Rule.opensWith_token (opensWith_orElse (opensWith_anyOf (by decide))
      ((opensWith_one _).mono single)) _
  · exact Rule.opensWith_token (opensWith_one _) _
  · exact Rule.opensWith_token (opensWith_one _) _

theorem passesSpaces_rules : PassesSpaces rules := by
  intro c offset rest
  exact Rule.firstOf_of_opens rules_open 7 (by decide) rest (some c) offset

/-! ## Lexemes between spaces -/

section Lexemes

variable {segment : Segment} {text rest : List Char}

theorem readsSpaced_quoted (enquoted : Enquoted '\'' (DoubledBody '\'') text) :
    ReadsSpaced rules (.labelled .string text) := by
  intro before rest atSpace ends
  have apart : rest.head? ≠ some '\'' := fun head => by
    have space := ends '\'' head
    contradiction
  have reads := reads_doubledQuote enquoted apart
  obtain ⟨body, rfl, -⟩ := enquoted
  exact readsWhole_of_rule rules_open 1 rfl rfl (by decide) fun offset =>
    Rule.token_of_reads reads _

theorem reads_number {digits fraction : List Char} (isDecimals : IsDecimals digits)
    (isFraction : IsDecimalPart fraction) (ends : AtSpace rest.head?) :
    number.Reads (digits ++ fraction) rest := by
  have wordEnds : wordEnd.Reads [] rest := reads_wordEnd (stops_of_atSpace ends (by decide))
  have noDigit : Stops isDecimal rest := stops_of_atSpace ends (by decide)
  cases isFraction with
  | missing =>
    have whole : (run isDecimal).Reads digits rest :=
      reads_run isDecimals.1 isDecimals.2 noDigit
    have noPoint : (char '.').Misses rest := misses_one (stops_of_atSpace ends (by decide))
    refine reads_orElse (.inr ⟨?_, reads_andThen whole wordEnds⟩)
    rw [List.append_nil]
    exact misses_andThen (misses_andThen (misses_andThen_of_reads whole noPoint) _) _
  | @present others isOthers =>
    have outside : isDecimal '.' = false := by decide
    have front : (run isDecimal).Reads digits (['.'] ++ (others ++ rest)) :=
      reads_run isDecimals.1 isDecimals.2 (by simpa [Stops] using outside)
    have point : (char '.').Reads ['.'] (others ++ rest) := reads_one rfl _
    have back : (run isDecimal).Reads others rest := reads_run isOthers.1 isOthers.2 noDigit
    have reads := reads_andThen (reads_andThen (reads_andThen front point) back) wordEnds
    exact reads_orElse (.inl (by simpa using reads))

theorem readsSpaced_number {digits fraction : List Char} (isDecimals : IsDecimals digits)
    (isFraction : IsDecimalPart fraction) :
    ReadsSpaced rules (.labelled .number (digits ++ fraction)) := by
  intro before rest atSpace ends
  have clear : ∀ c ∈ before, isWord c = false := fun c member =>
    atSpace c member ▸ (by decide : isWord ' ' = false)
  have reads := reads_number isDecimals isFraction ends
  obtain ⟨c, others, rfl⟩ := List.exists_cons_of_ne_nil isDecimals.1
  have digit := isDecimals.2 c (by simp)
  refine readsWhole_of_rule rules_open 2 rfl rfl ?_ fun offset => ?_
  · have unmarked : ∀ marks : List Char, marks.all (fun mark => !isDecimal mark) →
        marks.contains c = false := fun _ => not_contains isDecimal digit
    simp only [classes, List.take_succ_cons, List.take_zero, List.forall_mem_cons]
    exact ⟨unmarked _ (by decide), unmarked _ (by decide), List.forall_mem_nil _⟩
  · exact (Rule.atWordStart_of_clear clear _).trans (Rule.token_of_reads reads _)

theorem readsSpaced_comment {body : List Char} (absent : ¬"*/".toList <:+: body)
    (oneLine : '\n' ∉ body) :
    ReadsSpaced rules (.labelled .comment ("/*".toList ++ (body ++ "*/".toList))) := by
  intro before rest _ _
  have reads : comment.Reads ("/*".toList ++ (body ++ "*/".toList)) rest :=
    reads_starComment rfl absent oneLine
  exact readsWhole_of_rule rules_open 0 rfl rfl (by simp) fun offset =>
    Rule.token_of_reads reads _

theorem readsSpaced_word (isName : IsName opensWord continuesWord text)
    {kind? : Option TokenKind} (kind : wordKind? text = kind?) :
    ReadsSpaced rules ⟨kind?, text⟩ := by
  intro before rest atSpace ends
  have reads : word.Reads text rest := reads_name isName (stops_of_atSpace ends (by decide))
  obtain ⟨c, others, rfl, opens, -⟩ := isName
  refine readsWhole_of_rule rules_open 3 rfl rfl ?_ fun offset => ?_
  · have unmarked : ∀ marks : List Char, marks.all (fun mark => !opensWord mark) →
        marks.contains c = false := fun _ => not_contains opensWord opens
    have noDigit : isDecimal c = false := by
      simp only [opensWord, Bool.or_eq_true, beq_iff_eq] at opens
      rcases opens with letter | rfl
      · exact isDecimal_of_isAlpha letter
      · rfl
    simp only [classes, List.take_succ_cons, List.take_zero, List.forall_mem_cons]
    exact ⟨unmarked _ (by decide), unmarked _ (by decide), noDigit, List.forall_mem_nil _⟩
  · rw [Rule.classified_of_reads reads, kind]
    rfl

/-- An operator is read to its end, and is not the start of a comment, where a space follows. -/
theorem reads_operator {spelled : String} (listed : spelled ∈ operators)
    (ends : AtSpace rest.head?) :
    comment.Misses (spelled.toList ++ rest) ∧ operator.Reads spelled.toList rest := by
  have all : ∀ spelled ∈ operators,
      comment.Misses (spelled.toList ++ rest) ∧ operator.Reads spelled.toList rest := by
    cases rest with
    | nil => decide
    | cons c rest =>
      obtain rfl := ends c rfl
      exact forall_mem_of_all rfl
  exact all spelled listed

theorem readsSpaced_operator {spelled : String} (listed : spelled ∈ operators) :
    ReadsSpaced rules (.labelled .operator spelled.toList) := by
  have opening : ∀ spelled ∈ operators, spelled.toList.head?.any (· ∈ marks) :=
    forall_mem_of_all (by decide)
  -- Comments open with the dash and the slash as well.
  exact readsSpaced_behind rules_open 0 3 rfl rfl (by decide) (opening spelled listed)
    fun _ ends => reads_operator listed ends

/-- Each lexeme is read as a whole between spaces. -/
theorem readsSpaced_of_isLexeme (isLexeme : IsLexeme segment) (oneLine : '\n' ∉ segment.text) :
    ReadsSpaced rules segment := by
  cases isLexeme with
  | quoted enquoted => exact readsSpaced_quoted enquoted
  | number isDecimals isFraction => exact readsSpaced_number isDecimals isFraction
  | comment absent => exact readsSpaced_comment absent (by simp_all [Segment.labelled])
  | keyword isName listed => exact readsSpaced_word isName (by simp [wordKind?, listed])
  | name isName unlisted => exact readsSpaced_word isName (by simp [wordKind?, unlisted])
  | operator listed => exact readsSpaced_operator listed
  | bracket isBracket => exact readsSpaced_oneOf rules_open 5 rfl (by decide) isBracket
  | punctuation isPunctuation =>
    exact readsSpaced_oneOf rules_open 6 rfl (by decide) isPunctuation

theorem readsWhole_lineComment {body : List Char} (oneLine : '\n' ∉ body) (before : Option Char) :
    ReadsWhole rules (.labelled .comment ("--".toList ++ body)) before [] := by
  have opened := reads_literal "--" (body ++ [])
  have reads : comment.Reads ("--".toList ++ body) [] :=
    reads_orElse (.inl (reads_andThen opened (reads_restOfLine oneLine)))
  exact readsWhole_of_rule rules_open 0 rfl rfl (by simp) fun offset =>
    Rule.token_of_reads reads _

end Lexemes

end Highlight.Grammar.Query
