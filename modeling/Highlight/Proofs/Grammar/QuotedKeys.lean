import Highlight.Proofs.Grammar.Scalars

/-!
Quoted scalars as keys of YAML. A scalar that is one quoted value is one key as well, unless it
stands between single quotes and holds a quote: a value reads on behind a doubled quote, and a key
ends with the first half of it.
-/

set_option autoImplicit false

namespace Highlight

open Text

namespace Grammar.Yaml

open Text.Lexeme

/-- Is a text between single quotes one that holds such a quote? -/
def HoldsQuote (text : List Char) : Prop :=
  ∃ body, text = '\'' :: (body ++ ['\'']) ∧ '\'' ∈ body

variable {text body rest : List Char}

theorem isKey_of_isQuoted (isQuoted : IsQuoted text) (single : ¬HoldsQuote text) : IsKey text := by
  rcases isQuoted with double | ⟨body, rfl, -⟩
  · exact .double double
  · exact .single fun member => single ⟨body, rfl, member⟩

/-- The first quote inside is the first half of a pair. -/
theorem exists_pair_of_doubledBody {quote : Char} (spelled : DoubledBody quote body)
    (member : quote ∈ body) :
    ∃ front back, body = front ++ quote :: quote :: back ∧ quote ∉ front := by
  induction spelled with
  | nil => contradiction
  | @character c body different _ inductionHypothesis =>
    have later : quote ∈ body := (List.mem_cons.mp member).resolve_left (Ne.symm different)
    obtain ⟨front, back, rfl, absent⟩ := inductionHypothesis later
    exact ⟨c :: front, back, rfl, by simpa using ⟨Ne.symm different, absent⟩⟩
  | @pair body => exact ⟨[], body, rfl, List.not_mem_nil⟩

/-- No key is read from a text whose first quote inside comes twice. -/
theorem keyRule_of_pair {front : List Char} (absent : '\'' ∉ front) (rest : List Char)
    (before : Option Char) (offset : Nat) :
    keyRule ⟨before, offset, '\'' :: (front ++ '\'' :: '\'' :: rest)⟩ = none := by
  have keyRead : key.Reads ('\'' :: (front ++ ['\''])) ([] ++ '\'' :: rest) :=
    reads_singleKey absent _
  have noIndent : (many isIndent).Reads [] ('\'' :: rest) :=
    reads_many (by simp) (by simpa [Stops] using (by decide : isIndent '\'' = false))
  have noColon : (char ':').Misses ('\'' :: rest) := misses_one (by simp [Stops])
  have split : '\'' :: (front ++ '\'' :: '\'' :: rest) =
      '\'' :: (front ++ ['\'']) ++ ([] ++ '\'' :: rest) := by simp
  rw [split, keyRule, Rule.sequence_cons_of_piece (Rule.token_of_reads keyRead _) rfl,
    Rule.sequence_cons_of_piece (Rule.skip_of_reads noIndent) rfl,
    Rule.sequence_cons_of_none (Rule.token_of_misses noColon _)]
  rfl

theorem spans_of_keyless {c : Char} {others : List Char} (noIndent : isIndent c = false)
    (noDash : c ≠ '-') (keyless : keyRule (.start (c :: others)) = none) :
    ∀ span ∈ spans (c :: others), span.kind ≠ .key := by
  have values : ∀ kind ∈ valueKinds, kind ≠ .key := by decide
  have nothing : head (.start (c :: others)) = some [.plain 0] := by
    rw [head_of_opening noIndent noDash, keyless, Option.getD_none]
  unfold spans
  dsimp only
  split
  · simp
  split
  · simp
  · rw [nothing, Option.getD_some, contentSpans]
    simp only [List.forall_mem_append]
    refine ⟨by simp [Piece.spansFrom, Piece.plain],
      fun span listed => values _ (valueSpans_kinds _ _ span listed), ?_⟩
    split <;> simp

/-- A scalar with a doubled quote is not read as a key. -/
theorem no_key_of_holdsQuote (isQuoted : IsQuoted text) (doubled : HoldsQuote text)
    (rest : List Char) :
    ∀ token ∈ tokenize .yaml (String.ofList (text ++ rest)), token.kind ≠ .key := by
  obtain ⟨body, rfl, member⟩ := doubled
  have spelled : DoubledBody '\'' body := by
    rcases isQuoted with ⟨inner, same, -⟩ | ⟨inner, same, spelled⟩
    · simp at same
    · obtain rfl : body = inner := by simpa using same
      exact spelled
  obtain ⟨front, back, rfl, absent⟩ := exists_pair_of_doubledBody spelled member
  have line : '\'' :: (front ++ '\'' :: '\'' :: back ++ ['\'']) ++ rest =
      '\'' :: (front ++ '\'' :: '\'' :: (back ++ '\'' :: rest)) := by simp
  intro token listed isKey
  rw [line, tokenize, String.toList_ofList] at listed
  have keyless := keyRule_of_pair absent (back ++ '\'' :: rest) none 0
  have kinds := spans_of_keyless (by decide) (by decide) keyless
  exact kind_of_mem_coverLine (· ≠ .key) kinds listed (by simp [isKey]) isKey

theorem contentSpans_of_one (offset : Nat) :
    contentSpans offset ['1'] = [⟨.number, offset, offset + byteSize ['1']⟩] :=
  contentSpans_of_whole (by simp) rfl (by simpa using (by decide : isBlank '1' = false))
    (by simpa using (by decide : isBlank '1' = false)) (by decide +kernel) offset

end Grammar.Yaml

open Grammar.Yaml in
/-- A scalar that is one quoted value is one key in front of a colon, just when it is not between
single quotes with a quote inside. -/
theorem tokenize_quoted_key {scalar : String} (accepted : quoted.spans scalar.toList) :
    tokenize .yaml (scalar ++ ": 1") =
        [⟨.key, scalar⟩, ⟨.punctuation, ":"⟩, ⟨.text, " "⟩, ⟨.number, "1"⟩] ↔
      ¬HoldsQuote scalar.toList := by
  have isQuoted := isQuoted_of_reads (Lexeme.reads_of_spans accepted)
  constructor
  · intro tokens doubled
    have line : String.ofList (scalar.toList ++ ": 1".toList) = scalar ++ ": 1" := by
      rw [String.ofList_append, String.ofList_toList, String.ofList_toList]
    have noKey := no_key_of_holdsQuote isQuoted doubled ": 1".toList
    rw [line, tokens] at noKey
    exact noKey ⟨.key, scalar⟩ List.mem_cons_self rfl
  · intro single
    have line : String.ofList (keyLine scalar.toList ['1']) = scalar ++ ": 1" := by
      rw [keyLine, String.ofList_append, String.ofList_toList]
    have opens : Lexeme.Stops isIndent ['1'] := by
      simpa [Lexeme.Stops] using (by decide : isIndent '1' = false)
    have tokens := tokens_of_wholeValue (isKey_of_isQuoted isQuoted single) (by simp) opens
      contentSpans_of_one
    rw [line, String.ofList_toList] at tokens
    exact tokens

open Grammar.Yaml in
/-- Colons, number signs and escaped quotes in a key are part of it. -/
theorem key_with_marks :
    quoted.spans "\"a: \\\" #b\"".toList ∧
      tokenize .yaml ("\"a: \\\" #b\"" ++ ": 1") =
        [⟨.key, "\"a: \\\" #b\""⟩, ⟨.punctuation, ":"⟩, ⟨.text, " "⟩, ⟨.number, "1"⟩] := by
  have accepted : quoted.spans "\"a: \\\" #b\"".toList := by decide
  have single : ¬HoldsQuote "\"a: \\\" #b\"".toList := by
    rintro ⟨body, same, -⟩
    simp at same
  exact ⟨accepted, (tokenize_quoted_key accepted).mpr single⟩

open Grammar.Yaml in
/-- A value between single quotes that holds a doubled quote is no key. -/
theorem key_of_doubled_quote :
    quoted.spans "'it''s'".toList ∧ tokenize .yaml "'it''s': 1" = [⟨.text, "'it''s': 1"⟩] := by
  decide +kernel

end Highlight
