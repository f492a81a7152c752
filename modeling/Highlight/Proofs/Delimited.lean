import Highlight.Proofs.Lexemes

/-!
Delimited texts: comments between two marks, and texts in quotes whose inner quotes are escaped or
doubled. Each is read from its opening to its closing mark, and no further.
-/

set_option autoImplicit false

namespace Highlight.Text

open Lexeme

/-! ## Comments -/

/-- A mark that does not stand in a text does not start in it either, when its last character
is only at its end. -/
theorem not_prefix_of_not_infix {marks left rest : List Char} {last : Char}
    (once : last ∉ marks) (present : left ≠ []) (absent : ¬marks ++ [last] <:+: left) :
    ¬marks ++ [last] <+: left ++ (marks ++ [last] ++ rest) := by
  rintro ⟨others, same⟩
  obtain ⟨more, within, -⟩ | ⟨overlap, whole, following⟩ := List.append_eq_append_iff.mp same
  · exact absent ⟨[], more, by simp [within]⟩
  obtain rfl | ⟨front, final, rfl⟩ := List.eq_nil_or_concat overlap
  · exact absent ⟨[], [], by simpa using whole⟩
  rw [List.concat_eq_append, ← List.append_assoc] at whole
  rw [List.concat_eq_append] at following
  obtain ⟨rfl, sameLast⟩ := List.append_inj' whole rfl
  obtain rfl : last = final := by simpa using sameLast
  -- The overlap ends with the last character and lies before the end of the next mark.
  have starts : front ++ [last] <+: left ++ front ++ ([last] ++ rest) :=
    ⟨others, by simpa using following.symm⟩
  have shorter : (front ++ [last]).length ≤ (left ++ front).length := by
    have positive := List.length_pos_iff.mpr present
    simp only [List.length_append, List.length_singleton]
    omega
  have inside := List.prefix_of_prefix_length_le starts (List.prefix_append _ _) shorter
  exact once (inside.subset (by simp))

theorem closedLength?_of_body {marks body : List Char} {last : Char} (once : last ∉ marks)
    (absent : ¬marks ++ [last] <:+: body) (noFeed : '\n' ∉ body) (taken : Nat)
    (rest : List Char) :
    closedLength? (marks ++ [last]) taken (body ++ (marks ++ [last] ++ rest)) =
      some (taken + body.length + (marks ++ [last]).length) := by
  induction body generalizing taken with
  | nil =>
    obtain ⟨c, others, opened⟩ : ∃ c others, marks ++ [last] = c :: others :=
      List.exists_cons_of_ne_nil (by simp)
    rw [List.nil_append, opened, List.cons_append, closedLength?]
    simp
  | cons c body inductionHypothesis =>
    have notHere : ¬marks ++ [last] <+: c :: body ++ (marks ++ [last] ++ rest) :=
      not_prefix_of_not_infix once (List.cons_ne_nil c body) absent
    have later : ¬marks ++ [last] <:+: body := fun isInfix =>
      absent (isInfix.trans (List.suffix_cons c body).isInfix)
    rw [List.mem_cons, not_or] at noFeed
    rw [List.cons_append, closedLength?, if_neg (by simpa using notHere),
      if_neg (by simpa using Ne.symm noFeed.1), inductionHypothesis later noFeed.2]
    simp only [List.length_cons, Option.some.injEq]
    omega

theorem reads_blockComment {opening closing : String} {marks body : List Char} {last : Char}
    (spelled : closing.toList = marks ++ [last]) (once : last ∉ marks)
    (absent : ¬closing.toList <:+: body) (noFeed : '\n' ∉ body) (rest : List Char) :
    (blockComment opening closing).Reads (opening.toList ++ (body ++ closing.toList)) rest := by
  have opened := reads_literal opening (body ++ closing.toList ++ rest)
  have closed : Reads ⟨closedLength? closing.toList 0⟩ (body ++ closing.toList) rest := by
    rw [spelled] at absent ⊢
    simpa [Reads] using closedLength?_of_body once absent noFeed 0 rest
  exact reads_andThen opened closed

/-- A comment between stars is told from one that runs to the end of the line by its mark. -/
theorem reads_starComment {mark : String} {body rest : List Char}
    (apart : (literal mark).Misses ("/*".toList ++ (body ++ "*/".toList) ++ rest))
    (absent : ¬"*/".toList <:+: body) (noFeed : '\n' ∉ body) :
    ((literal mark ++ restOfLine) <|> blockComment "/*" "*/").Reads
      ("/*".toList ++ (body ++ "*/".toList)) rest := by
  have closing : "*/".toList = ['*'] ++ ['/'] := rfl
  have block : (blockComment "/*" "*/").Reads ("/*".toList ++ (body ++ "*/".toList)) rest :=
    reads_blockComment closing (by simp) absent noFeed rest
  exact reads_orElse (.inr ⟨misses_andThen apart _, block⟩)

/-! ## Quotes -/

/-- What may stand between quotes when a backslash takes the character after it along. -/
inductive EscapedBody (quote : Char) : List Char → Prop
  | nil : EscapedBody quote []
  | character {c : Char} {rest : List Char} : c ≠ quote → c ≠ '\\' → EscapedBody quote rest →
      EscapedBody quote (c :: rest)
  | escape {c : Char} {rest : List Char} : c ≠ '\n' → EscapedBody quote rest →
      EscapedBody quote ('\\' :: c :: rest)

/-- What may stand between quotes when a quote inside is written twice. -/
inductive DoubledBody (quote : Char) : List Char → Prop
  | nil : DoubledBody quote []
  | character {c : Char} {rest : List Char} : c ≠ quote → DoubledBody quote rest →
      DoubledBody quote (c :: rest)
  | pair {rest : List Char} : DoubledBody quote rest → DoubledBody quote (quote :: quote :: rest)

/-- Text between two quotes. -/
def Enquoted (quote : Char) (Body : List Char → Prop) (text : List Char) : Prop :=
  ∃ body, text = quote :: (body ++ [quote]) ∧ Body body

theorem escapedLength?_of_body {quote : Char} {body : List Char} (noBackslash : quote ≠ '\\')
    (spelled : EscapedBody quote body) (taken : Nat) (rest : List Char) :
    escapedLength? quote taken (body ++ quote :: rest) = some (taken + body.length + 1) := by
  induction spelled generalizing taken with
  | nil =>
    rw [List.nil_append, escapedLength?]
    · simp
    · exact fun _ _ isBackslash => absurd isBackslash noBackslash
  | @character c body noQuote plain _ inductionHypothesis =>
    rw [List.cons_append, escapedLength?]
    · simp only [beq_iff_eq, noQuote, plain, ↓reduceIte, inductionHypothesis, List.length_cons,
        Option.some.injEq]
      omega
    · exact fun _ _ isBackslash => absurd isBackslash plain
  | @escape c body noFeed _ inductionHypothesis =>
    simp only [List.cons_append, escapedLength?, beq_iff_eq, noFeed, ↓reduceIte,
      inductionHypothesis, List.length_cons, Option.some.injEq]
    omega

theorem reads_escapedQuote {quote : Char} {text : List Char} (noBackslash : quote ≠ '\\')
    (enquoted : Enquoted quote (EscapedBody quote) text) (rest : List Char) :
    (escapedQuote quote).Reads text rest := by
  obtain ⟨body, rfl, spelled⟩ := enquoted
  have opened : (char quote).Reads [quote] (body ++ [quote] ++ rest) :=
    reads_one (by simp) _
  have closed : Reads ⟨escapedLength? quote 0⟩ (body ++ [quote]) rest := by
    simpa [Reads] using escapedLength?_of_body noBackslash spelled 0 rest
  exact reads_andThen opened closed

/-- A quote that no other quote follows closes the text. -/
theorem doubledLength?_of_body {quote : Char} {body rest : List Char}
    (spelled : DoubledBody quote body) (ends : rest.head? ≠ some quote) (fallback : Option Nat)
    (taken : Nat) :
    doubledLength? quote fallback taken (body ++ quote :: rest) =
      some (taken + body.length + 1) := by
  induction spelled generalizing fallback taken with
  | nil =>
    cases rest with
    | nil => simp [doubledLength?]
    | cons c rest =>
      have different : c ≠ quote := by simpa using ends
      simp [doubledLength?, different]
  | character noQuote _ inductionHypothesis =>
    rw [List.cons_append, doubledLength?.eq_def]
    simp only [beq_iff_eq, noQuote, ↓reduceIte, inductionHypothesis, List.length_cons,
      Option.some.injEq]
    omega
  | pair _ inductionHypothesis =>
    simp only [List.cons_append, doubledLength?, beq_self_eq_true, ↓reduceIte,
      inductionHypothesis, List.length_cons, Option.some.injEq]
    omega

theorem reads_doubledQuote {quote : Char} {text rest : List Char}
    (enquoted : Enquoted quote (DoubledBody quote) text) (ends : rest.head? ≠ some quote) :
    (doubledQuote quote).Reads text rest := by
  obtain ⟨body, rfl, spelled⟩ := enquoted
  have opened : (char quote).Reads [quote] (body ++ [quote] ++ rest) :=
    reads_one (by simp) _
  have closed : Reads ⟨doubledLength? quote none 0⟩ (body ++ [quote]) rest := by
    simpa [Reads] using doubledLength?_of_body spelled ends none 0
  exact reads_andThen opened closed

end Highlight.Text
