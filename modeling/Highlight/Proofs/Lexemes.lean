import Mathlib.Data.List.TakeWhile
import Highlight.Proofs.Segments

/-!
What lexemes read. A lexeme reads a text before a rest when it takes up the text and leaves the
rest alone; a sequence reads what its parts read one after the other.
-/

set_option autoImplicit false

namespace Highlight

namespace Text.Lexeme

/-- Does the lexeme take up just the first of two texts that follow one another? -/
def Reads (lexeme : Lexeme) (text rest : List Char) : Prop :=
  lexeme.length? (text ++ rest) = some text.length

/-- Does the lexeme not occur at the head of a text? -/
def Misses (lexeme : Lexeme) (text : List Char) : Prop :=
  lexeme.length? text = none

instance (lexeme : Lexeme) (text rest : List Char) : Decidable (lexeme.Reads text rest) :=
  inferInstanceAs (Decidable (lexeme.length? (text ++ rest) = some text.length))

instance (lexeme : Lexeme) (text : List Char) : Decidable (lexeme.Misses text) :=
  inferInstanceAs (Decidable (lexeme.length? text = none))

/-- Is the first character of a text, if there is one, outside a class? -/
def Stops (isMember : Char → Bool) (text : List Char) : Prop :=
  ∀ c ∈ text.head?, isMember c = false

variable {first second lexeme : Lexeme} {isMember : Char → Bool} {text other rest : List Char}

theorem reads_andThen (before : first.Reads text (other ++ rest))
    (after : second.Reads other rest) :
    (first ++ second).Reads (text ++ other) rest := by
  change (andThen first second).length? _ = _
  simp only [Reads] at before after
  simp [andThen, before, after]

theorem misses_andThen (missed : first.Misses text) (second : Lexeme) :
    (first ++ second).Misses text := by
  change (andThen first second).length? _ = _
  simp only [Misses] at missed
  simp [andThen, missed]

theorem misses_andThen_of_reads (before : first.Reads text rest) (missed : second.Misses rest) :
    (first ++ second).Misses (text ++ rest) := by
  change (andThen first second).length? _ = _
  simp only [Reads] at before
  simp only [Misses] at missed
  simp [andThen, before, missed]

theorem reads_one {c : Char} (member : isMember c) (rest : List Char) :
    (one isMember).Reads [c] rest := by
  simp [Reads, one, member]

theorem misses_one (absent : Stops isMember text) : (one isMember).Misses text := by
  cases text with
  | nil => rfl
  | cons c text => simp [Misses, one, absent c rfl]

/-- A run of members that no member follows is counted exactly. -/
theorem countRun_append (members : ∀ c ∈ text, isMember c)
    (stops : Stops isMember rest) :
    countRun isMember 0 (text ++ rest) = text.length := by
  have nothing : rest.takeWhile isMember = [] := by
    cases rest with
    | nil => rfl
    | cons c rest => simp [stops c rfl]
  rw [countRun_eq, List.takeWhile_append_of_pos members, nothing]
  simp

theorem reads_many (members : ∀ c ∈ text, isMember c)
    (stops : Stops isMember rest) : (many isMember).Reads text rest := by
  simp [Reads, many, countRun_append members stops]

theorem reads_run (present : text ≠ []) (members : ∀ c ∈ text, isMember c)
    (stops : Stops isMember rest) : (run isMember).Reads text rest := by
  simp [Reads, run, countRun_append members stops, present]

theorem misses_run (absent : Stops isMember text) : (run isMember).Misses text := by
  have nothing : countRun isMember 0 ([] ++ text) = 0 := countRun_append (by simp) absent
  rw [List.nil_append] at nothing
  simp [Misses, run, nothing]

theorem reads_optional (reads : lexeme.Reads text rest) : (optional lexeme).Reads text rest := by
  simp only [Reads] at reads
  simp [Reads, optional, reads]

theorem reads_optional_of_misses (missed : lexeme.Misses rest) :
    (optional lexeme).Reads [] rest := by
  simp only [Misses] at missed
  simp [Reads, optional, missed]

theorem reads_literal (expected : String) (rest : List Char) :
    (literal expected).Reads expected.toList rest := by
  simp [Reads, literal, String.length_toList]

theorem misses_literal {expected : String} {c d : Char} {others : List Char}
    (spelled : expected.toList = c :: others) (different : c ≠ d) (rest : List Char) :
    (literal expected).Misses (d :: rest) := by
  simp [Misses, literal, spelled, different]

theorem misses_literal_of_not_isPrefix {expected : String} (absent : ¬expected.toList <+: text) :
    (literal expected).Misses text := by
  simp [Misses, literal, absent]

theorem reads_anyOf {choice : String} {choices : List String}
    (reads : (literal choice).Reads text rest ∨
      (literal choice).Misses (text ++ rest) ∧ (anyOf choices).Reads text rest) :
    (anyOf (choice :: choices)).Reads text rest := by
  simp only [Reads, Misses] at reads
  obtain found | ⟨missed, found⟩ := reads
  · simp [Reads, anyOf, found]
  · simpa [Reads, anyOf, missed] using found

theorem misses_anyOf {choices : List String}
    (missed : ∀ choice ∈ choices, (literal choice).Misses text) : (anyOf choices).Misses text :=
  List.findSome?_eq_none_iff.mpr missed

theorem orElse_length? (text : List Char) :
    (first <|> second).length? text = (first.length? text).or (second.length? text) := by
  simp [HOrElse.hOrElse, OrElse.orElse, orElse, Option.orElse_eq_or]

theorem reads_orElse (reads : first.Reads text rest ∨
    first.Misses (text ++ rest) ∧ second.Reads text rest) :
    (first <|> second).Reads text rest := by
  rw [Reads, orElse_length?]
  rcases reads with read | ⟨missed, read⟩
  · rw [read, Option.some_or]
  · rw [missed, Option.none_or, read]

theorem misses_orElse (one : first.Misses text) (other : second.Misses text) :
    (first <|> second).Misses text := by
  rw [Misses, orElse_length?, one, other, Option.none_or]

theorem reads_wordEnd (ends : Stops isWord rest) : wordEnd.Reads [] rest := by
  cases rest with
  | nil => rfl
  | cons c rest => simp [Reads, wordEnd, ahead, wordEnds, ends c rfl]

theorem reads_restOfLine (oneLine : '\n' ∉ text) : restOfLine.Reads text [] := by
  have noFeed : text.all (· != '\n') :=
    List.all_eq_true.mpr fun c member => by simpa using ne_of_mem_of_not_mem member oneLine
  simp only [Reads, restOfLine, List.append_nil, noFeed, ↓reduceIte]

end Text.Lexeme

/-! ## Rules -/

namespace Rule

open Text

variable {kind : TokenKind} {lexeme : Lexeme} {place : Place} {rule : Rule} {rules : List Rule}

theorem token_of_reads {before : Option Char} {offset : Nat} {text rest : List Char}
    (reads : lexeme.Reads text rest) (kind : TokenKind) :
    token kind lexeme ⟨before, offset, text ++ rest⟩ = some [.labelled kind text.length] := by
  simp only [Lexeme.Reads] at reads
  simp [token, reads]

theorem skip_of_reads {before : Option Char} {offset : Nat} {text rest : List Char}
    (reads : lexeme.Reads text rest) :
    skip lexeme ⟨before, offset, text ++ rest⟩ = some [.plain text.length] := by
  simp only [Lexeme.Reads] at reads
  simp [skip, classified, reads, Piece.plain]

theorem token_of_misses (missed : lexeme.Misses place.rest) (kind : TokenKind) :
    token kind lexeme place = none := by
  simp only [Lexeme.Misses] at missed
  simp [token, missed]

theorem classified_of_reads {before : Option Char} {offset : Nat} {text rest : List Char}
    (reads : lexeme.Reads text rest) (kindOf : List Char → Option TokenKind) :
    classified kindOf lexeme ⟨before, offset, text ++ rest⟩ =
      some [⟨kindOf text, text.length⟩] := by
  simp only [Lexeme.Reads] at reads
  simp [classified, reads]

theorem classified_of_misses (missed : lexeme.Misses place.rest)
    (kindOf : List Char → Option TokenKind) : classified kindOf lexeme place = none := by
  simp only [Lexeme.Misses] at missed
  simp [classified, missed]

theorem skip_of_misses (missed : lexeme.Misses place.rest) : skip lexeme place = none :=
  classified_of_misses missed _

theorem atWordStart_of_clear (clear : ∀ c ∈ place.before, isWord c = false) (rule : Rule) :
    atWordStart rule place = rule place := by
  have starts : place.wordStarts := by
    cases before : place.before with
    | none => simp [Place.wordStarts, before]
    | some c => simpa [Place.wordStarts, before] using clear c before
  simp [atWordStart, starts]

/-- A word is read where no word character stands before it or after it. -/
theorem word_of_reads {before : Option Char} {offset : Nat} {text rest : List Char}
    (clear : ∀ c ∈ before, isWord c = false) (reads : lexeme.Reads text rest)
    (ends : Lexeme.Stops isWord rest) (kind : TokenKind) :
    atWordStart (token kind (lexeme ++ .wordEnd)) ⟨before, offset, text ++ rest⟩ =
      some [.labelled kind text.length] := by
  have whole := Lexeme.reads_andThen reads (Lexeme.reads_wordEnd ends)
  rw [List.append_nil] at whole
  rw [atWordStart_of_clear clear]
  exact token_of_reads whole kind

theorem atWordStart_of_none (nothing : rule place = none) : atWordStart rule place = none := by
  simp [atWordStart, nothing]

theorem sequence_cons_of_none (nothing : rule place = none) :
    sequence (rule :: rules) place = none := by
  simp [sequence, nothing]

theorem optional_of_none (nothing : rule place = none) : optional rule place = some [] := by
  simp [optional, nothing]

/-- A sequence goes on behind the pieces that its first rule reads. -/
theorem sequence_cons_of_some {pieces : List Piece} (read : rule place = some pieces) :
    sequence (rule :: rules) place =
      (sequence rules (place.forward (Piece.total pieces))).map (pieces ++ ·) := by
  simp only [sequence, read, Option.bind_eq_bind, Option.bind_some]
  cases sequence rules (place.forward (Piece.total pieces)) <;> rfl

theorem sequence_cons_of_piece {before : Option Char} {offset : Nat} {text rest : List Char}
    {piece : Piece} (read : rule ⟨before, offset, text ++ rest⟩ = some [piece])
    (length : piece.length = text.length) :
    sequence (rule :: rules) ⟨before, offset, text ++ rest⟩ =
      (sequence rules ⟨text.getLast?.or before, offset + byteSize text, rest⟩).map
        (piece :: ·) := by
  have total : Piece.total [piece] = text.length := by simp [Piece.total, length]
  rw [sequence_cons_of_some read, total, Place.forward_append]
  rfl

theorem firstOf_cons_of_none (nothing : rule place = none) :
    firstOf (rule :: rules) place = firstOf rules place := by
  simp [firstOf, nothing]

theorem firstOf_cons_of_some {pieces : List Piece} (read : rule place = some pieces) :
    firstOf (rule :: rules) place = some pieces := by
  simp [firstOf, read]

end Rule

end Highlight
