import Highlight.Proofs.Reach
import Highlight.Proofs.Readings

/-!
Where lexemes and rules end. What comes next is known from the class that the last part has gone
through, or from the last character that has been read.
-/

set_option autoImplicit false

namespace Highlight

open Text

/-! ## Lexemes -/

namespace Text.Lexeme

/-- Does no member of a class follow what the lexeme reads? -/
def Halts (isMember : Char → Bool) (lexeme : Lexeme) : Prop :=
  ∀ ⦃text rest⦄, lexeme.Reads text rest → Stops isMember rest

/-- Does no member of a class follow what the lexeme reads where that ends with a member of
another one? -/
def Seals (isLast isNext : Char → Bool) (lexeme : Lexeme) : Prop :=
  ∀ ⦃text rest⦄, lexeme.Reads text rest → ∀ c ∈ text.getLast?, isLast c → Stops isNext rest

section Endings

variable {first second lexeme : Lexeme} {isMember isOther isLast isNext : Char → Bool}

theorem halts_many (within : ∀ c, isMember c → isOther c) : (many isOther).Halts isMember :=
  fun _ _ read => (reads_many_iff.mp read).2.mono within

theorem halts_run (isMember : Char → Bool) : (run isMember).Halts isMember :=
  fun _ _ read => (reads_run_iff.mp read).2.2

theorem halts_wordEnd : wordEnd.Halts isWord :=
  fun _ _ read => (reads_wordEnd_iff.mp read).2

theorem halts_restOfLine : restOfLine.Halts isMember := by
  intro text rest read
  obtain rfl := eq_nil_of_reads_restOfLine read
  intro c head
  contradiction

theorem halts_atEnd : atEnd.Halts isMember := by
  intro text rest read
  obtain ⟨-, rfl⟩ := reads_atEnd_iff.mp read
  intro c head
  contradiction

theorem halts_andThen (first : Lexeme) (halts : second.Halts isMember) :
    (first ++ second).Halts isMember := by
  intro text rest read
  obtain ⟨before, after, rfl, -, secondRead⟩ := reads_andThen_iff.mp read
  exact halts secondRead

theorem halts_orElse (one : first.Halts isMember) (other : second.Halts isMember) :
    (first <|> second).Halts isMember := by
  intro text rest read
  rcases reads_orElse_iff.mp read with firstRead | ⟨-, secondRead⟩
  · exact one firstRead
  · exact other secondRead

theorem Halts.mono (halts : lexeme.Halts isOther) (within : ∀ c, isMember c → isOther c) :
    lexeme.Halts isMember :=
  fun _ _ read => (halts read).mono within

theorem Halts.seals (halts : lexeme.Halts isNext) (isLast : Char → Bool) :
    lexeme.Seals isLast isNext :=
  fun _ _ read _ _ _ => halts read

theorem seals_orElse (one : first.Seals isLast isNext) (other : second.Seals isLast isNext) :
    (first <|> second).Seals isLast isNext := by
  intro text rest read
  rcases reads_orElse_iff.mp read with firstRead | ⟨-, secondRead⟩
  · exact one firstRead
  · exact other secondRead

theorem seals_one (outside : ∀ c, isMember c → isLast c = false) :
    (one isMember).Seals isLast isNext := by
  intro text rest read c last isEnd
  obtain ⟨d, rfl, member⟩ := reads_one_iff.mp read
  obtain rfl : d = c := Option.some.inj last
  simp [outside d member] at isEnd

theorem seals_oneOf {members : List Char} (outside : members.all fun c => !isLast c) :
    (oneOf members).Seals isLast isNext :=
  seals_one fun c listed => by simpa using List.all_eq_true.mp outside c (by simpa using listed)

theorem seals_anyOf {choices : List String}
    (outside : choices.all fun choice => choice.toList.getLast?.all fun c => !isLast c) :
    (anyOf choices).Seals isLast isNext := by
  intro text rest read c last isMember
  obtain ⟨choice, listed, rfl⟩ := exists_of_reads_anyOf read
  have excluded := List.all_eq_true.mp outside choice listed
  rw [Option.mem_def.mp last] at excluded
  simp [isMember] at excluded

theorem seals_of_enquoted {quote : Char} {Body : List Char → Prop}
    (enquoted : ∀ ⦃text rest⦄, lexeme.Reads text rest → Enquoted quote Body text)
    (outside : isLast quote = false) : lexeme.Seals isLast isNext := by
  intro text rest read c last isMember
  obtain ⟨body, rfl, -⟩ := enquoted read
  rw [← List.cons_append, List.getLast?_concat] at last
  obtain rfl : quote = c := Option.some.inj last
  simp [outside] at isMember

theorem seals_blockComment {opening closing : String} {marks : List Char} {last : Char}
    (spelled : closing.toList = marks ++ [last]) (outside : isLast last = false) :
    (blockComment opening closing).Seals isLast isNext := by
  intro text rest read c isEnd isMember
  rcases closed_of_reads_blockComment read with ⟨body, rfl⟩ | ⟨-, rfl⟩
  · rw [spelled, ← List.append_assoc, ← List.append_assoc, List.getLast?_concat] at isEnd
    obtain rfl : last = c := Option.some.inj isEnd
    simp [outside] at isMember
  · intro d head
    contradiction

theorem seals_starComment {mark : String} (outside : isLast '/' = false) :
    ((literal mark ++ restOfLine) <|> blockComment "/*" "*/").Seals isLast isNext := by
  have closing : "*/".toList = ['*'] ++ ['/'] := rfl
  exact seals_orElse ((halts_andThen _ halts_restOfLine).seals _)
    (seals_blockComment closing outside)

/-- Is the last character of what the lexeme reads, if there is one, a member of a class? -/
def Ends (isMember : Char → Bool) (lexeme : Lexeme) : Prop :=
  ∀ ⦃text rest⦄, lexeme.Reads text rest → ∀ c ∈ text.getLast?, isMember c

theorem ends_one (within : ∀ c, isOther c → isMember c) : (one isOther).Ends isMember := by
  intro text rest read c last
  obtain ⟨d, rfl, member⟩ := reads_one_iff.mp read
  obtain rfl : d = c := Option.some.inj last
  exact within d member

theorem ends_char {expected : Char} (member : isMember expected) :
    (char expected).Ends isMember :=
  ends_one fun c same => by rwa [eq_of_beq same]

theorem ends_oneOf {members : List Char} (within : members.all isMember) :
    (oneOf members).Ends isMember :=
  ends_one fun c listed => List.all_eq_true.mp within c (by simpa using listed)

theorem ends_many (within : ∀ c, isOther c → isMember c) : (many isOther).Ends isMember :=
  fun _ _ read c last => within c ((reads_many_iff.mp read).1 c (List.mem_of_getLast? last))

theorem ends_run (within : ∀ c, isOther c → isMember c) : (run isOther).Ends isMember :=
  fun _ _ read c last => within c ((reads_run_iff.mp read).2.1 c (List.mem_of_getLast? last))

theorem ends_atEnd : atEnd.Ends isMember := by
  intro text rest read c last
  obtain ⟨rfl, -⟩ := reads_atEnd_iff.mp read
  contradiction

theorem ends_andThen (one : first.Ends isMember) (other : second.Ends isMember) :
    (first ++ second).Ends isMember := by
  intro text rest read c last
  obtain ⟨before, after, rfl, firstRead, secondRead⟩ := reads_andThen_iff.mp read
  rw [List.getLast?_append, Option.mem_def, Option.or_eq_some_iff] at last
  rcases last with later | ⟨-, earlier⟩
  · exact other secondRead c later
  · exact one firstRead c earlier

/-- A sequence ends as its second part does when that reads something. -/
theorem ends_andThen_right (first : Lexeme) (advances : second.Advances)
    (ends : second.Ends isMember) : (first ++ second).Ends isMember := by
  intro text rest read c last
  obtain ⟨before, after, rfl, -, secondRead⟩ := reads_andThen_iff.mp read
  rw [List.getLast?_append_of_ne_nil before (advances secondRead)] at last
  exact ends secondRead c last

theorem ends_orElse (one : first.Ends isMember) (other : second.Ends isMember) :
    (first <|> second).Ends isMember := by
  intro text rest read
  rcases reads_orElse_iff.mp read with firstRead | ⟨-, secondRead⟩
  · exact one firstRead
  · exact other secondRead

end Endings

end Text.Lexeme

/-! ## Rules -/

namespace Rule

/-- Does no member of a class follow what the rule reads where that ends with a member of another
one? -/
def Seals (isLast isNext : Char → Bool) (rule : Rule) : Prop :=
  ∀ ⦃before offset segments rest⦄, rule.Reads before offset segments rest →
    ∀ c ∈ (Segment.characters segments).getLast?, isLast c → Lexeme.Stops isNext rest

section Endings

variable {rule : Rule} {lexeme : Lexeme} {isLast isNext : Char → Bool}

theorem seals_classified (seals : lexeme.Seals isLast isNext)
    (kindOf : List Char → Option TokenKind) : (classified kindOf lexeme).Seals isLast isNext := by
  intro before offset segments rest read
  obtain ⟨text, rfl, reads⟩ := read.of_classified
  simpa using seals reads

theorem seals_token (seals : lexeme.Seals isLast isNext) (kind : TokenKind) :
    (token kind lexeme).Seals isLast isNext :=
  seals_classified seals fun _ => some kind

theorem seals_skip (seals : lexeme.Seals isLast isNext) : (skip lexeme).Seals isLast isNext :=
  seals_classified seals fun _ => none

theorem seals_atWordStart (seals : rule.Seals isLast isNext) :
    (atWordStart rule).Seals isLast isNext :=
  fun _ _ _ _ read => seals read.of_atWordStart

theorem seals_atLineStart (seals : rule.Seals isLast isNext) :
    (atLineStart rule).Seals isLast isNext :=
  fun _ _ _ _ read => seals read.of_atLineStart

/-- What is read beyond the indentation. -/
theorem Reads.of_indented {indent : Lexeme} {kind : TokenKind} {before : Option Char}
    {offset : Nat} {segments : List Segment} {rest : List Char}
    (read : (sequence [skip indent, token kind lexeme]).Reads before offset segments rest) :
    ∃ blanks text, segments = [.plain blanks, .labelled kind text] ∧ lexeme.Reads text rest := by
  obtain ⟨first, others, rfl, blanksRead, read⟩ := read.of_sequence_cons
  obtain ⟨blanks, rfl, -⟩ := blanksRead.of_skip
  obtain ⟨second, others, rfl, ownRead, read⟩ := read.of_sequence_cons
  obtain ⟨text, rfl, reads⟩ := reads_token_iff.mp ownRead
  obtain rfl := read.of_sequence_nil
  exact ⟨blanks, text, rfl, reads⟩

theorem seals_indented (halts : lexeme.Halts isNext) (indent : Lexeme) (kind : TokenKind) :
    (sequence [skip indent, token kind lexeme]).Seals isLast isNext := by
  intro before offset segments rest read c _ _
  obtain ⟨blanks, text, -, reads⟩ := read.of_indented
  exact halts reads

/-- What a sequence reads ends with what its last rule reads. -/
theorem Reads.of_sequence_concat {rules : List Rule} {before : Option Char} {offset : Nat}
    {segments : List Segment} {rest : List Char}
    (read : (sequence (rules ++ [rule])).Reads before offset segments rest) :
    ∃ others last before offset, segments = others ++ last ∧
      rule.Reads before offset last rest := by
  induction rules generalizing before offset segments with
  | nil =>
    obtain ⟨last, others, rfl, own, read⟩ := read.of_sequence_cons
    obtain rfl := read.of_sequence_nil
    exact ⟨[], last, before, offset, by simp, own⟩
  | cons first rules inductionHypothesis =>
    obtain ⟨front, others, rfl, -, read⟩ := read.of_sequence_cons
    obtain ⟨middle, last, before, offset, rfl, own⟩ := inductionHypothesis read
    exact ⟨front ++ middle, last, before, offset, (List.append_assoc _ _ _).symm, own⟩

/-- Is the last character of what the rule reads, if there is one, a member of a class? -/
def Ends (isMember : Char → Bool) (rule : Rule) : Prop :=
  ∀ ⦃before offset segments rest⦄, rule.Reads before offset segments rest →
    ∀ c ∈ (Segment.characters segments).getLast?, isMember c

theorem ends_classified {isMember : Char → Bool} (ends : lexeme.Ends isMember)
    (kindOf : List Char → Option TokenKind) : (classified kindOf lexeme).Ends isMember := by
  intro before offset segments rest read
  obtain ⟨text, rfl, reads⟩ := read.of_classified
  simpa using ends reads

theorem ends_token {isMember : Char → Bool} (ends : lexeme.Ends isMember) (kind : TokenKind) :
    (token kind lexeme).Ends isMember :=
  ends_classified ends fun _ => some kind

theorem ends_skip {isMember : Char → Bool} (ends : lexeme.Ends isMember) :
    (skip lexeme).Ends isMember :=
  ends_classified ends fun _ => none

theorem ends_trimmed {isMember : Char → Bool} (ends : lexeme.Ends isMember)
    (kindOf : List Char → Option TokenKind) : (trimmed kindOf lexeme).Ends isMember := by
  intro before offset segments rest read
  obtain ⟨core, blanks, rfl, reads⟩ := read.of_trimmed
  simpa [Segment.plain] using ends reads

theorem ends_optional {isMember : Char → Bool} (ends : rule.Ends isMember) :
    (optional rule).Ends isMember := by
  intro before offset segments rest read
  rcases read.of_optional with rfl | own
  · simp
  · exact ends own

theorem ends_sequence {isMember : Char → Bool} {rules : List Rule}
    (parts : ∀ rule ∈ rules, rule.Ends isMember) : (sequence rules).Ends isMember := by
  induction rules with
  | nil =>
    intro before offset segments rest read
    obtain rfl := read.of_sequence_nil
    simp
  | cons rule rules inductionHypothesis =>
    intro before offset segments rest read c last
    obtain ⟨head, tail⟩ := List.forall_mem_cons.mp parts
    obtain ⟨first, others, rfl, own, following⟩ := read.of_sequence_cons
    rw [Segment.characters_append, List.getLast?_append, Option.mem_def,
      Option.or_eq_some_iff] at last
    rcases last with later | ⟨-, earlier⟩
    · exact inductionHypothesis tail following c later
    · exact head own c earlier

end Endings

end Rule

end Highlight
