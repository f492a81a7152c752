import Highlight.Proofs.Passages

/-!
Where lexemes and rules may open, and how far they reach. What opens with a class of characters
occurs nowhere else, so that the next character of a text decides which rule of a list can read
it. What avoids a character does not reach beyond its next occurrence.
-/

set_option autoImplicit false

namespace Highlight

open Text

/-! ## First characters -/

namespace Text.Lexeme

/-- Does the lexeme occur only where a member of a class comes next? -/
def OpensWith (isMember : Char → Bool) (lexeme : Lexeme) : Prop :=
  ∀ ⦃text⦄, Stops isMember text → lexeme.Misses text

section Openings

variable {first second lexeme : Lexeme} {isMember isOther : Char → Bool}

theorem Stops.mono {text : List Char} (stops : Stops isOther text)
    (within : ∀ c, isMember c → isOther c) : Stops isMember text := by
  intro c head
  by_contra member
  have inside := within c (by simpa using member)
  simp [stops c head] at inside

theorem Stops.of_append {text rest : List Char} (stops : Stops isMember (text ++ rest)) :
    Stops isMember text := by
  intro c head
  exact stops c (List.mem_head?_append_of_mem_head? head)

theorem OpensWith.mono (opens : lexeme.OpensWith isMember)
    (within : ∀ c, isMember c → isOther c) : lexeme.OpensWith isOther :=
  fun _ stops => opens (stops.mono within)

theorem opensWith_one (isMember : Char → Bool) : (one isMember).OpensWith isMember :=
  fun _ => misses_one

theorem opensWith_run (isMember : Char → Bool) : (run isMember).OpensWith isMember :=
  fun _ => misses_run

theorem opensWith_andThen (opens : first.OpensWith isMember) (second : Lexeme) :
    (first ++ second).OpensWith isMember :=
  fun _ stops => misses_andThen (opens stops) second

theorem opensWith_orElse (one : first.OpensWith isMember) (other : second.OpensWith isMember) :
    (first <|> second).OpensWith isMember :=
  fun _ stops => misses_orElse (one stops) (other stops)

/-- What may be left out does not decide on its own. -/
theorem opensWith_optional_andThen (one : first.OpensWith isMember)
    (other : second.OpensWith isMember) : (optional first ++ second).OpensWith isMember :=
  fun _ stops => misses_andThen_of_reads (reads_optional_of_misses (one stops)) (other stops)

theorem opensWith_literal {expected : String}
    (opens : expected.toList.head?.any isMember) : (literal expected).OpensWith isMember := by
  intro text stops
  cases spelled : expected.toList with
  | nil => simp [spelled] at opens
  | cons c others =>
    have member : isMember c := by simpa [spelled] using opens
    cases text with
    | nil => simp [Misses, literal, spelled]
    | cons d rest =>
      refine misses_literal spelled ?_ rest
      rintro rfl
      simp [stops c rfl] at member

theorem opensWith_anyOf {choices : List String}
    (opens : choices.all fun choice => choice.toList.head?.any isMember) :
    (anyOf choices).OpensWith isMember :=
  fun _ stops => misses_anyOf fun choice member =>
    opensWith_literal (List.all_eq_true.mp opens choice member) stops

end Openings

end Text.Lexeme

namespace Rule

/-- Does the rule read something only where a member of a class comes next? -/
def OpensWith (isMember : Char → Bool) (rule : Rule) : Prop :=
  ∀ ⦃before offset text⦄, Lexeme.Stops isMember text → rule ⟨before, offset, text⟩ = none

section Openings

variable {lexeme : Lexeme} {isMember : Char → Bool} {rule : Rule} {rules : List Rule}

theorem opensWith_token (opens : lexeme.OpensWith isMember) (kind : TokenKind) :
    (token kind lexeme).OpensWith isMember :=
  fun _ _ _ stops => token_of_misses (opens stops) kind

theorem opensWith_skip (opens : lexeme.OpensWith isMember) : (skip lexeme).OpensWith isMember :=
  fun _ _ _ stops => skip_of_misses (opens stops)

theorem opensWith_classified (opens : lexeme.OpensWith isMember)
    (kindOf : List Char → Option TokenKind) : (classified kindOf lexeme).OpensWith isMember :=
  fun _ _ _ stops => classified_of_misses (opens stops) kindOf

theorem opensWith_atWordStart (opens : rule.OpensWith isMember) :
    (atWordStart rule).OpensWith isMember :=
  fun _ _ _ stops => atWordStart_of_none (opens stops)

theorem opensWith_sequence (opens : rule.OpensWith isMember) (rules : List Rule) :
    (sequence (rule :: rules)).OpensWith isMember :=
  fun _ _ _ stops => sequence_cons_of_none (opens stops)

/-- Characters that are skipped may open the rule behind them as well. -/
theorem opensWith_sequence_skip {isSkipped : Char → Bool}
    (within : ∀ c, isSkipped c → isMember c) (opens : rule.OpensWith isMember)
    (rules : List Rule) :
    (sequence (skip (.many isSkipped) :: rule :: rules)).OpensWith isMember := by
  intro before offset text stops
  have nothing : (Lexeme.many isSkipped).Reads [] text :=
    Lexeme.reads_many (by simp) (stops.mono within)
  have skipped : skip (.many isSkipped) ⟨before, offset, [] ++ text⟩ = some [.plain 0] :=
    skip_of_reads nothing
  have missed : sequence (rule :: rules) ⟨before, offset, text⟩ = none :=
    sequence_cons_of_none (opens stops)
  have split : sequence (skip (.many isSkipped) :: rule :: rules)
      ⟨before, offset, [] ++ text⟩ = _ := sequence_cons_of_piece skipped rfl
  simpa [missed] using split

theorem opensWith_atLineStart (opens : rule.OpensWith isMember) :
    (atLineStart rule).OpensWith isMember :=
  fun _ _ _ stops => by simp [atLineStart, opens stops]

theorem opensWith_firstOf (opens : ∀ rule ∈ rules, rule.OpensWith isMember) :
    (firstOf rules).OpensWith isMember :=
  fun _ _ _ stops => List.findSome?_eq_none_iff.mpr fun rule member => opens rule member stops

/-- Rules that open with other characters than the next one may be passed over. -/
theorem firstOf_of_opens {classes : List (Char → Bool)}
    (opens : List.Forall₂ OpensWith classes rules) (count : Nat) {c : Char}
    (elsewhere : ∀ isMember ∈ classes.take count, isMember c = false) (others : List Char)
    (before : Option Char) (offset : Nat) :
    firstOf rules ⟨before, offset, c :: others⟩ =
      firstOf (rules.drop count) ⟨before, offset, c :: others⟩ := by
  induction opens generalizing count with
  | nil => simp
  | @cons isMember rule classes rules own _ inductionHypothesis =>
    cases count with
    | zero => rfl
    | succ count =>
      rw [List.take_succ_cons, List.forall_mem_cons] at elsewhere
      have stops : Lexeme.Stops isMember (c :: others) := by
        simpa [Lexeme.Stops] using elsewhere.1
      have missed : rule ⟨before, offset, c :: others⟩ = none := own stops
      rw [firstOf_cons_of_none missed, inductionHypothesis count elsewhere.2,
        List.drop_succ_cons]

end Openings

end Rule

/-! ## Characters that are not passed -/

namespace Text.Lexeme

/-- Does the lexeme take up no more than there is, and nothing that holds a character? -/
def Avoids (excluded : Char) (lexeme : Lexeme) : Prop :=
  ∀ text length, lexeme.length? text = some length →
    length ≤ text.length ∧ excluded ∉ text.take length

variable {excluded : Char} {first second lexeme : Lexeme} {isMember : Char → Bool}

theorem avoids_one (outside : isMember excluded = false) : (one isMember).Avoids excluded := by
  intro text length read
  cases text with
  | nil => contradiction
  | cons c rest =>
    by_cases member : isMember c
    · obtain rfl : 1 = length := by simpa [one, member] using read
      have different : excluded ≠ c := by
        rintro rfl
        simp [outside] at member
      simpa using different
    · simp [one, member] at read

theorem avoids_many (outside : isMember excluded = false) : (many isMember).Avoids excluded := by
  intro text length read
  obtain rfl : (text.takeWhile isMember).length = length := by
    simpa [many, countRun_eq] using read
  have starts := List.takeWhile_prefix (l := text) isMember
  refine ⟨starts.length_le, fun member => ?_⟩
  rw [← List.prefix_iff_eq_take.mp starts] at member
  have inside := List.mem_takeWhile_imp member
  simp [outside] at inside

theorem avoids_run (outside : isMember excluded = false) : (run isMember).Avoids excluded := by
  intro text length read
  refine avoids_many outside text length ?_
  by_cases nothing : countRun isMember 0 text = 0
  · simp [run, nothing] at read
  · simpa [run, many, nothing] using read

theorem avoids_andThen (before : first.Avoids excluded) (after : second.Avoids excluded) :
    (first ++ second).Avoids excluded := by
  intro text length read
  obtain ⟨taken, firstRead, others⟩ := Option.bind_eq_some_iff.mp read
  obtain ⟨more, secondRead, same⟩ := Option.bind_eq_some_iff.mp others
  obtain rfl : taken + more = length := by simpa using same
  obtain ⟨firstBound, firstClear⟩ := before text taken firstRead
  obtain ⟨secondBound, secondClear⟩ := after (text.drop taken) more secondRead
  rw [List.length_drop] at secondBound
  refine ⟨by omega, ?_⟩
  rw [List.take_add, List.mem_append]
  exact fun member => member.elim firstClear secondClear

theorem avoids_orElse (one : first.Avoids excluded) (other : second.Avoids excluded) :
    (first <|> second).Avoids excluded := by
  intro text length read
  rw [orElse_length?] at read
  rcases Option.or_eq_some_iff.mp read with firstRead | ⟨-, secondRead⟩
  · exact one text length firstRead
  · exact other text length secondRead

theorem avoids_optional (avoids : lexeme.Avoids excluded) :
    (optional lexeme).Avoids excluded := by
  intro text length read
  cases found : lexeme.length? text with
  | none =>
    obtain rfl : 0 = length := by simpa [optional, found] using read
    simp
  | some own =>
    obtain rfl : own = length := by simpa [optional, found] using read
    exact avoids text own found

end Text.Lexeme

/-- What avoids the first character behind a text stays within the text. -/
theorem length_le_of_avoids {excluded : Char} {text rest : List Char} {length : Nat}
    (within : length ≤ (text ++ rest).length ∧ excluded ∉ (text ++ rest).take length)
    (ends : ∀ c ∈ rest.head?, c = excluded) : length ≤ text.length := by
  obtain ⟨bound, clear⟩ := within
  cases rest with
  | nil => simpa using bound
  | cons c rest =>
    obtain rfl := ends c rfl
    by_contra beyond
    have whole : text ++ [c] <+: (text ++ c :: rest).take length := by
      rw [List.prefix_take_iff]
      exact ⟨⟨rest, by simp⟩, by simp; omega⟩
    exact clear (whole.subset (by simp))

namespace Rule

/-- Does the rule take up no more than there is, and nothing that holds a character? -/
def Avoids (excluded : Char) (rule : Rule) : Prop :=
  ∀ place pieces, rule place = some pieces →
    Piece.total pieces ≤ place.rest.length ∧ excluded ∉ place.rest.take (Piece.total pieces)

variable {excluded : Char} {lexeme : Lexeme}

theorem avoids_token (avoids : lexeme.Avoids excluded) (kind : TokenKind) :
    (token kind lexeme).Avoids excluded := by
  intro place pieces read
  obtain ⟨length, found, rfl⟩ := Option.map_eq_some_iff.mp read
  simpa [Piece.total, Piece.labelled] using avoids _ _ found

theorem avoids_skip (avoids : lexeme.Avoids excluded) : (skip lexeme).Avoids excluded := by
  intro place pieces read
  obtain ⟨length, found, rfl⟩ := Option.map_eq_some_iff.mp read
  simpa [Piece.total] using avoids _ _ found

theorem avoids_sequence {rules : List Rule} (parts : ∀ rule ∈ rules, rule.Avoids excluded) :
    (sequence rules).Avoids excluded := by
  induction rules with
  | nil =>
    intro place pieces read
    obtain rfl : [] = pieces := by simpa [sequence] using read
    simp [Piece.total]
  | cons rule rules inductionHypothesis =>
    intro place pieces read
    obtain ⟨first, others⟩ := List.forall_mem_cons.mp parts
    obtain ⟨own, ownRead, rest⟩ := Option.bind_eq_some_iff.mp read
    obtain ⟨following, followingRead, same⟩ := Option.bind_eq_some_iff.mp rest
    obtain rfl : own ++ following = pieces := by simpa using same
    obtain ⟨ownBound, ownClear⟩ := first _ _ ownRead
    obtain ⟨bound, clear⟩ := inductionHypothesis others _ _ followingRead
    rw [Place.rest_forward] at bound clear
    rw [List.length_drop] at bound
    refine ⟨by rw [Piece.total_append]; omega, ?_⟩
    rw [Piece.total_append, List.take_add, List.mem_append]
    exact fun member => member.elim ownClear clear

theorem avoids_firstOf {rules : List Rule} (parts : ∀ rule ∈ rules, rule.Avoids excluded) :
    (firstOf rules).Avoids excluded := by
  intro place pieces read
  obtain ⟨rule, member, own⟩ := List.exists_of_findSome?_eq_some read
  exact parts rule member place pieces own

end Rule

/-! ## Characters that are passed at least -/

namespace Text.Lexeme

/-- Does the lexeme take up at least the first of two texts that follow one another? -/
def Covers (lexeme : Lexeme) (text rest : List Char) : Prop :=
  ∃ count, text.length ≤ count ∧ lexeme.length? (text ++ rest) = some count

section Covering

variable {first second lexeme : Lexeme} {isMember : Char → Bool} {text other rest : List Char}

theorem covers_many (members : ∀ c ∈ text, isMember c) (rest : List Char) :
    (many isMember).Covers text rest := by
  refine ⟨countRun isMember 0 (text ++ rest), ?_, rfl⟩
  rw [countRun_eq, List.takeWhile_append_of_pos members, List.length_append]
  omega

theorem covers_run (present : text ≠ []) (members : ∀ c ∈ text, isMember c) (rest : List Char) :
    (run isMember).Covers text rest := by
  obtain ⟨count, covered, read⟩ := covers_many members rest
  have positive := List.length_pos_iff.mpr present
  have counted : countRun isMember 0 (text ++ rest) = count := by simpa [many] using read
  refine ⟨count, covered, ?_⟩
  simp only [run, counted, show count ≠ 0 by omega, ↓reduceIte]

theorem exists_of_andThen {count : Nat} (read : (first ++ second).length? text = some count) :
    ∃ taken ≤ count, first.length? text = some taken := by
  obtain ⟨taken, firstRead, others⟩ := Option.bind_eq_some_iff.mp read
  obtain ⟨more, -, same⟩ := Option.bind_eq_some_iff.mp others
  obtain rfl : taken + more = count := by simpa using same
  exact ⟨taken, Nat.le_add_right taken more, firstRead⟩

theorem covers_andThen (before : first.Reads text (other ++ rest))
    (after : second.Covers other rest) : (first ++ second).Covers (text ++ other) rest := by
  obtain ⟨count, covered, read⟩ := after
  refine ⟨text.length + count, by rw [List.length_append]; omega, ?_⟩
  change (andThen first second).length? _ = _
  rw [Reads] at before
  simp [andThen, before, read]

/-- What a lexeme covers is covered whatever may follow. -/
theorem covers_andThen_optional (before : first.Covers text rest) (second : Lexeme) :
    (first ++ optional second).Covers text rest := by
  obtain ⟨count, covered, read⟩ := before
  let more := (second.length? ((text ++ rest).drop count)).getD 0
  refine ⟨count + more, by omega, ?_⟩
  change (andThen first (optional second)).length? _ = _
  simp [andThen, optional, read, more]

theorem covers_optional (covers : lexeme.Covers text rest) :
    (optional lexeme).Covers text rest := by
  obtain ⟨count, covered, read⟩ := covers
  exact ⟨count, covered, by simp [optional, read]⟩

theorem covers_orElse_left (covers : first.Covers text rest) (second : Lexeme) :
    (first <|> second).Covers text rest := by
  obtain ⟨count, covered, read⟩ := covers
  exact ⟨count, covered, by rw [orElse_length?, read, Option.some_or]⟩

/-- Either of two lexemes covers a text when the first never takes less of it. -/
theorem covers_orElse
    (one : ∀ count, first.length? (text ++ rest) = some count → text.length ≤ count)
    (other : second.Covers text rest) : (first <|> second).Covers text rest := by
  rw [Covers, orElse_length?]
  cases read : first.length? (text ++ rest) with
  | none => exact other
  | some count => exact ⟨count, one count read, rfl⟩

/-- Members of a class are read to the end, no matter how many of them a first lexeme takes. -/
theorem reads_of_covers {excluded : Char} (covers : first.Covers text (other ++ rest))
    (avoids : first.Avoids excluded) (members : ∀ c ∈ other, isMember c)
    (outside : isMember excluded = false) (ends : ∀ c ∈ rest.head?, c = excluded) :
    (first ++ many isMember).Reads (text ++ other) rest := by
  obtain ⟨count, covered, read⟩ := covers
  rw [← List.append_assoc] at read
  have bound := length_le_of_avoids (avoids _ _ read) ends
  have front : first.Reads ((text ++ other).take count) ((text ++ other).drop count ++ rest) := by
    rw [Reads, ← List.append_assoc, List.take_append_drop, read, List.length_take,
      Nat.min_eq_left bound]
  have left : ∀ c ∈ (text ++ other).drop count, isMember c := by
    intro c member
    rw [List.drop_append, List.drop_eq_nil_of_le covered, List.nil_append] at member
    exact members c (List.mem_of_mem_drop member)
  have stops : Stops isMember rest := fun c head => ends c head ▸ outside
  have whole := reads_andThen front (reads_many left stops)
  rwa [List.take_append_drop] at whole

end Covering

end Text.Lexeme

end Highlight
