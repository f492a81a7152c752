import Highlight.Proofs.Delimited
import Highlight.Proofs.Offsets.Basic
import Highlight.Proofs.Passages

/-!
What has been read. A lexeme that reads a text has found it spelled as its parts say, and a rule
that reads pieces has found segments, one for each piece. Where a lexeme reads no more than there
is, the length that it gives is that of a text it reads.
-/

set_option autoImplicit false

namespace Highlight

open Text

namespace Text.Lexeme

section Readings

variable {first second lexeme : Lexeme} {isMember : Char → Bool} {text rest : List Char}

theorem reads_andThen_iff :
    (first ++ second).Reads text rest ↔
      ∃ before after, text = before ++ after ∧ first.Reads before (after ++ rest) ∧
        second.Reads after rest := by
  constructor
  · intro read
    obtain ⟨taken, firstRead, others⟩ := Option.bind_eq_some_iff.mp read
    obtain ⟨more, secondRead, same⟩ := Option.bind_eq_some_iff.mp others
    have lengths : taken + more = text.length := by simpa using same
    have bound : taken ≤ text.length := by omega
    have whole : text.take taken ++ (text.drop taken ++ rest) = text ++ rest := by
      rw [← List.append_assoc, List.take_append_drop]
    rw [List.drop_append_of_le_length bound] at secondRead
    refine ⟨text.take taken, text.drop taken, (List.take_append_drop taken text).symm, ?_, ?_⟩
    · rw [Reads, whole, firstRead, List.length_take, Nat.min_eq_left bound]
    · rw [Reads, secondRead, List.length_drop]
      congr 1
      omega
  · rintro ⟨before, after, rfl, firstReads, secondReads⟩
    exact reads_andThen firstReads secondReads

theorem reads_orElse_iff :
    (first <|> second).Reads text rest ↔
      first.Reads text rest ∨ first.Misses (text ++ rest) ∧ second.Reads text rest := by
  constructor
  · intro read
    rw [Reads, orElse_length?] at read
    exact Option.or_eq_some_iff.mp read
  · exact reads_orElse

theorem reads_optional_iff :
    (optional lexeme).Reads text rest ↔
      lexeme.Reads text rest ∨ text = [] ∧ lexeme.Misses rest := by
  constructor
  · intro read
    have length : (lexeme.length? (text ++ rest)).getD 0 = text.length := by
      simpa [Reads, optional] using read
    cases found : lexeme.length? (text ++ rest) with
    | some count =>
      rw [found, Option.getD_some] at length
      exact .inl (by rw [Reads, found, length])
    | none =>
      rw [found, Option.getD_none, eq_comm, List.length_eq_zero_iff] at length
      subst length
      exact .inr ⟨rfl, found⟩
  · rintro (reads | ⟨rfl, missed⟩)
    · exact reads_optional reads
    · exact reads_optional_of_misses missed

theorem reads_one_iff :
    (one isMember).Reads text rest ↔ ∃ c, text = [c] ∧ isMember c := by
  constructor
  · intro read
    cases text with
    | nil =>
      cases rest with
      | nil => simp [Reads, one] at read
      | cons c rest => by_cases member : isMember c <;> simp [Reads, one, member] at read
    | cons c others =>
      by_cases member : isMember c
      · have single : others = [] := by simpa [Reads, one, member] using read.symm
        exact ⟨c, by rw [single], member⟩
      · simp [Reads, one, member] at read
  · rintro ⟨c, rfl, member⟩
    exact reads_one member rest

theorem reads_char_iff {expected : Char} :
    (char expected).Reads text rest ↔ text = [expected] := by
  simp [char, reads_one_iff]

theorem reads_many_iff :
    (many isMember).Reads text rest ↔ (∀ c ∈ text, isMember c) ∧ Stops isMember rest := by
  constructor
  · intro read
    have length : ((text ++ rest).takeWhile isMember).length = text.length := by
      simpa [Reads, many, countRun_eq] using read
    have starts := List.takeWhile_prefix (l := text ++ rest) isMember
    have same : (text ++ rest).takeWhile isMember = text := by
      rw [List.prefix_iff_eq_take.mp starts, length, List.take_left]
    have members : ∀ c ∈ text, isMember c := by
      intro c member
      rw [← same] at member
      exact List.mem_takeWhile_imp member
    rw [List.takeWhile_append_of_pos members, List.append_right_eq_self] at same
    refine ⟨members, ?_⟩
    intro c head
    cases rest with
    | nil => contradiction
    | cons d rest =>
      obtain rfl : d = c := Option.some.inj head
      by_contra member
      simp [member] at same
  · rintro ⟨members, stops⟩
    exact reads_many members stops

theorem reads_run_iff :
    (run isMember).Reads text rest ↔
      text ≠ [] ∧ (∀ c ∈ text, isMember c) ∧ Stops isMember rest := by
  constructor
  · intro read
    by_cases nothing : countRun isMember 0 (text ++ rest) = 0
    · simp [Reads, run, nothing] at read
    · have counted : countRun isMember 0 (text ++ rest) = text.length := by
        simpa [Reads, run, nothing] using read
      refine ⟨?_, reads_many_iff.mp (by simp [Reads, many, counted])⟩
      rintro rfl
      exact nothing counted
  · rintro ⟨present, members, stops⟩
    exact reads_run present members stops

theorem reads_between_iff {low high : Nat} :
    (between low high isMember).Reads text rest ↔
      (low ≤ text.length ∧ text.length ≤ high) ∧ (∀ c ∈ text, isMember c) ∧
        Stops isMember rest := by
  have same : (between low high isMember).Reads text rest ↔
      (low ≤ text.length ∧ text.length ≤ high) ∧ (many isMember).Reads text rest := by
    constructor
    · intro read
      by_cases bounds : low ≤ countRun isMember 0 (text ++ rest) ∧
          countRun isMember 0 (text ++ rest) ≤ high
      · have counted : countRun isMember 0 (text ++ rest) = text.length := by
          simpa [Reads, between, bounds] using read
        rw [counted] at bounds
        exact ⟨bounds, by simp [Reads, many, counted]⟩
      · simp [Reads, between, bounds] at read
    · rintro ⟨bounds, read⟩
      have counted : countRun isMember 0 (text ++ rest) = text.length := by
        simpa [Reads, many] using read
      simp [Reads, between, counted, bounds]
  rw [same, reads_many_iff]

theorem reads_literal_iff {expected : String} :
    (literal expected).Reads text rest ↔ text = expected.toList := by
  constructor
  · intro read
    obtain ⟨starts, length⟩ : expected.toList <+: text ++ rest ∧ expected.length = text.length := by
      simpa [Reads, literal] using read
    rw [List.prefix_iff_eq_take.mp starts, String.length_toList, length, List.take_left]
  · rintro rfl
    exact reads_literal expected rest

theorem exists_of_reads_anyOf {choices : List String} (read : (anyOf choices).Reads text rest) :
    ∃ choice ∈ choices, text = choice.toList := by
  obtain ⟨choice, listed, own⟩ := List.exists_of_findSome?_eq_some read
  exact ⟨choice, listed, reads_literal_iff.mp own⟩

theorem reads_ahead_iff {test : List Char → Bool} :
    (ahead test).Reads text rest ↔ text = [] ∧ test rest := by
  constructor
  · intro read
    by_cases passed : test (text ++ rest)
    · have empty : text = [] := by simpa [Reads, ahead, passed] using read.symm
      subst empty
      exact ⟨rfl, passed⟩
    · simp [Reads, ahead, passed] at read
  · rintro ⟨rfl, passed⟩
    simpa [Reads, ahead] using passed

theorem reads_atEnd_iff : atEnd.Reads text rest ↔ text = [] ∧ rest = [] := by
  simp [atEnd, reads_ahead_iff]

theorem reads_wordEnd_iff : wordEnd.Reads text rest ↔ text = [] ∧ Stops isWord rest := by
  have ends : wordEnds rest ↔ Stops isWord rest := by
    cases rest with
    | nil => simp [wordEnds, Stops]
    | cons c rest => simp [wordEnds, Stops]
  rw [wordEnd, reads_ahead_iff, ends]

theorem eq_nil_of_reads_restOfLine (read : restOfLine.Reads text rest) : rest = [] := by
  have found : (∀ c, c ∈ text ∨ c ∈ rest → c ≠ '\n') ∧ rest = [] := by
    simpa [Reads, restOfLine] using read
  exact found.2

theorem reads_of_spans (spans : lexeme.spans text) : lexeme.Reads text [] := by
  unfold Lexeme.spans at spans
  split at spans
  · next length read =>
    obtain rfl : length = text.length := by simpa using spans
    rwa [Reads, List.append_nil]
  · contradiction

theorem spans_of_reads (read : lexeme.Reads text []) : lexeme.spans text := by
  rw [Reads, List.append_nil] at read
  simp [Lexeme.spans, read]

theorem exists_length?_run {c : Char} (member : isMember c) (rest : List Char) :
    ∃ length, (run isMember).length? (c :: rest) = some length := by
  have counted : countRun isMember 0 (c :: rest) ≠ 0 := by
    simp [countRun_eq, member]
  exact ⟨_, if_neg counted⟩

theorem exists_length?_andThen_many {length : Nat} (read : first.length? text = some length)
    (isMember : Char → Bool) : ∃ total, (first ++ many isMember).length? text = some total := by
  change ∃ total, (andThen first (many isMember)).length? text = some total
  simp [andThen, many, read]

/-! ## Quotes and comments -/

theorem body_of_escapedLength? {quote : Char} {taken length : Nat}
    (found : escapedLength? quote taken text = some length) :
    ∃ body rest, text = body ++ quote :: rest ∧ EscapedBody quote body ∧
      length = taken + body.length + 1 := by
  fun_induction escapedLength? quote taken text with
  | case1 => contradiction
  | case2 => contradiction
  | case3 taken c rest noFeed inductionHypothesis =>
    obtain ⟨body, others, rfl, spelled, rfl⟩ := inductionHypothesis found
    have feedless : c ≠ '\n' := by simpa using noFeed
    refine ⟨'\\' :: c :: body, others, rfl, .escape feedless spelled, ?_⟩
    simp only [List.length_cons]
    omega
  | case4 taken c rest _ isQuote =>
    obtain rfl : c = quote := by simpa using isQuote
    obtain rfl := Option.some.inj found
    exact ⟨[], rest, rfl, .nil, rfl⟩
  | case5 => contradiction
  | case6 taken c rest _ noQuote noBackslash inductionHypothesis =>
    obtain ⟨body, others, rfl, spelled, rfl⟩ := inductionHypothesis found
    refine ⟨c :: body, others, rfl, ?_, ?_⟩
    · exact .character (by simpa using noQuote) (by simpa using noBackslash) spelled
    · simp only [List.length_cons]
      omega

theorem body_of_doubledLength? {quote : Char} {fallback : Option Nat} {taken length : Nat}
    (found : doubledLength? quote fallback taken text = some length) :
    fallback = some length ∨
      ∃ body rest, text = body ++ quote :: rest ∧ DoubledBody quote body ∧
        length = taken + body.length + 1 := by
  fun_induction doubledLength? quote fallback taken text with
  | case1 => exact .inl found
  | case2 fallback taken c isQuote next rest isPair inductionHypothesis =>
    obtain rfl : c = quote := by simpa using isQuote
    obtain rfl : next = c := by simpa using isPair
    right
    rcases inductionHypothesis found with earlier | ⟨body, others, rfl, spelled, rfl⟩
    -- Nothing closes the text further on, so the first quote of the pair does.
    · obtain rfl := Option.some.inj earlier
      exact ⟨[], next :: rest, rfl, .nil, rfl⟩
    · refine ⟨next :: next :: body, others, rfl, .pair spelled, ?_⟩
      simp only [List.length_cons]
      omega
  | case3 fallback taken c isQuote next rest =>
    obtain rfl : c = quote := by simpa using isQuote
    obtain rfl := Option.some.inj found
    exact .inr ⟨[], next :: rest, rfl, .nil, rfl⟩
  | case4 fallback taken c isQuote =>
    obtain rfl : c = quote := by simpa using isQuote
    obtain rfl := Option.some.inj found
    exact .inr ⟨[], [], rfl, .nil, rfl⟩
  | case5 fallback taken c rest noQuote inductionHypothesis =>
    refine (inductionHypothesis found).imp_right ?_
    rintro ⟨body, others, rfl, spelled, rfl⟩
    refine ⟨c :: body, others, rfl, .character (by simpa using noQuote) spelled, ?_⟩
    simp only [List.length_cons]
    omega

theorem mark_of_closedLength? {closing : List Char} {taken length : Nat}
    (found : closedLength? closing taken text = some length) :
    (∃ body rest, text = body ++ closing ++ rest ∧
        length = taken + (body ++ closing).length) ∨
      length = taken + text.length := by
  fun_induction closedLength? closing taken text with
  | case1 => exact .inr (Option.some.inj found).symm
  | case2 taken c rest closes =>
    obtain ⟨others, whole⟩ := List.isPrefixOf_iff_prefix.mp closes
    obtain rfl := Option.some.inj found
    exact .inl ⟨[], others, whole.symm, rfl⟩
  | case3 => contradiction
  | case4 taken c rest _ _ inductionHypothesis =>
    rcases inductionHypothesis found with ⟨body, others, rfl, rfl⟩ | rfl
    · refine .inl ⟨c :: body, others, rfl, ?_⟩
      simp only [List.cons_append, List.length_cons]
      omega
    · right
      simp only [List.length_cons]
      omega

theorem enquoted_of_reads_escapedQuote {quote : Char}
    (read : (escapedQuote quote).Reads text rest) :
    Enquoted quote (EscapedBody quote) text := by
  obtain ⟨front, back, rfl, opened, closed⟩ := reads_andThen_iff.mp read
  obtain ⟨c, rfl, isQuote⟩ := reads_one_iff.mp opened
  obtain rfl : c = quote := by simpa using isQuote
  obtain ⟨body, others, split, spelled, length⟩ := body_of_escapedLength? closed
  have whole : back ++ rest = (body ++ [c]) ++ others := by
    rw [split]
    simp
  have lengths : back.length = (body ++ [c]).length := by
    simp only [List.length_append, List.length_singleton]
    omega
  have same : back = body ++ [c] := List.append_inj_left whole lengths
  exact ⟨body, by rw [same]; rfl, spelled⟩

theorem enquoted_of_reads_doubledQuote {quote : Char}
    (read : (doubledQuote quote).Reads text rest) :
    Enquoted quote (DoubledBody quote) text := by
  obtain ⟨front, back, rfl, opened, closed⟩ := reads_andThen_iff.mp read
  obtain ⟨c, rfl, isQuote⟩ := reads_one_iff.mp opened
  obtain rfl : c = quote := by simpa using isQuote
  rcases body_of_doubledLength? closed with nothing | ⟨body, others, split, spelled, length⟩
  · contradiction
  have whole : back ++ rest = (body ++ [c]) ++ others := by
    rw [split]
    simp
  have lengths : back.length = (body ++ [c]).length := by
    simp only [List.length_append, List.length_singleton]
    omega
  have same : back = body ++ [c] := List.append_inj_left whole lengths
  exact ⟨body, by rw [same]; rfl, spelled⟩

theorem closed_of_reads_blockComment {opening closing : String}
    (read : (blockComment opening closing).Reads text rest) :
    (∃ body, text = opening.toList ++ (body ++ closing.toList)) ∨
      (∃ body, text = opening.toList ++ body) ∧ rest = [] := by
  obtain ⟨front, back, rfl, opened, closed⟩ := reads_andThen_iff.mp read
  obtain rfl := reads_literal_iff.mp opened
  rcases mark_of_closedLength? closed with ⟨body, others, split, length⟩ | length
  · rw [Nat.zero_add] at length
    have same : back = body ++ closing.toList := List.append_inj_left split length
    exact .inl ⟨body, by rw [same]⟩
  · refine .inr ⟨⟨back, rfl⟩, ?_⟩
    rw [Nat.zero_add, List.length_append] at length
    exact List.length_eq_zero_iff.mp (by omega)

end Readings

/-! ## Lengths within the text -/

/-- Does the lexeme take up no more than there is? -/
def Fits (lexeme : Lexeme) : Prop :=
  ∀ text length, lexeme.length? text = some length → length ≤ text.length

section Fitting

variable {first second lexeme : Lexeme}

theorem fits_one (isMember : Char → Bool) : (one isMember).Fits := by
  intro text length read
  cases text with
  | nil => contradiction
  | cons c rest =>
    by_cases member : isMember c
    · obtain rfl : 1 = length := by simpa [one, member] using read
      simp
    · simp [one, member] at read

theorem fits_many (isMember : Char → Bool) : (many isMember).Fits := by
  intro text length read
  obtain rfl : (text.takeWhile isMember).length = length := by
    simpa [many, countRun_eq] using read
  exact (List.takeWhile_prefix isMember).length_le

theorem fits_run (isMember : Char → Bool) : (run isMember).Fits := by
  intro text length read
  apply fits_many isMember text length
  by_cases nothing : countRun isMember 0 text = 0
  · simp [run, nothing] at read
  · simpa [run, many, nothing] using read

theorem fits_between (low high : Nat) (isMember : Char → Bool) :
    (between low high isMember).Fits := by
  intro text length read
  apply fits_many isMember text length
  by_cases bounds : low ≤ countRun isMember 0 text ∧ countRun isMember 0 text ≤ high
  · simpa [between, many, bounds] using read
  · simp [between, bounds] at read

theorem fits_literal (expected : String) : (literal expected).Fits := by
  intro text length read
  obtain ⟨starts, rfl⟩ : expected.toList <+: text ∧ expected.length = length := by
    simpa [literal] using read
  rw [← String.length_toList]
  exact starts.length_le

theorem fits_anyOf (choices : List String) : (anyOf choices).Fits := by
  intro text length read
  obtain ⟨choice, -, own⟩ := List.exists_of_findSome?_eq_some read
  exact fits_literal choice text length own

theorem fits_andThen (firstFits : first.Fits) (secondFits : second.Fits) :
    (first ++ second).Fits := by
  intro text length read
  obtain ⟨taken, firstRead, others⟩ := Option.bind_eq_some_iff.mp read
  obtain ⟨more, secondRead, same⟩ := Option.bind_eq_some_iff.mp others
  obtain rfl : taken + more = length := by simpa using same
  have firstBound := firstFits text taken firstRead
  have secondBound := secondFits (text.drop taken) more secondRead
  rw [List.length_drop] at secondBound
  omega

theorem fits_orElse (firstFits : first.Fits) (secondFits : second.Fits) :
    (first <|> second).Fits := by
  intro text length read
  rw [orElse_length?] at read
  rcases Option.or_eq_some_iff.mp read with firstRead | ⟨-, secondRead⟩
  · exact firstFits text length firstRead
  · exact secondFits text length secondRead

theorem fits_optional (fits : lexeme.Fits) : (optional lexeme).Fits := by
  intro text length read
  cases found : lexeme.length? text with
  | none =>
    obtain rfl : 0 = length := by simpa [optional, found] using read
    exact Nat.zero_le _
  | some own =>
    obtain rfl : own = length := by simpa [optional, found] using read
    exact fits text own found

theorem fits_ahead (test : List Char → Bool) : (ahead test).Fits := by
  intro text length read
  by_cases passed : test text
  · obtain rfl : 0 = length := by simpa [ahead, passed] using read
    exact Nat.zero_le _
  · simp [ahead, passed] at read

theorem fits_restOfLine : restOfLine.Fits := by
  intro text length read
  obtain ⟨-, rfl⟩ : (∀ c ∈ text, c ≠ '\n') ∧ text.length = length := by
    simpa [restOfLine] using read
  exact Nat.le_refl _

theorem fits_escapedQuote (quote : Char) : (escapedQuote quote).Fits := by
  apply fits_andThen (fits_one _)
  intro text length read
  obtain ⟨body, others, rfl, -, rfl⟩ := body_of_escapedLength? read
  simp only [List.length_append, List.length_cons]
  omega

theorem fits_doubledQuote (quote : Char) : (doubledQuote quote).Fits := by
  apply fits_andThen (fits_one _)
  intro text length read
  rcases body_of_doubledLength? read with nothing | ⟨body, others, rfl, -, rfl⟩
  · contradiction
  · simp only [List.length_append, List.length_cons]
    omega

theorem fits_blockComment (opening closing : String) : (blockComment opening closing).Fits := by
  apply fits_andThen (fits_literal opening)
  intro text length read
  rcases mark_of_closedLength? read with ⟨body, others, rfl, rfl⟩ | rfl
  · simp only [List.length_append]
    omega
  · omega

end Fitting

theorem Fits.exists_reads {lexeme : Lexeme} (fits : lexeme.Fits) {text : List Char} {length : Nat}
    (found : lexeme.length? text = some length) :
    ∃ front rest, text = front ++ rest ∧ lexeme.Reads front rest := by
  refine ⟨text.take length, text.drop length, (List.take_append_drop length text).symm, ?_⟩
  rw [Reads, List.take_append_drop, List.length_take, Nat.min_eq_left (fits text length found)]
  exact found

/-! ## Texts that are not empty -/

/-- Does the lexeme take up at least one character? -/
def Advances (lexeme : Lexeme) : Prop :=
  ∀ ⦃text rest⦄, lexeme.Reads text rest → text ≠ []

section Advancing

variable {first second : Lexeme}

theorem advances_one (isMember : Char → Bool) : (one isMember).Advances := by
  intro text rest read
  obtain ⟨c, rfl, -⟩ := reads_one_iff.mp read
  exact List.cons_ne_nil c []

theorem advances_run (isMember : Char → Bool) : (run isMember).Advances :=
  fun _ _ read => (reads_run_iff.mp read).1

theorem advances_literal {expected : String} (present : expected.toList ≠ []) :
    (literal expected).Advances := by
  intro text rest read
  rwa [reads_literal_iff.mp read]

theorem advances_anyOf {choices : List String}
    (present : ∀ choice ∈ choices, choice.toList ≠ []) : (anyOf choices).Advances := by
  intro text rest read
  obtain ⟨choice, listed, rfl⟩ := exists_of_reads_anyOf read
  exact present choice listed

theorem advances_andThen (advances : first.Advances) (second : Lexeme) :
    (first ++ second).Advances := by
  intro text rest read
  obtain ⟨before, after, rfl, firstRead, -⟩ := reads_andThen_iff.mp read
  exact List.append_ne_nil_of_left_ne_nil (advances firstRead) after

theorem advances_andThen_right (first : Lexeme) (advances : second.Advances) :
    (first ++ second).Advances := by
  intro text rest read
  obtain ⟨before, after, rfl, -, secondRead⟩ := reads_andThen_iff.mp read
  exact List.append_ne_nil_of_right_ne_nil before (advances secondRead)

theorem advances_orElse (one : first.Advances) (other : second.Advances) :
    (first <|> second).Advances := by
  intro text rest read
  rcases reads_orElse_iff.mp read with firstRead | ⟨-, secondRead⟩
  · exact one firstRead
  · exact other secondRead

end Advancing

end Text.Lexeme

/-! ## Rules -/

theorem Piece.map_piece_segments {text : List Char} {pieces : List Piece}
    (bound : Piece.total pieces ≤ text.length) :
    (Piece.segments text pieces).map Segment.piece = pieces := by
  induction pieces generalizing text with
  | nil => rfl
  | cons piece pieces inductionHypothesis =>
    have total : Piece.total (piece :: pieces) = piece.length + Piece.total pieces := rfl
    have own : (text.take piece.length).length = piece.length := by
      rw [List.length_take]
      omega
    have others : Piece.total pieces ≤ (text.drop piece.length).length := by
      rw [List.length_drop]
      omega
    rw [Piece.segments, List.map_cons, inductionHypothesis others, Segment.piece, own]

namespace Rule

/-- Does the rule read just these segments, one for each piece, where a rest comes behind them? -/
def Reads (rule : Rule) (before : Option Char) (offset : Nat) (segments : List Segment)
    (rest : List Char) : Prop :=
  rule ⟨before, offset, Segment.characters segments ++ rest⟩ = some (segments.map Segment.piece)

/-- Does the rule take up no more than there is? -/
def Fits (rule : Rule) : Prop :=
  ∀ place pieces, rule place = some pieces → Piece.total pieces ≤ place.rest.length

section Readings

variable {rule : Rule} {rules : List Rule} {lexeme : Lexeme} {kind : TokenKind}
  {kindOf : List Char → Option TokenKind} {before : Option Char} {offset : Nat}
  {segments : List Segment} {rest : List Char}

theorem reads_token_iff :
    (token kind lexeme).Reads before offset segments rest ↔
      ∃ text, segments = [.labelled kind text] ∧ lexeme.Reads text rest := by
  constructor
  · intro read
    obtain ⟨length, found, pieces⟩ := Option.map_eq_some_iff.mp read
    obtain ⟨⟨kind?, text⟩, rfl, same⟩ := List.map_eq_singleton_iff.mp pieces.symm
    obtain ⟨rfl, rfl⟩ : kind? = some kind ∧ text.length = length := by
      simpa [Segment.piece, Piece.labelled] using same
    exact ⟨text, rfl, by simpa [Lexeme.Reads] using found⟩
  · rintro ⟨text, rfl, reads⟩
    simpa [Reads, Segment.labelled, Segment.piece, Piece.labelled] using token_of_reads reads kind

theorem Reads.of_classified
    (read : (classified kindOf lexeme).Reads before offset segments rest) :
    ∃ text, segments = [⟨kindOf text, text⟩] ∧ lexeme.Reads text rest := by
  obtain ⟨length, found, pieces⟩ := Option.map_eq_some_iff.mp read
  obtain ⟨⟨kind?, text⟩, rfl, same⟩ := List.map_eq_singleton_iff.mp pieces.symm
  have length : text.length = length := by simpa [Segment.piece] using congrArg Piece.length same
  subst length
  have kind : kind? = kindOf text := by simpa [Segment.piece] using congrArg Piece.kind? same
  exact ⟨text, by rw [kind], by simpa [Lexeme.Reads] using found⟩

theorem Reads.of_skip (read : (skip lexeme).Reads before offset segments rest) :
    ∃ text, segments = [.plain text] ∧ lexeme.Reads text rest :=
  read.of_classified

/-- Of a trimmed lexeme the first part has the kind that its own text decides. -/
theorem Reads.of_trimmed (read : (trimmed kindOf lexeme).Reads before offset segments rest) :
    ∃ core blanks, segments = [⟨kindOf core, core⟩, .plain blanks] ∧
      lexeme.Reads (core ++ blanks) rest := by
  obtain ⟨length, found, pieces⟩ := Option.map_eq_some_iff.mp read
  obtain ⟨⟨kind?, core⟩, others, rfl, first, later⟩ := List.map_eq_cons_iff.mp pieces.symm
  obtain ⟨⟨other?, blanks⟩, rfl, second⟩ := List.map_eq_singleton_iff.mp later
  simp only [Segment.characters_cons, Segment.characters_nil, List.append_nil] at found first second
  generalize whole : (core ++ blanks ++ rest).take length = taken at first second
  have within : trimEnd taken <+: taken := trimEnd_isPrefix taken
  have bound : taken.length ≤ length := by
    rw [← whole]
    exact List.length_take_le _ _
  have coreLength : core.length = (trimEnd taken).length := congrArg Piece.length first
  have blanksLength : blanks.length = length - (trimEnd taken).length :=
    congrArg Piece.length second
  have sum : (core ++ blanks).length = length := by
    have shorter := within.length_le
    rw [List.length_append]
    omega
  rw [← sum, List.take_left] at whole
  subst whole
  have same : core = trimEnd (core ++ blanks) := by
    rw [List.prefix_iff_eq_take.mp within, ← coreLength, List.take_left]
  have kind : kind? = kindOf core := by
    rw [same]
    exact congrArg Piece.kind? first
  have plain : other? = none := congrArg Piece.kind? second
  refine ⟨core, blanks, by rw [kind, plain]; rfl, ?_⟩
  rw [Lexeme.Reads, found, sum]

theorem Reads.of_sequence_nil (read : (sequence []).Reads before offset segments rest) :
    segments = [] := by
  simpa [Reads, sequence, eq_comm] using read

/-- What a sequence reads is what its first rule reads and then what the others read. -/
theorem Reads.of_sequence_cons
    (read : (sequence (rule :: rules)).Reads before offset segments rest) :
    ∃ first others, segments = first ++ others ∧
      rule.Reads before offset first (Segment.characters others ++ rest) ∧
      (sequence rules).Reads ((Segment.characters first).getLast?.or before)
        (offset + byteSize (Segment.characters first)) others rest := by
  obtain ⟨own, ownRead, following⟩ := Option.bind_eq_some_iff.mp read
  obtain ⟨more, moreRead, same⟩ := Option.bind_eq_some_iff.mp following
  obtain ⟨first, others, rfl, rfl, rfl⟩ :=
    List.map_eq_append_iff.mp (Option.some.inj same).symm
  rw [Segment.characters_append, List.append_assoc] at ownRead moreRead
  rw [Segment.total_map_piece, Place.forward_append] at moreRead
  exact ⟨first, others, rfl, ownRead, moreRead⟩

theorem Reads.of_optional (read : (optional rule).Reads before offset segments rest) :
    segments = [] ∨ rule.Reads before offset segments rest := by
  have pieces := Option.some.inj read
  cases found : rule ⟨before, offset, Segment.characters segments ++ rest⟩ with
  | none =>
    rw [found, Option.getD_none, eq_comm, List.map_eq_nil_iff] at pieces
    exact .inl pieces
  | some own =>
    rw [found, Option.getD_some] at pieces
    exact .inr (by rw [Reads, found, pieces])

theorem Reads.of_atWordStart (read : (atWordStart rule).Reads before offset segments rest) :
    rule.Reads before offset segments rest := by
  unfold Reads atWordStart at read
  split at read
  · exact read
  · contradiction

/-- No word character stands before what is read at the start of a word. -/
theorem Reads.clear_of_atWordStart
    (read : (atWordStart rule).Reads before offset segments rest) :
    ∀ c ∈ before, isWord c = false := by
  unfold Reads atWordStart at read
  split at read
  · next starts =>
    rintro c rfl
    simpa [Place.wordStarts] using starts
  · contradiction

theorem Reads.of_atLineStart (read : (atLineStart rule).Reads before offset segments rest) :
    rule.Reads before offset segments rest := by
  unfold Reads atLineStart at read
  split at read
  · exact read
  · contradiction

theorem Reads.of_firstOf (read : (firstOf rules).Reads before offset segments rest) :
    ∃ rule ∈ rules, rule.Reads before offset segments rest :=
  List.exists_of_findSome?_eq_some read

/-- A rule that is not the first one reads only where the first one reads nothing. -/
theorem Reads.of_firstOf_cons
    (read : (firstOf (rule :: rules)).Reads before offset segments rest) :
    rule.Reads before offset segments rest ∨
      rule ⟨before, offset, Segment.characters segments ++ rest⟩ = none ∧
        (firstOf rules).Reads before offset segments rest := by
  cases found : rule ⟨before, offset, Segment.characters segments ++ rest⟩ with
  | none =>
    rw [Reads, firstOf_cons_of_none found] at read
    exact .inr ⟨rfl, read⟩
  | some own =>
    rw [Reads, firstOf_cons_of_some found] at read
    exact .inl (found.trans read)

theorem classified_ne_none {place : Place} {length : Nat}
    (read : lexeme.length? place.rest = some length) (kindOf : List Char → Option TokenKind) :
    classified kindOf lexeme place ≠ none := by
  simp [classified, read]

theorem firstOf_ne_none {place : Place} (listed : rule ∈ rules) (present : rule place ≠ none) :
    firstOf rules place ≠ none := by
  intro nothing
  exact present (List.findSome?_eq_none_iff.mp nothing rule listed)

end Readings

section Fitting

variable {rule : Rule} {rules : List Rule} {lexeme : Lexeme}

theorem fits_classified (fits : lexeme.Fits) (kindOf : List Char → Option TokenKind) :
    (classified kindOf lexeme).Fits := by
  intro place pieces read
  obtain ⟨length, found, rfl⟩ := Option.map_eq_some_iff.mp read
  simpa [Piece.total] using fits _ _ found

theorem fits_token (fits : lexeme.Fits) (kind : TokenKind) : (token kind lexeme).Fits :=
  fits_classified fits fun _ => some kind

theorem fits_skip (fits : lexeme.Fits) : (skip lexeme).Fits :=
  fits_classified fits _

theorem fits_trimmed (fits : lexeme.Fits) (kindOf : List Char → Option TokenKind) :
    (trimmed kindOf lexeme).Fits := by
  intro place pieces read
  obtain ⟨length, found, rfl⟩ := Option.map_eq_some_iff.mp read
  have bound := fits _ _ found
  have shorter := (trimEnd_isPrefix (place.rest.take length)).length_le
  rw [List.length_take] at shorter
  simp only [Piece.total, Piece.plain, List.foldr_cons, List.foldr_nil]
  omega

theorem fits_sequence (parts : ∀ rule ∈ rules, rule.Fits) : (sequence rules).Fits := by
  induction rules with
  | nil =>
    intro place pieces read
    obtain rfl : [] = pieces := by simpa [sequence] using read
    exact Nat.zero_le _
  | cons rule rules inductionHypothesis =>
    intro place pieces read
    obtain ⟨first, others⟩ := List.forall_mem_cons.mp parts
    obtain ⟨own, ownRead, following⟩ := Option.bind_eq_some_iff.mp read
    obtain ⟨more, moreRead, same⟩ := Option.bind_eq_some_iff.mp following
    obtain rfl : own ++ more = pieces := by simpa using same
    have ownBound := first _ _ ownRead
    have moreBound := inductionHypothesis others _ _ moreRead
    rw [Place.rest_forward, List.length_drop] at moreBound
    rw [Piece.total_append]
    omega

theorem fits_optional (fits : rule.Fits) : (optional rule).Fits := by
  intro place pieces read
  obtain rfl : (rule place).getD [] = pieces := by simpa [optional] using read
  cases found : rule place with
  | none => exact Nat.zero_le _
  | some own => exact fits place own found

theorem fits_atWordStart (fits : rule.Fits) : (atWordStart rule).Fits := by
  intro place pieces read
  unfold atWordStart at read
  split at read
  · exact fits place pieces read
  · contradiction

theorem fits_atLineStart (fits : rule.Fits) : (atLineStart rule).Fits := by
  intro place pieces read
  unfold atLineStart at read
  split at read
  · exact fits place pieces read
  · contradiction

theorem fits_firstOf (parts : ∀ rule ∈ rules, rule.Fits) : (firstOf rules).Fits := by
  intro place pieces read
  obtain ⟨rule, member, own⟩ := List.exists_of_findSome?_eq_some read
  exact parts rule member place pieces own

end Fitting

/-- Does the rule take up at least one character? -/
def Advances (rule : Rule) : Prop :=
  ∀ ⦃before offset segments rest⦄, rule.Reads before offset segments rest →
    Segment.characters segments ≠ []

section Advancing

variable {rule : Rule} {rules : List Rule} {lexeme : Lexeme}

theorem advances_classified (advances : lexeme.Advances) (kindOf : List Char → Option TokenKind) :
    (classified kindOf lexeme).Advances := by
  intro before offset segments rest read
  obtain ⟨text, rfl, reads⟩ := read.of_classified
  simpa using advances reads

theorem advances_token (advances : lexeme.Advances) (kind : TokenKind) :
    (token kind lexeme).Advances :=
  advances_classified advances fun _ => some kind

theorem advances_trimmed (advances : lexeme.Advances) (kindOf : List Char → Option TokenKind) :
    (trimmed kindOf lexeme).Advances := by
  intro before offset segments rest read
  obtain ⟨core, blanks, rfl, reads⟩ := read.of_trimmed
  simpa [Segment.plain] using advances reads

theorem advances_sequence (parts : ∃ rule ∈ rules, rule.Advances) :
    (sequence rules).Advances := by
  induction rules with
  | nil => simp at parts
  | cons rule rules inductionHypothesis =>
    intro before offset segments rest read
    obtain ⟨first, others, rfl, own, following⟩ := read.of_sequence_cons
    obtain ⟨advancing, listed, advances⟩ := parts
    rw [Segment.characters_append]
    rcases List.mem_cons.mp listed with rfl | later
    · exact List.append_ne_nil_of_left_ne_nil (advances own) _
    · exact List.append_ne_nil_of_right_ne_nil _
        (inductionHypothesis ⟨advancing, later, advances⟩ following)

theorem advances_firstOf (parts : ∀ rule ∈ rules, rule.Advances) : (firstOf rules).Advances := by
  intro before offset segments rest read
  rcases read.of_firstOf with ⟨rule, listed, own⟩
  exact parts rule listed own

theorem advances_atWordStart (advances : rule.Advances) : (atWordStart rule).Advances :=
  fun _ _ _ _ read => advances read.of_atWordStart

theorem advances_atLineStart (advances : rule.Advances) : (atLineStart rule).Advances :=
  fun _ _ _ _ read => advances read.of_atLineStart

end Advancing

end Rule

/-- Pieces that take up no more than there is are those of segments with a rest behind them. -/
theorem Piece.exists_segments {text : List Char} {pieces : List Piece}
    (bound : Piece.total pieces ≤ text.length) :
    ∃ segments rest, text = Segment.characters segments ++ rest ∧
      pieces = segments.map Segment.piece := by
  refine ⟨Piece.segments text pieces, text.drop (Piece.total pieces), ?_, ?_⟩
  · rw [Piece.characters_segments, List.take_append_drop]
  · exact (Piece.map_piece_segments bound).symm

/-- A rule that advances reads pieces with at least one character. -/
theorem Rule.Advances.total_pos {rule : Rule} (advances : rule.Advances) (fits : rule.Fits)
    {place : Place} {pieces : List Piece} (read : rule place = some pieces) :
    0 < Piece.total pieces := by
  cases place with
  | mk before offset text =>
    rcases Piece.exists_segments (fits _ _ read) with ⟨segments, rest, rfl, rfl⟩
    rw [Segment.total_map_piece]
    exact List.length_pos_iff.mpr (advances read)

end Highlight
