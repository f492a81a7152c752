import Highlight.Proofs.Endings
import Highlight.Proofs.Labels
import Highlight.Proofs.Neighbors

/-!
Emphasis in Markdown. The text of a line is scanned as if nothing stood before it, but no mark of a
block ends with a word character; so where the scan takes an underscore for the start of a word, it
is one in the line as a whole. Two underscores at once are read wherever they stand.
-/

set_option autoImplicit false

namespace Highlight

open Text

namespace Grammar.Prose

open Text.Lexeme

/-! ## Marks of emphasis -/

/-- A text between two pairs of a mark. -/
def IsStrong (mark : Char) (text : List Char) : Prop :=
  ∃ body, text = mark :: mark :: (body ++ [mark, mark]) ∧ body ≠ [] ∧ mark ∉ body

/-- A text between two marks that opens with no blank. -/
def IsStressed (mark : Char) (text : List Char) : Prop :=
  ∃ c body, text = mark :: c :: (body ++ [mark]) ∧ isBlank c = false ∧ mark ∉ c :: body

section Marks

variable {mark : Char} {text rest : List Char}

theorem IsStrong.head? (strong : IsStrong mark text) : text.head? = some mark := by
  cases strong with
  | intro body spelled => rw [spelled.1, List.head?_cons]

theorem IsStressed.head? (stressed : IsStressed mark text) : text.head? = some mark := by
  rcases stressed with ⟨c, body, rfl, -⟩
  exact List.head?_cons

theorem isStrong_of_reads {marks : String} (pair : marks.toList = [mark, mark])
    (read : (between marks marks mark).Reads text rest) : IsStrong mark text := by
  rcases reads_andThen_iff.mp read with ⟨front, closing, rfl, frontRead, closingRead⟩
  rcases reads_andThen_iff.mp frontRead with ⟨opening, body, rfl, openingRead, bodyRead⟩
  rcases reads_run_iff.mp bodyRead with ⟨present, members, -⟩
  rw [reads_literal_iff.mp openingRead, reads_literal_iff.mp closingRead, pair]
  refine ⟨body, by simp, present, ?_⟩
  intro isMember
  simpa using members mark isMember

theorem isStressed_of_reads (read : (emphasis mark).Reads text rest) : IsStressed mark text := by
  rcases reads_andThen_iff.mp read with ⟨front, closing, rfl, frontRead, closingRead⟩
  rcases reads_andThen_iff.mp frontRead with ⟨start, body, rfl, startRead, bodyRead⟩
  rcases reads_andThen_iff.mp startRead with ⟨opening, first, rfl, openingRead, firstRead⟩
  rcases reads_one_iff.mp firstRead with ⟨c, rfl, isFirst⟩
  rw [reads_char_iff.mp openingRead, reads_char_iff.mp closingRead]
  have noMark : c ≠ mark ∧ isBlank c = false := by simpa using isFirst
  have members := (reads_many_iff.mp bodyRead).1
  refine ⟨c, body, by simp, noMark.2, ?_⟩
  rw [List.mem_cons, not_or]
  refine ⟨Ne.symm noMark.1, ?_⟩
  intro isMember
  simpa using members mark isMember

end Marks

/-! ## The scan of the text -/

/-- A segment that the scan reads behind a character and in front of a rest. -/
inductive Reading (before : Option Char) (rest : List Char) : Segment → Prop
  | strong {mark : Char} {text : List Char} : IsStrong mark text →
      Reading before rest (.labelled .emphasis text)
  | starred {text : List Char} : IsStressed '*' text →
      Reading before rest (.labelled .emphasis text)
  | underscored {text : List Char} : IsStressed '_' text → (∀ c ∈ before, isWord c = false) →
      Stops isWord rest → Reading before rest (.labelled .emphasis text)
  | other {kind : TokenKind} {text : List Char} : kind ≠ .emphasis →
      Reading before rest (.labelled kind text)

/-- Is emphasis between underscores strong, or does it stand in no word? -/
def OutsideWords (before : Option Char) (token : Token) (behind : List Token) : Prop :=
  token.kind = .emphasis → token.text.toList.head? = some '_' →
    IsStrong '_' token.text.toList ∨
      IsStressed '_' token.text.toList ∧ (∀ c ∈ before, isWord c = false) ∧
        Stops isWord (characters behind)

section Scan

variable {before : Option Char} {offset : Nat} {segments : List Segment} {rest : List Char}

theorem reading_of_rules (read : (Rule.firstOf rules).Reads before offset segments rest) :
    ∃ segment, segments = [segment] ∧ Reading before rest segment := by
  rcases read.of_firstOf with ⟨rule, listed, own⟩
  simp only [rules, List.mem_cons, List.not_mem_nil, or_false] at listed
  rcases listed with rfl | rfl | rfl | rfl | rfl | rfl
  · rcases Rule.reads_token_iff.mp own with ⟨text, rfl, -⟩
    exact ⟨_, rfl, .other (by simp)⟩
  · rcases Rule.reads_token_iff.mp own with ⟨text, rfl, reads⟩
    refine ⟨_, rfl, ?_⟩
    rcases reads_orElse_iff.mp reads with stars | ⟨-, reads⟩
    · exact .strong (isStrong_of_reads rfl stars)
    rcases reads_orElse_iff.mp reads with underscores | ⟨-, waves⟩
    · exact .strong (isStrong_of_reads rfl underscores)
    · exact .strong (isStrong_of_reads rfl waves)
  · rcases Rule.reads_token_iff.mp own with ⟨text, rfl, reads⟩
    exact ⟨_, rfl, .starred (isStressed_of_reads reads)⟩
  · rcases Rule.reads_token_iff.mp own.of_atWordStart with ⟨text, rfl, reads⟩
    rcases reads_andThen_iff.mp reads with ⟨marked, nothing, rfl, markedRead, endRead⟩
    rcases reads_wordEnd_iff.mp endRead with ⟨rfl, stops⟩
    rw [List.append_nil]
    exact ⟨_, rfl, .underscored (isStressed_of_reads markedRead) own.clear_of_atWordStart stops⟩
  · rcases Rule.reads_token_iff.mp own with ⟨text, rfl, -⟩
    exact ⟨_, rfl, .other (by simp)⟩
  · rcases Rule.reads_token_iff.mp own with ⟨text, rfl, -⟩
    exact ⟨_, rfl, .other (by simp)⟩

theorem outsideWords_of_reading {segment : Segment} {behind : List Token}
    (reading : Reading before rest segment) (continues : characters behind = rest) :
    ∀ kind ∈ segment.kind?, OutsideWords before ⟨kind, String.ofList segment.text⟩ behind := by
  intro kind isKind isEmphasis opens
  rw [String.toList_ofList] at opens ⊢
  cases reading with
  | strong strong =>
    cases strong.head?.symm.trans opens
    exact .inl strong
  | starred stressed => cases stressed.head?.symm.trans opens
  | underscored stressed clear stops =>
    rw [continues]
    exact .inr ⟨stressed, clear, stops⟩
  | other different =>
    cases isKind
    exact absurd isEmphasis different

theorem rules_fit : ∀ rule ∈ rules, rule.Fits := by
  have betweenFits (opening closing : String) (mark : Char) :
      (between opening closing mark).Fits :=
    fits_andThen (fits_andThen (fits_literal _) (fits_run _)) (fits_literal _)
  have emphasisFits (mark : Char) : (emphasis mark).Fits :=
    fits_andThen (fits_andThen (fits_andThen (fits_one _) (fits_one _)) (fits_many _)) (fits_one _)
  have throughFits (isMember : Char → Bool) : (through isMember).Fits :=
    fits_andThen (fits_many _) (fits_one _)
  have linkFits : link.Fits := by
    apply fits_andThen _ (throughFits _)
    apply fits_andThen _ (fits_one _)
    apply fits_andThen _ (throughFits _)
    exact fits_andThen (fits_optional (fits_one _)) (fits_one _)
  have addressFits : address.Fits :=
    fits_andThen (fits_andThen (fits_literal _) (fits_optional (fits_one _))) (fits_literal _)
  have autolinkFits : autolink.Fits := by
    apply fits_orElse
    · apply fits_andThen _ (fits_one _)
      exact fits_andThen (fits_andThen (fits_one _) addressFits) (fits_run _)
    · exact fits_andThen addressFits (fits_run _)
  simp only [rules, List.forall_mem_cons]
  refine ⟨?_, ?_, ?_, ?_, ?_, ?_, List.forall_mem_nil _⟩
  · exact Rule.fits_token (betweenFits _ _ _) _
  · apply Rule.fits_token
    exact fits_orElse (betweenFits _ _ _) (fits_orElse (betweenFits _ _ _) (betweenFits _ _ _))
  · exact Rule.fits_token (emphasisFits _) _
  · exact Rule.fits_atWordStart (Rule.fits_token (fits_andThen (emphasisFits _) (fits_ahead _)) _)
  · exact Rule.fits_token linkFits _
  · exact Rule.fits_token autolinkFits _

theorem rules_advance : ∀ rule ∈ rules, rule.Advances := by
  have betweenAdvances (opening closing : String) (mark : Char) :
      (between opening closing mark).Advances :=
    advances_andThen (advances_andThen_right _ (advances_run _)) _
  have emphasisAdvances (mark : Char) : (emphasis mark).Advances :=
    advances_andThen_right _ (advances_one _)
  simp only [rules, List.forall_mem_cons]
  refine ⟨?_, ?_, ?_, ?_, ?_, ?_, List.forall_mem_nil _⟩
  · exact Rule.advances_token (betweenAdvances _ _ _) _
  · apply Rule.advances_token
    apply advances_orElse (betweenAdvances _ _ _)
    exact advances_orElse (betweenAdvances _ _ _) (betweenAdvances _ _ _)
  · exact Rule.advances_token (emphasisAdvances _) _
  · apply Rule.advances_atWordStart
    exact Rule.advances_token (advances_andThen (emphasisAdvances _) _) _
  · apply Rule.advances_token
    exact advances_andThen (advances_andThen_right _ (advances_one _)) _
  · apply Rule.advances_token
    apply advances_orElse
    · exact advances_andThen_right _ (advances_one _)
    · exact advances_andThen_right _ (advances_run _)

theorem scanInvariant : ScanInvariant (ruleStep rules) (fun _ _ _ => True) OutsideWords := by
  apply ScanInvariant.of_rules rules_fit rules_advance
  · intro before offset c rest _ _
    trivial
  · intro before offset segments rest _ read
    refine ⟨trivial, ?_⟩
    intro tail continues each
    rcases reading_of_rules read with ⟨segment, rfl, reading⟩
    rw [← continues, ← Segment.characters_tokens] at reading
    exact ⟨outsideWords_of_reading reading rfl, by simpa using each⟩

end Scan

/-! ## The marks of blocks -/

theorem noWord_of_isIndent {c : Char} (blank : isIndent c) : !isWord c := by
  have listed : c ∈ [' ', '\t'] := by simpa [isIndent] using blank
  exact List.all_eq_true.mp (by decide : [' ', '\t'].all (!isWord ·)) c listed

theorem blockMarks_fits : blockMarks.Fits := by
  have quoteFits : quoteMark.Fits := Rule.fits_trimmed (fits_andThen (fits_one _) (fits_many _)) _
  have listFits : listMark.Fits := by
    apply Rule.fits_trimmed
    apply fits_andThen _ (fits_orElse (fits_run _) (fits_ahead _))
    exact fits_orElse (fits_one _) (fits_andThen (fits_between _ _ _) (fits_one _))
  have taskFits : taskMark.Fits := by
    apply Rule.fits_sequence
    simp only [List.forall_mem_cons]
    refine ⟨Rule.fits_token ?_ _, Rule.fits_skip ?_, List.forall_mem_nil _⟩
    · exact fits_andThen (fits_andThen (fits_one _) (fits_one _)) (fits_one _)
    · exact fits_orElse (fits_one _) (fits_ahead _)
  apply Rule.fits_sequence
  simp only [List.forall_mem_cons]
  exact ⟨Rule.fits_skip (fits_many _), Rule.fits_optional quoteFits, Rule.fits_optional listFits,
    Rule.fits_optional taskFits, List.forall_mem_nil _⟩

/-- The marks before the text of a line end with no word character. -/
theorem blockMarks_ends : blockMarks.Ends (!isWord ·) := by
  have quoteEnds : quoteMark.Ends (!isWord ·) := by
    apply Rule.ends_trimmed
    apply ends_andThen (ends_char (by decide))
    apply ends_many
    intro c member
    rcases Bool.or_eq_true_iff.mp member with isQuote | blank
    · rw [eq_of_beq isQuote]
      decide
    · exact noWord_of_isIndent blank
  have listEnds : listMark.Ends (!isWord ·) := by
    apply Rule.ends_trimmed
    apply ends_andThen
    · apply ends_orElse
      · apply ends_one
        intro c member
        have listed : c ∈ ['-', '*', '+'] := by simpa [or_assoc] using member
        exact List.all_eq_true.mp (by decide : ['-', '*', '+'].all (!isWord ·)) c listed
      · exact ends_andThen_right _ (advances_one _) (ends_oneOf (by decide))
    · exact ends_orElse (ends_run fun _ => noWord_of_isIndent) ends_atEnd
  have taskEnds : taskMark.Ends (!isWord ·) := by
    apply Rule.ends_sequence
    simp only [List.forall_mem_cons]
    refine ⟨Rule.ends_token ?_ _, Rule.ends_skip ?_, List.forall_mem_nil _⟩
    · exact ends_andThen_right _ (advances_one _) (ends_char (by decide))
    · exact ends_orElse (ends_one fun _ => noWord_of_isIndent) ends_atEnd
  apply Rule.ends_sequence
  simp only [List.forall_mem_cons]
  refine ⟨Rule.ends_skip ?_, Rule.ends_optional quoteEnds, Rule.ends_optional listEnds,
    Rule.ends_optional taskEnds, List.forall_mem_nil _⟩
  exact ends_many fun _ => noWord_of_isIndent

/-! ## Lines -/

/-- A line is labelled as a whole and is no emphasis, or it is made up of marks that are none
either and end with no word character, and of text that is scanned. -/
theorem spans_cases (line : List Char) :
    (∀ span ∈ spans line, span.kind ≠ .emphasis) ∨
      ∃ marks rest, line = Segment.characters marks ++ rest ∧ Segment.Within (· ≠ .emphasis) marks ∧
        (∀ c ∈ (Segment.characters marks).getLast?, isWord c = false) ∧
        spans line = Segment.spansFrom 0 (marks ++
          segmentsFrom (ruleStep rules) () ⟨none, byteSize (Segment.characters marks), rest⟩) := by
  unfold spans
  dsimp only
  split
  · left
    simp
  split
  · left
    simp
  split
  · left
    simp
  -- The marks are read like optional ones, and those are always read.
  have fits : (Rule.optional blockMarks).Fits := Rule.fits_optional blockMarks_fits
  have ends : (Rule.optional blockMarks).Ends (!isWord ·) := Rule.ends_optional blockMarks_ends
  have within : (Rule.optional blockMarks).Within (· ≠ .emphasis) :=
    Rule.optional_within (blockMarks_within (by simp))
  have read : Rule.optional blockMarks (.start line) =
    some ((blockMarks (.start line)).getD []) := rfl
  generalize (blockMarks (.start line)).getD [] = pieces at read ⊢
  rcases Piece.exists_segments (fits _ _ read) with ⟨marks, rest, whole, rfl⟩
  obtain rfl : line = Segment.characters marks ++ rest := whole
  have own : (Rule.optional blockMarks).Reads none 0 marks rest := read
  refine .inr ⟨marks, rest, rfl, ?_, ?_, ?_⟩
  · intro segment member
    exact within _ _ read segment.piece (List.mem_map_of_mem member)
  · intro c last
    simpa using ends own c last
  · rw [Segment.total_map_piece, Place.start, Place.forward_append, Piece.spansFrom_eq,
      Segment.segments_map_piece, Segment.spansFrom_append, Nat.zero_add]
    congr 1
    exact scanFrom_eq_spansFrom (ruleStep rules) () _

/-- Emphasis stands outside of words in the scanned text behind the marks of a line. -/
theorem each_behind_marks {marks : List Segment} (within : Segment.Within (· ≠ .emphasis) marks)
    (ends : ∀ c ∈ (Segment.characters marks).getLast?, isWord c = false) (offset : Nat)
    (rest : List Char) : Segment.Each OutsideWords none
      (marks ++ segmentsFrom (ruleStep rules) () ⟨none, offset, rest⟩) := by
  have scanned : Segment.Each OutsideWords none
      (segmentsFrom (ruleStep rules) () ⟨none, offset, rest⟩) :=
    scanInvariant.each () ⟨none, offset, rest⟩ trivial
  apply Segment.each_append
  · intro segment member kind isKind _ _ isEmphasis
    exact absurd isEmphasis (within segment member kind isKind)
  · -- The scan has seen no character before its text, and the line has none of a word there.
    apply scanned.behind
    intro token behind outside isEmphasis opens
    rcases outside isEmphasis opens with strong | ⟨stressed, -, stops⟩
    · exact .inl strong
    · exact .inr ⟨stressed, by simpa using ends, stops⟩

end Grammar.Prose

open Grammar.Prose in
/-- Emphasis between single underscores stands in no word; between pairs of them it may. -/
theorem emphasis_outside_words (line : String) {front behind : List Token} {token : Token}
    (isEmphasis : token.kind = .emphasis) (opens : token.text.toList.head? = some '_')
    (split : tokenize .markdown line = front ++ token :: behind) :
    IsStrong '_' token.text.toList ∨
      IsStressed '_' token.text.toList ∧
        (∀ c ∈ (characters front).getLast?, isWord c = false) ∧
        Lexeme.Stops isWord (characters behind) := by
  have isLabel : token.kind ≠ .text := by simp [isEmphasis]
  rcases spans_cases line.toList with whole | ⟨marks, rest, spelled, within, ends, spans⟩
  · have member : token ∈ tokenize .markdown line := by simp [split]
    exact absurd isEmphasis (kind_of_mem_coverLine (· ≠ .emphasis) whole member isLabel)
  · have each := each_behind_marks within ends (byteSize (Segment.characters marks)) rest
    have covered := coverLine_spansFrom (marks ++ segmentsFrom (Grammar.ruleStep rules) ()
      ⟨none, byteSize (Segment.characters marks), rest⟩)
    rw [Segment.characters_append, characters_segmentsFrom, ← spelled, ← spans] at covered
    exact Segment.holds_of_tokens each isLabel (covered.symm.trans split) isEmphasis opens

open Grammar.Prose in
/-- Emphasis opens an item of a list in a quotation. -/
theorem emphasis_of_quoted_item :
    tokenize .markdown "> 1. _a b_, c_d" =
        [⟨.punctuation, ">"⟩, ⟨.text, " "⟩, ⟨.punctuation, "1."⟩, ⟨.text, " "⟩] ++
          ⟨.emphasis, "_a b_"⟩ :: [⟨.text, ", c_d"⟩] ∧
      IsStressed '_' "_a b_".toList ∧ (∀ c ∈ (characters [⟨.punctuation, ">"⟩, ⟨.text, " "⟩,
        ⟨.punctuation, "1."⟩, ⟨.text, " "⟩]).getLast?, isWord c = false) ∧
      Lexeme.Stops isWord (characters [⟨.text, ", c_d"⟩]) := by
  have split : tokenize .markdown "> 1. _a b_, c_d" =
      [⟨.punctuation, ">"⟩, ⟨.text, " "⟩, ⟨.punctuation, "1."⟩, ⟨.text, " "⟩] ++
        ⟨.emphasis, "_a b_"⟩ :: [⟨.text, ", c_d"⟩] := by
    decide +kernel
  refine ⟨split, (emphasis_outside_words _ rfl rfl split).resolve_left ?_⟩
  rintro ⟨body, same, -⟩
  simp at same

/-- Two underscores at once open emphasis inside a word. -/
theorem emphasis_inside_name :
    tokenize .markdown "call snake__case__name now" =
      [⟨.text, "call snake"⟩, ⟨.emphasis, "__case__"⟩, ⟨.text, "name now"⟩] := by
  decide +kernel

end Highlight
