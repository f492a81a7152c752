import Highlight.Proofs.Readings
import Highlight.Proofs.Spelling
import Highlight.Tokenize

/-!
Lines of environment files. A line that gives a name a value is its head, up to the equals sign, and
the value. A value in quotes ends with the quote that closes it; any other value ends before the
blanks in front of its comment.
-/

set_option autoImplicit false

namespace Highlight

open Text

namespace Grammar.Assignment

open Text.Lexeme

/-! ## Heads -/

def opensName (c : Char) : Bool :=
  c.isAlpha || c == '_'

def continuesName (c : Char) : Bool :=
  c.isAlphanum || c == '_' || c == '.' || c == '-'

/-- What stands before a value: the blanks at the start of the line, the blanks behind the word that
exports the name if that word is there, the name, and the blanks behind the name. -/
structure Head where
  indent : List Char
  exported? : Option (List Char)
  name : List Char
  gap : List Char

namespace Head

structure WellFormed (front : Head) : Prop where
  indent : ∀ c ∈ front.indent, isBlank c
  exported : ∀ blanks ∈ front.exported?, blanks ≠ [] ∧ ∀ c ∈ blanks, isBlank c
  name : IsName opensName continuesName front.name
  gap : ∀ c ∈ front.gap, isBlank c

def exportSegments (front : Head) : List Segment :=
  match front.exported? with
  | none => []
  | some blanks => [.labelled .keyword "export".toList, .plain blanks]

def bindingSegments (front : Head) : List Segment :=
  [.labelled .key front.name, .plain front.gap, .labelled .punctuation ['=']]

def segments (front : Head) : List Segment :=
  .plain front.indent :: front.exportSegments ++ front.bindingSegments

def written (front : Head) : List Char :=
  Segment.characters front.segments

end Head

theorem name_eq : name = .one opensName ++ .many continuesName := rfl

section Reading

variable {front : Head} {value : List Char}

/-- Behind blanks comes no member of a class without blanks when none comes behind the blanks. -/
theorem stops_blanks {blanks rest : List Char} (allBlank : ∀ c ∈ blanks, isBlank c)
    {isMember : Char → Bool}
    (excluded : blankCodes.all fun code => !isMember (Char.ofNat code))
    (stops : Stops isMember rest) : Stops isMember (blanks ++ rest) := by
  cases blanks with
  | nil => exact stops
  | cons c blanks => simpa [Stops] using excludes_blank (allBlank c (by simp)) excluded

theorem stops_continuesName (wellFormed : front.WellFormed) (rest : List Char) :
    Stops continuesName (front.gap ++ (['='] ++ rest)) :=
  stops_blanks wellFormed.gap (by decide) (by simp [Stops, continuesName])

theorem stops_isBlank_sign (rest : List Char) : Stops isBlank (['='] ++ rest) := by
  have present : isBlank '=' = false := by decide
  simpa [Stops] using present

theorem sequence_binding (wellFormed : front.WellFormed) (oneLine : '\n' ∉ value)
    (before : Option Char) (offset : Nat) :
    Rule.sequence binding ⟨before, offset, front.name ++ (front.gap ++ (['='] ++ ([] ++ value)))⟩ =
      some ((front.bindingSegments ++ [Segment.plain []]).map Segment.piece) := by
  have nameRead : name.Reads front.name (front.gap ++ (['='] ++ ([] ++ value))) := by
    rw [name_eq]
    exact reads_name wellFormed.name (stops_continuesName wellFormed _)
  have gapRead : (many isBlank).Reads front.gap (['='] ++ ([] ++ value)) :=
    reads_many wellFormed.gap (stops_isBlank_sign _)
  have signRead : (char '=').Reads ['='] ([] ++ value) := reads_one rfl _
  have valueRead : (ahead fun value => value.all (· != '\n')).Reads [] value := by
    simp [Reads, ahead, oneLine]
  rw [binding, Rule.sequence_cons_of_piece (Rule.token_of_reads nameRead _) rfl,
    Rule.sequence_cons_of_piece (Rule.skip_of_reads gapRead) rfl,
    Rule.sequence_cons_of_piece (Rule.token_of_reads signRead _) rfl,
    Rule.sequence_cons_of_piece (Rule.skip_of_reads valueRead) rfl]
  rfl

/-- A text whose characters all continue a name does not reach beyond a name. -/
theorem prefix_name {expected name rest : List Char} (members : ∀ c ∈ expected, continuesName c)
    (stops : Stops continuesName rest) (starts : expected <+: name ++ rest) :
    expected <+: name := by
  by_cases short : expected.length ≤ name.length
  · exact List.prefix_of_prefix_length_le starts (List.prefix_append name rest) short
  · obtain ⟨more, rfl⟩ := List.prefix_of_prefix_length_le (List.prefix_append name rest) starts
      (by omega)
    obtain ⟨others, rfl⟩ := (List.prefix_append_right_inj name).mp starts
    cases more with
    | nil => simp at short
    | cons c more =>
      have member := members c (by simp)
      simp [stops c rfl] at member

/-- Behind the start of a name stand no blanks with another name behind them. -/
theorem sequence_spaced_none {more gap : List Char} (continued : ∀ c ∈ more, continuesName c)
    (allBlank : ∀ c ∈ gap, isBlank c) (before : Option Char) (offset : Nat) :
    Rule.sequence (.skip (.run isBlank) :: binding)
      ⟨before, offset, more ++ (gap ++ (['='] ++ value))⟩ = none := by
  cases more with
  | cons c more =>
    have noBlank : Stops isBlank (c :: more ++ (gap ++ (['='] ++ value))) := by
      have member := continued c (by simp)
      simpa [Stops] using not_isBlank_of_member continuesName member (by decide)
    exact Rule.sequence_cons_of_none (Rule.skip_of_misses (misses_run noBlank))
  | nil =>
    rw [List.nil_append]
    by_cases empty : gap = []
    · rw [empty, List.nil_append]
      apply Rule.sequence_cons_of_none
      exact Rule.skip_of_misses (misses_run (stops_isBlank_sign value))
    · have gapRead : (run isBlank).Reads gap (['='] ++ value) :=
        reads_run empty allBlank (stops_isBlank_sign value)
      have noName : name.Misses (['='] ++ value) := by
        rw [name_eq]
        exact misses_andThen (misses_one (by simp [Stops, opensName])) _
      rw [Rule.sequence_cons_of_piece (Rule.skip_of_reads gapRead) rfl, Option.map_eq_none_iff]
      exact Rule.sequence_cons_of_none (Rule.token_of_misses noName _)

/-- A line without the word that exports is not read as if it had it, also when the name itself
starts with that word. -/
theorem exporting_none (wellFormed : front.WellFormed) (before : Option Char) (offset : Nat) :
    Rule.sequence (.token .keyword (.literal "export") :: .skip (.run isBlank) :: binding)
      ⟨before, offset, front.name ++ (front.gap ++ (['='] ++ value))⟩ = none := by
  by_cases starts : "export".toList <+: front.name
  · obtain ⟨more, spelled⟩ := starts
    obtain ⟨first, others, whole, -, continued⟩ := wellFormed.name
    have within : ∀ c ∈ more, continuesName c := by
      intro c member
      apply continued
      rw [whole] at spelled
      rw [← (List.cons.inj spelled).2]
      exact List.mem_append_right _ member
    have wordRead := reads_literal "export" (more ++ (front.gap ++ (['='] ++ value)))
    rw [← spelled, List.append_assoc,
      Rule.sequence_cons_of_piece (Rule.token_of_reads wordRead _) rfl,
      sequence_spaced_none within wellFormed.gap, Option.map_none]
  · have stops := stops_continuesName wellFormed value
    have absent := mt (prefix_name (forall_mem_of_all (by decide)) stops) starts
    apply Rule.sequence_cons_of_none
    exact Rule.token_of_misses (misses_literal_of_not_isPrefix absent) _

theorem exporting_some (wellFormed : front.WellFormed) (oneLine : '\n' ∉ value)
    {blanks : List Char} (exported : front.exported? = some blanks) (before : Option Char)
    (offset : Nat) :
    Rule.sequence (.token .keyword (.literal "export") :: .skip (.run isBlank) :: binding)
      ⟨before, offset, "export".toList ++
        (blanks ++ (front.name ++ (front.gap ++ (['='] ++ ([] ++ value)))))⟩ =
      some ((front.exportSegments ++ (front.bindingSegments ++ [Segment.plain []])).map
        Segment.piece) := by
  obtain ⟨present, allBlank⟩ := wellFormed.exported blanks exported
  have wordRead := reads_literal "export"
    (blanks ++ (front.name ++ (front.gap ++ (['='] ++ ([] ++ value)))))
  have nameStops : Stops isBlank (front.name ++ (front.gap ++ (['='] ++ ([] ++ value)))) := by
    obtain ⟨first, more, named, opened, -⟩ := wellFormed.name
    simpa [named, Stops] using not_isBlank_of_member opensName opened (by decide)
  have blanksRead := reads_run present allBlank nameStops
  rw [Rule.sequence_cons_of_piece (Rule.token_of_reads wordRead _) rfl,
    Rule.sequence_cons_of_piece (Rule.skip_of_reads blanksRead) rfl,
    sequence_binding wellFormed oneLine]
  simp [Head.exportSegments, exported, Segment.piece, Segment.plain, Segment.labelled,
    Piece.plain, Piece.labelled]

theorem written_append (front : Head) (rest : List Char) :
    front.written ++ rest = front.indent ++ (Segment.characters front.exportSegments ++
      (front.name ++ (front.gap ++ (['='] ++ ([] ++ rest))))) := by
  simp [Head.written, Head.segments, Head.bindingSegments, Segment.plain, Segment.labelled]

theorem exists_opening (wellFormed : front.WellFormed) (rest : List Char) :
    ∃ c others, Segment.characters front.exportSegments ++ (front.name ++ rest) = c :: others ∧
      opensName c := by
  cases exported : front.exported? with
  | none =>
    obtain ⟨c, others, spelled, opened, -⟩ := wellFormed.name
    exact ⟨c, others ++ rest, by simp [Head.exportSegments, exported, spelled], opened⟩
  | some blanks =>
    exact ⟨'e', _, by simp [Head.exportSegments, exported, Segment.labelled]; rfl, by decide⟩

theorem head_eq (wellFormed : front.WellFormed) (oneLine : '\n' ∉ value) :
    head (.start (front.written ++ value)) =
      some ((front.segments ++ [Segment.plain []]).map Segment.piece) := by
  have indentRead : (many isBlank).Reads front.indent (Segment.characters front.exportSegments ++
      (front.name ++ (front.gap ++ (['='] ++ ([] ++ value))))) := by
    apply reads_many wellFormed.indent
    obtain ⟨c, others, spelled, opened⟩ :=
      exists_opening wellFormed (front.gap ++ (['='] ++ ([] ++ value)))
    rw [spelled]
    simpa [Stops] using not_isBlank_of_member opensName opened (by decide)
  rw [written_append, Place.start, head]
  cases exported : front.exported? with
  | none =>
    have noWord : front.exportSegments = [] := by simp [Head.exportSegments, exported]
    rw [noWord, Segment.characters_nil, List.nil_append] at indentRead ⊢
    rw [Rule.firstOf_cons_of_none]
    · apply Rule.firstOf_cons_of_some
      rw [Rule.sequence_cons_of_piece (Rule.skip_of_reads indentRead) rfl,
        sequence_binding wellFormed oneLine, Option.map_some, Head.segments, noWord]
      rfl
    · rw [Rule.sequence_cons_of_piece (Rule.skip_of_reads indentRead) rfl,
        exporting_none wellFormed, Option.map_none]
  | some blanks =>
    have word : Segment.characters front.exportSegments = "export".toList ++ blanks := by
      simp [Head.exportSegments, exported, Segment.plain, Segment.labelled]
    rw [word, List.append_assoc] at indentRead ⊢
    apply Rule.firstOf_cons_of_some
    rw [Rule.sequence_cons_of_piece (Rule.skip_of_reads indentRead) rfl,
      exporting_some wellFormed oneLine exported, Option.map_some, Head.segments,
      List.cons_append, List.cons_append, List.append_assoc]
    rfl

/-- A line with a head is no comment as a whole. -/
theorem trimStart_written (wellFormed : front.WellFormed) (rest : List Char) :
    (trimStart (front.written ++ rest)).head? ≠ some '#' := by
  obtain ⟨c, others, spelled, opened⟩ :=
    exists_opening wellFormed (front.gap ++ (['='] ++ ([] ++ rest)))
  have present := not_isBlank_of_member opensName opened (by decide)
  rw [written_append, spelled, trimStart, List.dropWhile_append_of_pos wellFormed.indent,
    List.dropWhile_cons_of_neg (by simp [present])]
  rintro ⟨⟩
  contradiction

end Reading

/-! ## Values -/

/-- The segments behind a value: a comment with nothing but blanks before it, or plain text. -/
def tailSegments (tail : List Char) : List Segment :=
  let gap := tail.takeWhile (· != '#')
  if gap.length < tail.length && gap.all isBlank then
    [.plain gap, .labelled .comment (tail.dropWhile (· != '#'))]
  else [.plain tail]

def valueSegments (value : List Char) : List Segment :=
  let body := trimStart value
  let length := valueLength body
  [.plain (value.takeWhile isBlank), .labelled .string (body.take length)] ++
    tailSegments (body.drop length)

theorem spansFrom_tailSegments (offset : Nat) (tail : List Char) :
    Segment.spansFrom offset (tailSegments tail) = tailSpans offset tail := by
  have whole : byteSize (tail.takeWhile (· != '#')) +
      byteSize (tail.dropWhile (· != '#')) = byteSize tail := by
    rw [← byteSize_append, List.takeWhile_append_dropWhile]
  simp only [tailSegments, tailSpans]
  split
  · simp [Segment.spansFrom, Segment.plain, Segment.labelled, Nat.add_assoc, whole]
  · rfl

theorem spansFrom_valueSegments (offset : Nat) (value : List Char) :
    Segment.spansFrom offset (valueSegments value) = valueSpans offset value := by
  rw [valueSegments, Segment.spansFrom_append, spansFrom_tailSegments, valueSpans]
  simp [Segment.spansFrom, Segment.plain, Segment.labelled, Nat.add_assoc]

theorem characters_tailSegments (tail : List Char) :
    Segment.characters (tailSegments tail) = tail := by
  simp only [tailSegments]
  split
  · simp [Segment.plain, Segment.labelled]
  · simp [Segment.plain]

theorem characters_valueSegments (value : List Char) :
    Segment.characters (valueSegments value) = value := by
  rw [valueSegments, Segment.characters_append, characters_tailSegments]
  simp only [Segment.characters_cons, Segment.characters_nil, Segment.plain, Segment.labelled,
    List.append_nil, List.append_assoc, List.take_append_drop]
  exact List.takeWhile_append_dropWhile

theorem spans_written {front : Head} (wellFormed : front.WellFormed) {value : List Char}
    (oneLine : '\n' ∉ value) :
    spans (front.written ++ value) =
      Segment.spansFrom 0 (front.segments ++ valueSegments value) := by
  have pieces := head_eq wellFormed oneLine
  have written : Segment.characters (front.segments ++ [Segment.plain []]) = front.written := by
    simp [Head.written, Segment.plain]
  have cut := Segment.segments_map_piece (front.segments ++ [Segment.plain []]) value
  rw [written] at cut
  rw [spans, if_neg (trimStart_written wellFormed value), pieces]
  simp only [Segment.total_map_piece, written, Place.start, Place.forward_append,
    Piece.spansFrom_eq, cut]
  rw [Segment.spansFrom_append, Segment.spansFrom_append, spansFrom_valueSegments]
  simp [Segment.spansFrom, Segment.plain, Head.written]

theorem tokenize_written {front : Head} (wellFormed : front.WellFormed) {value : List Char}
    (oneLine : '\n' ∉ value) :
    tokenize .env (String.ofList (front.written ++ value)) =
      Segment.tokens (front.segments ++ valueSegments value) := by
  have covered := coverLine_spansFrom (front.segments ++ valueSegments value)
  rw [← spans_written wellFormed oneLine, Segment.characters_append,
    characters_valueSegments] at covered
  rw [tokenize, String.toList_ofList]
  exact covered

section Tails

variable {blanks : List Char}

theorem ne_sign_of_isBlank {c : Char} (blank : isBlank c) : c != '#' := by
  rw [bne_iff_ne]
  rintro rfl
  exact absurd blank (by decide)

theorem tailSegments_blanks (allBlank : ∀ c ∈ blanks, isBlank c) :
    tailSegments blanks = [.plain blanks] := by
  have gap : blanks.takeWhile (· != '#') = blanks :=
    List.takeWhile_eq_self_iff.mpr fun c member => ne_sign_of_isBlank (allBlank c member)
  simp [tailSegments, gap]

theorem tailSegments_comment (allBlank : ∀ c ∈ blanks, isBlank c) (note : List Char) :
    tailSegments (blanks ++ '#' :: note) = [.plain blanks, .labelled .comment ('#' :: note)] := by
  have noSign : ∀ c ∈ blanks, c != '#' := fun c member => ne_sign_of_isBlank (allBlank c member)
  have gap : (blanks ++ '#' :: note).takeWhile (· != '#') = blanks := by
    simp [List.takeWhile_append_of_pos noSign]
  have comment : (blanks ++ '#' :: note).dropWhile (· != '#') = '#' :: note := by
    simp [List.dropWhile_append_of_pos noSign]
  have all : blanks.all isBlank := List.all_eq_true.mpr allBlank
  simp [tailSegments, gap, comment, all]

end Tails

/-! ## Values without quotes -/

/-- A text that comes after some character is cut where its comment starts. No number sign before
that place stands right behind a blank, and one stands there unless the text ends. -/
structure CommentStartsAfter (before : Option Char) (text kept comment : List Char) : Prop where
  whole : text = kept ++ comment
  quiet : (before.toList ++ kept).IsChain fun c next => isBlank c → next ≠ '#'
  starts : comment ≠ [] → comment.head? = some '#' ∧ (kept.getLast?.or before).any isBlank

abbrev CommentStarts (text kept comment : List Char) : Prop :=
  CommentStartsAfter none text kept comment

theorem quiet_cons_iff {before : Option Char} {c : Char} {text : List Char} :
    (before.toList ++ c :: text).IsChain (fun d next => isBlank d → next ≠ '#') ↔
      (before.any isBlank → c ≠ '#') ∧
        (c :: text).IsChain fun d next => isBlank d → next ≠ '#' := by
  cases before with
  | none => simp
  | some b => simp [List.isChain_cons_cons]

theorem exists_commentStartsAfter (before : Option Char) (text : List Char) :
    ∃ kept comment, CommentStartsAfter before text kept comment := by
  induction text generalizing before with
  | nil => exact ⟨[], [], rfl, by cases before <;> simp, by simp⟩
  | cons c text inductionHypothesis =>
    by_cases starts : c = '#' ∧ before.any isBlank
    · obtain ⟨rfl, blank⟩ := starts
      exact ⟨[], '#' :: text, rfl, by cases before <;> simp, fun _ => ⟨rfl, by simpa using blank⟩⟩
    · obtain ⟨kept, comment, rfl, quiet, behind⟩ := inductionHypothesis (some c)
      refine ⟨c :: kept, comment, rfl, ?_, fun present => ?_⟩
      · exact quiet_cons_iff.mpr ⟨fun blank sign => starts ⟨sign, blank⟩, quiet⟩
      · rw [Place.getLast?_cons_or]
        exact behind present

/-- What stands before the comment is found by going through the text. -/
theorem beforeComment_eq {before : Option Char} {text kept comment : List Char}
    (starts : CommentStartsAfter before text kept comment) :
    beforeComment (before.any isBlank) text = kept := by
  induction kept generalizing before text with
  | nil =>
    obtain ⟨whole, -, behind⟩ := starts
    rw [List.nil_append] at whole
    subst whole
    cases text with
    | nil => rfl
    | cons c rest =>
      obtain ⟨sign, blank⟩ := behind (by simp)
      obtain rfl : c = '#' := by simpa using sign
      have afterBlank : before.any isBlank := by simpa using blank
      simp [beforeComment, afterBlank]
  | cons c kept inductionHypothesis =>
    obtain ⟨rfl, quiet, behind⟩ := starts
    obtain ⟨own, later⟩ := quiet_cons_iff.mp quiet
    have following : CommentStartsAfter (some c) (kept ++ comment) kept comment := by
      refine ⟨rfl, later, fun present => ?_⟩
      rw [← Place.getLast?_cons_or]
      exact behind present
    have noComment : ¬(c == '#' && before.any isBlank) := by
      simp only [Bool.and_eq_true, beq_iff_eq, not_and]
      exact fun sign blank => own blank sign
    rw [List.cons_append, beforeComment, if_neg noComment]
    exact congrArg (c :: ·) (inductionHypothesis following)

/-- Where the first character that is no blank is no number sign, the blanks before it make no
difference. -/
theorem CommentStartsAfter.of_blanks {blanks body kept comment : List Char}
    (starts : CommentStarts (blanks ++ body) kept comment)
    (allBlank : ∀ c ∈ blanks, isBlank c) (noSign : body.head? = some '#' → blanks = []) :
    ∃ rest, kept = blanks ++ rest ∧ CommentStarts body rest comment := by
  obtain ⟨whole, quiet, behind⟩ := starts
  obtain ⟨rest, rfl, rfl⟩ | ⟨more, rfl, rfl⟩ := List.append_eq_append_iff.mp whole
  · refine ⟨rest, rfl, rfl, quiet.right_of_append.right_of_append, fun present => ?_⟩
    obtain ⟨sign, blank⟩ := behind present
    refine ⟨sign, ?_⟩
    cases rest with
    | nil => simp [noSign sign] at blank
    | cons c rest => simpa [List.getLast?_append, List.getLast?_cons] using blank
  · -- The comment cannot start among the blanks, nor right behind them.
    have ended : more ++ body = [] := by
      by_contra present
      obtain ⟨sign, blank⟩ := behind present
      cases more with
      | nil =>
        obtain rfl : kept = [] := by simpa using noSign sign
        simp at blank
      | cons c more =>
        obtain rfl : c = '#' := by simpa using sign
        exact absurd (allBlank '#' (by simp)) (by decide)
    obtain ⟨rfl, rfl⟩ := List.append_eq_nil_iff.mp ended
    exact ⟨[], by simp, rfl, .nil, by simp⟩

theorem valueLength_unquoted {body : List Char}
    (unquoted : ∀ c ∈ body.head?, c ≠ '\"' ∧ c ≠ '\'') :
    valueLength body = (trimEnd (beforeComment false body)).length := by
  cases body with
  | nil => rfl
  | cons c rest =>
    obtain ⟨noDouble, noSingle⟩ := unquoted c rfl
    simp [valueLength, noDouble, noSingle]

/-- The string is what a trim leaves of the text before the comment. -/
theorem valueSegments_alike {value kept comment : List Char}
    (unquoted : ∀ c ∈ (trimStart value).head?, c ≠ '\"' ∧ c ≠ '\'')
    (starts : CommentStarts (trimStart value) kept comment) :
    Segment.Alike (valueSegments value)
      ([.plain (value.takeWhile isBlank), .labelled .string (trimEnd kept),
        .plain (trailingBlanks kept)] ++ [.labelled .comment comment]) := by
  have length : valueLength (trimStart value) = (trimEnd kept).length := by
    rw [valueLength_unquoted unquoted]
    exact congrArg (fun text => (trimEnd text).length) (beforeComment_eq starts)
  have split : trimStart value = trimEnd kept ++ (trailingBlanks kept ++ comment) := by
    rw [starts.whole, ← List.append_assoc, trimEnd_append_trailingBlanks]
  rw [valueSegments, length, split, List.take_left, List.drop_left]
  refine Segment.Alike.append_left [_, _] ?_
  cases comment with
  | nil =>
    rw [List.append_nil, tailSegments_blanks fun _ => isBlank_of_mem_trailingBlanks]
    exact (Segment.Alike.labelled_nil .comment).symm.append_left [_]
  | cons c note =>
    obtain rfl : c = '#' := by simpa using (starts.starts (by simp)).1
    rw [tailSegments_comment fun _ => isBlank_of_mem_trailingBlanks]
    exact .refl _

/-- The tokens of a line whose value is no quoted text: its head, the value between its outer
blanks, and the comment, of which each may be missing. -/
def unquotedTokens (front : Head) (lead core trail comment : List Char) : List Token :=
  Segment.tokens (front.segments ++
    ([.plain lead, .labelled .string core, .plain trail] ++ [.labelled .comment comment]))

theorem tokenize_unquoted {front : Head} (wellFormed : front.WellFormed) {value : List Char}
    (oneLine : '\n' ∉ value) (unquoted : ∀ c ∈ (trimStart value).head?, c ≠ '\"' ∧ c ≠ '\'')
    {kept comment lead core trail : List Char}
    (starts : CommentStarts (trimStart value) kept comment)
    (trims : Trims (value.takeWhile isBlank ++ kept) lead core trail) :
    tokenize .env (String.ofList (front.written ++ value)) =
      unquotedTokens front lead core trail comment := by
  have opens : ∀ c ∈ kept.head?, isBlank c = false := by
    intro c head
    refine stops_trimStart value c ?_
    rw [starts.whole, List.head?_append, Option.mem_def.mp head]
    rfl
  have leading : ∀ c ∈ value.takeWhile isBlank, isBlank c := fun _ => List.mem_takeWhile_imp
  have own := trims_append leading opens
  have alike := (valueSegments_alike unquoted starts).trans
    ((Segment.Alike.of_trims own trims (some .string)).append_right _)
  rw [tokenize_written wellFormed oneLine]
  exact (alike.append_left front.segments).tokens_eq

/-! ## Quoted values -/

/-- A text with a backslash before every backslash and every double quote. -/
def escaped (text : List Char) : List Char :=
  text.flatMap fun c => if c = '\\' ∨ c = '\"' then ['\\', c] else [c]

/-- A text in double quotes, escaped, or in single quotes, which it must not contain. -/
inductive IsQuoted : List Char → Prop
  | double {text : List Char} : '\n' ∉ text → IsQuoted ('\"' :: (escaped text ++ ['\"']))
  | single {text : List Char} : '\'' ∉ text → '\n' ∉ text → IsQuoted ('\'' :: (text ++ ['\'']))

theorem closedLength?_escaped (taken : Nat) (text rest : List Char) :
    closedLength? '\"' false taken (escaped text ++ '\"' :: rest) =
      some (taken + (escaped text).length + 1) := by
  induction text generalizing taken with
  | nil => simp [escaped, closedLength?]
  | cons c text inductionHypothesis =>
    rw [escaped, List.flatMap_cons, ← escaped]
    split_ifs with special
    · -- The backslash takes along what it escapes.
      simp [closedLength?, inductionHypothesis, Nat.add_assoc, Nat.add_comm 2]
    · obtain ⟨noBackslash, noQuote⟩ := not_or.mp special
      have plain : (c == '\\') = false := by simpa using noBackslash
      simp [closedLength?, plain, noQuote, inductionHypothesis, Nat.add_assoc, Nat.add_comm 1]

theorem closedLength?_single {text : List Char} (noQuote : '\'' ∉ text) (taken : Nat)
    (rest : List Char) :
    closedLength? '\'' false taken (text ++ '\'' :: rest) = some (taken + text.length + 1) := by
  induction text generalizing taken with
  | nil => simp [closedLength?]
  | cons c text inductionHypothesis =>
    rw [List.mem_cons, not_or] at noQuote
    have different : c ≠ '\'' := Ne.symm noQuote.1
    simp [closedLength?, different, inductionHypothesis noQuote.2, Nat.add_assoc, Nat.add_comm 1]

theorem not_mem_escaped {text : List Char} {c : Char} (absent : c ∉ text) (other : c ≠ '\\') :
    c ∉ escaped text := by
  intro member
  obtain ⟨d, inside, own⟩ := List.mem_flatMap.mp member
  have different : c ≠ d := fun same => absent (same ▸ inside)
  split_ifs at own <;> simp [different, other] at own

namespace IsQuoted

variable {quoted : List Char}

theorem ne_nil (isQuoted : IsQuoted quoted) : quoted ≠ [] := by
  cases isQuoted <;> simp

theorem opens (isQuoted : IsQuoted quoted) : ∀ c ∈ quoted.head?, isBlank c = false := by
  have quotes : ∀ quote ∈ ['\"', '\''], isBlank quote = false := forall_mem_of_all (by decide)
  cases isQuoted with
  | double _ => simpa using quotes '\"' (by simp)
  | single _ _ => simpa using quotes '\'' (by simp)

theorem oneLine (isQuoted : IsQuoted quoted) : '\n' ∉ quoted := by
  cases isQuoted with
  | double noFeed =>
    have inside := not_mem_escaped noFeed (by decide)
    simp [inside]
  | single _ noFeed => simp [noFeed]

theorem valueLength_eq (isQuoted : IsQuoted quoted) (rest : List Char) :
    valueLength (quoted ++ rest) = quoted.length := by
  cases isQuoted with
  | @double text _ =>
    have closed := closedLength?_escaped 1 text rest
    simp [valueLength, closed, Nat.add_comm 1]
  | @single text noQuote _ =>
    have closed := closedLength?_single noQuote 1 rest
    simp [valueLength, closed, Nat.add_comm 1]

theorem valueSegments_eq (isQuoted : IsQuoted quoted) (tail : List Char) :
    valueSegments (quoted ++ tail) =
      [.plain [], .labelled .string quoted] ++ tailSegments tail := by
  obtain ⟨c, rest, spelled⟩ := List.exists_cons_of_ne_nil isQuoted.ne_nil
  have present : isBlank c = false := isQuoted.opens c (by simp [spelled])
  have noBlanks : (quoted ++ tail).takeWhile isBlank = [] := by simp [spelled, present]
  have body : trimStart (quoted ++ tail) = quoted ++ tail := by
    simp [trimStart, spelled, present]
  rw [valueSegments, noBlanks, body, isQuoted.valueLength_eq, List.take_left, List.drop_left]

end IsQuoted

/-- The head of a line with nothing but a name before the equals sign. -/
def bare (name : List Char) : Head :=
  ⟨[], none, name, []⟩

theorem bare_wellFormed {name : List Char} (isName : IsName opensName continuesName name) :
    (bare name).WellFormed where
  indent := by simp [bare]
  exported := by simp [bare]
  name := isName
  gap := by simp [bare]

theorem tokenize_bare {name quoted tail : List Char}
    (isName : IsName opensName continuesName name) (isQuoted : IsQuoted quoted)
    (oneLine : '\n' ∉ tail) :
    tokenize .env (String.ofList (name ++ '=' :: (quoted ++ tail))) =
      [⟨.key, String.ofList name⟩, ⟨.punctuation, "="⟩, ⟨.string, String.ofList quoted⟩] ++
        Segment.tokens (tailSegments tail) := by
  have written : (bare name).written = name ++ ['='] := by
    simp [bare, Head.written, Head.segments, Head.exportSegments, Head.bindingSegments,
      Segment.plain, Segment.labelled]
  have noFeed : '\n' ∉ quoted ++ tail := by simp [isQuoted.oneLine, oneLine]
  have tokens := tokenize_written (bare_wellFormed isName) noFeed
  rw [written, List.append_assoc, List.singleton_append, isQuoted.valueSegments_eq] at tokens
  have present : name ≠ [] := by
    obtain ⟨c, rest, rfl, -⟩ := isName
    simp
  rw [tokens]
  simp [bare, Head.segments, Head.exportSegments, Head.bindingSegments, Segment.plain,
    Segment.labelled, Segment.tokens, Segment.tokensAfter, present, isQuoted.ne_nil]

end Grammar.Assignment

section Assignments

open Grammar.Assignment

/-- The comment of a value without quotes starts at the first number sign right behind a blank, and
the string is what a trim leaves of the text before it. The blanks before the value do not count:
where a number sign comes right behind them, it is part of the string. -/
theorem tokenize_unquoted_assignment {front : Head} (wellFormed : front.WellFormed)
    {value : List Char} (oneLine : '\n' ∉ value)
    (unquoted : ∀ c ∈ (trimStart value).head?, c ≠ '\"' ∧ c ≠ '\'') :
    (∀ text, ∃ kept comment, CommentStarts text kept comment) ∧
    (∀ kept comment, CommentStarts (trimStart value) kept comment →
      ∀ lead core trail, Trims (value.takeWhile isBlank ++ kept) lead core trail →
        tokenize .env (String.ofList (front.written ++ value)) =
          unquotedTokens front lead core trail comment) ∧
    (((trimStart value).head? = some '#' → trimStart value = value) →
      ∀ kept comment, CommentStarts value kept comment →
        ∀ lead core trail, Trims kept lead core trail →
          tokenize .env (String.ofList (front.written ++ value)) =
            unquotedTokens front lead core trail comment) := by
  refine ⟨exists_commentStartsAfter none, fun kept comment starts lead core trail trims => ?_,
    fun opens kept comment starts lead core trail trims => ?_⟩
  · exact tokenize_unquoted wellFormed oneLine unquoted starts trims
  · have split : value.takeWhile isBlank ++ trimStart value = value :=
      List.takeWhile_append_dropWhile
    rw [← split] at starts
    obtain ⟨rest, rfl, later⟩ := starts.of_blanks (fun _ => List.mem_takeWhile_imp) fun sign => by
      rwa [opens sign, List.append_left_eq_self] at split
    exact tokenize_unquoted wellFormed oneLine unquoted later trims

/-- Number signs inside a word stay in the string. -/
theorem tokens_of_exported_port :
    let front : Head := ⟨[], some [' '], "PORT".toList, []⟩
    let value := "8080#1  # default".toList
    front.WellFormed ∧ '\n' ∉ value ∧ CommentStarts value "8080#1  ".toList "# default".toList ∧
      Trims "8080#1  ".toList [] "8080#1".toList "  ".toList ∧
      tokenize .env "export PORT=8080#1  # default" =
        [⟨.keyword, "export"⟩, ⟨.text, " "⟩, ⟨.key, "PORT"⟩, ⟨.punctuation, "="⟩,
          ⟨.string, "8080#1"⟩, ⟨.text, "  "⟩, ⟨.comment, "# default"⟩] := by
  intro front value
  have wellFormed : front.WellFormed :=
    ⟨by simp [front], by simp [front]; decide, isName_of_all (by decide) (by decide),
      by simp [front]⟩
  have oneLine : '\n' ∉ value := by decide
  have starts : CommentStarts value "8080#1  ".toList "# default".toList :=
    ⟨by decide, by decide, fun _ => by decide⟩
  have trims : Trims "8080#1  ".toList [] "8080#1".toList "  ".toList := trims_trim _
  have first : (trimStart value).head? = some '8' := by decide
  have unquoted := tokenize_unquoted_assignment wellFormed oneLine (by simp [first])
  have line : front.written ++ value = "export PORT=8080#1  # default".toList := by decide
  have tokens := unquoted.2.2 (by decide) _ _ starts _ _ _ trims
  rw [line, String.ofList_toList] at tokens
  exact ⟨wellFormed, oneLine, starts, trims, tokens.trans (by decide)⟩

/-- A number sign right behind the blanks before a value starts no comment. -/
theorem sign_behind_first_blanks :
    CommentStarts " # note".toList [' '] "# note".toList ∧
      tokenize .env "KEY= # note" =
        [⟨.key, "KEY"⟩, ⟨.punctuation, "="⟩, ⟨.text, " "⟩, ⟨.string, "# note"⟩] :=
  ⟨⟨by decide, by decide, fun _ => by decide⟩, by decide +kernel⟩

/-- A quoted value is one string up to the quote that closes it, and a comment may follow behind
blanks. -/
theorem tokenize_quoted_assignment {name quoted : List Char}
    (isName : IsName opensName continuesName name) (isQuoted : IsQuoted quoted) :
    tokenize .env (String.ofList (name ++ '=' :: quoted)) =
        [⟨.key, String.ofList name⟩, ⟨.punctuation, "="⟩, ⟨.string, String.ofList quoted⟩] ∧
      ∀ blanks note, blanks ≠ [] → (∀ c ∈ blanks, isBlank c) → '\n' ∉ blanks → '\n' ∉ note →
        tokenize .env (String.ofList (name ++ '=' :: (quoted ++ (blanks ++ '#' :: note)))) =
          tokenize .env (String.ofList (name ++ '=' :: quoted)) ++
            [⟨.text, String.ofList blanks⟩, ⟨.comment, String.ofList ('#' :: note)⟩] := by
  have nothing : '\n' ∉ ([] : List Char) := by simp
  have alone := tokenize_bare isName isQuoted nothing
  rw [List.append_nil, tailSegments_blanks (by simp)] at alone
  refine ⟨alone, fun blanks note present allBlank blanksLine noteLine => ?_⟩
  have oneLine : '\n' ∉ blanks ++ '#' :: note := by simp [blanksLine, noteLine]
  have followed := tokenize_bare isName isQuoted oneLine
  rw [followed, alone, tailSegments_comment allBlank]
  simp [Segment.tokens, Segment.tokensAfter, Segment.plain, Segment.labelled, Cover.push_of_ne_nil,
    present]

theorem tokens_of_quoted_secret :
    IsName opensName continuesName "db.key".toList ∧ IsQuoted "\"a\\\" # b\"".toList ∧
      tokenize .env "db.key=\"a\\\" # b\"\t# c" =
        [⟨.key, "db.key"⟩, ⟨.punctuation, "="⟩, ⟨.string, "\"a\\\" # b\""⟩, ⟨.text, "\t"⟩,
          ⟨.comment, "# c"⟩] := by
  have isName : IsName opensName continuesName "db.key".toList :=
    isName_of_all (by decide) (by decide)
  have inside : '\n' ∉ "a\" # b".toList := by decide
  have isQuoted : IsQuoted "\"a\\\" # b\"".toList := .double inside
  obtain ⟨alone, followed⟩ := tokenize_quoted_assignment isName isQuoted
  have tokens := followed ['\t'] " c".toList (by simp) (forall_mem_of_all (by decide)) (by decide)
    (by decide)
  rw [alone] at tokens
  exact ⟨isName, isQuoted, tokens⟩

end Assignments

end Highlight
