import Highlight.Proofs.Segments

/-!
Calls on a cover. Spans and plain text may be asked for in any order and with any offsets. What a
call adds are segments that go on where the cover stands, so the tokens are always those of segments
of the line up to the cursor, and the labelled ones are the spans that fit when they were asked for.
-/

set_option autoImplicit false

namespace Highlight

namespace Text

/-- Does a character of the text start at the byte offset, or does the text end there? -/
def IsBoundary (text : List Char) (offset : Nat) : Prop :=
  ∃ before after, text = before ++ after ∧ byteSize before = offset

theorem isBoundary_iff {text : List Char} {offset : Nat} :
    (splitAtByte? offset text).isSome ↔ IsBoundary text offset := by
  constructor
  · intro found
    obtain ⟨⟨before, after⟩, split⟩ := Option.isSome_iff_exists.mp found
    exact ⟨before, after, splitAtByte?_eq_some_iff.mp split⟩
  · rintro ⟨before, after, rfl, rfl⟩
    rw [splitAtByte?_append, Option.isSome_some]

instance (text : List Char) (offset : Nat) : Decidable (IsBoundary text offset) :=
  decidable_of_iff _ isBoundary_iff

/-- What starts a text and does not take up more bytes starts what takes up the others. -/
theorem exists_append_of_byteSize_le {first firstRest second secondRest : List Char}
    (same : first ++ firstRest = second ++ secondRest)
    (shorter : byteSize first ≤ byteSize second) :
    ∃ gap, second = first ++ gap ∧ firstRest = gap ++ secondRest := by
  rcases List.append_eq_append_iff.mp same with ⟨gap, rfl, rest⟩ | ⟨gap, rfl, rest⟩
  · exact ⟨gap, rfl, rest⟩
  · rw [byteSize_append] at shorter
    obtain rfl : gap = [] := (byteSize_eq_zero_iff gap).mp (by omega)
    exact ⟨[], by simp, by simpa using rest.symm⟩

end Text

open Text

/-! ## Spans that fit -/

namespace Span

/-- A span that is labelled when a cover of the line stands at a cursor. It is cut off at the end of
the line. -/
structure Fits (line : List Char) (cursor : Nat) (span : Span) : Prop where
  ahead : cursor ≤ span.start
  nonempty : span.start < min span.stop (byteSize line)
  starts : IsBoundary line span.start
  stops : IsBoundary line (min span.stop (byteSize line))

theorem fits_iff {line : List Char} {cursor : Nat} {span : Span} :
    (cursor ≤ span.start ∧ span.start < min span.stop (byteSize line)) ∧
        IsBoundary line span.start ∧ IsBoundary line (min span.stop (byteSize line)) ↔
      span.Fits line cursor :=
  ⟨fun ⟨⟨ahead, nonempty⟩, starts, stops⟩ => ⟨ahead, nonempty, starts, stops⟩,
    fun fits => ⟨⟨fits.ahead, fits.nonempty⟩, fits.starts, fits.stops⟩⟩

instance (line : List Char) (cursor : Nat) (span : Span) : Decidable (span.Fits line cursor) :=
  decidable_of_iff _ fits_iff

def clipped (line : List Char) (span : Span) : Span :=
  { span with stop := min span.stop (byteSize line) }

end Span

namespace Cover

inductive Call where
  | label (span : Span)
  | plainTo (stop : Nat)
  deriving DecidableEq, Repr

namespace Call

def apply : Call → Cover → Cover
  | label span, cover => cover.label span
  | plainTo stop, cover => cover.plainTo stop

/-- The span that a call labels in a line, if it asks for one that fits. -/
def labelled (line : List Char) (cursor : Nat) : Call → List Span
  | label span => if span.Fits line cursor then [span.clipped line] else []
  | plainTo _ => []

end Call

def run (line : List Char) (calls : List Call) : Cover :=
  calls.foldl (fun cover call => call.apply cover) (start line)

/-- The spans that calls label in a line from a cover on, in the order of the calls. -/
def labelledFrom (line : List Char) : Cover → List Call → List Span
  | _, [] => []
  | cover, call :: calls =>
    call.labelled line cover.cursor ++ labelledFrom line (call.apply cover) calls

end Cover

/-- The token that a segment stands for. -/
def Segment.token (segment : Segment) : Token :=
  ⟨segment.kind?.getD .text, String.ofList segment.text⟩

theorem Segment.joinText_tokens (segments : List Segment) :
    joinText (segments.map token) = String.ofList (characters segments) := by
  rw [← String.toList_inj, toList_joinText, String.toList_ofList, Highlight.characters, characters,
    List.flatMap_map]
  simp [token]

/-! ## Segments of a cover -/

namespace Cover

/-- The tokens of a cover are those of segments that are not empty and go on to the cursor. -/
structure Drawn (line : List Char) (segments : List Segment) (cover : Cover) : Prop where
  tokens : cover.newestFirst.reverse = segments.map Segment.token
  whole : Segment.characters segments ++ cover.rest = line
  cursor_eq : cover.cursor = byteSize (Segment.characters segments)
  size_eq : cover.size = byteSize line
  nonempty : ∀ segment ∈ segments, segment.text ≠ []

variable {line : List Char} {segments : List Segment} {cover : Cover}

theorem start_drawn (line : List Char) : Drawn line [] (start line) where
  tokens := rfl
  whole := rfl
  cursor_eq := rfl
  size_eq := rfl
  nonempty := by simp

def present (segment : Segment) : List Segment :=
  if segment.text = [] then [] else [segment]

theorem characters_present (segment : Segment) :
    Segment.characters (present segment) = segment.text := by
  unfold present
  split
  · next empty => simp [empty]
  · simp

theorem spansFrom_present_plain (offset : Nat) (text : List Char) :
    Segment.spansFrom offset (present (.plain text)) = [] := by
  unfold present
  split <;> rfl

/-- Going on with a segment pushes its token. -/
theorem reverse_push_segment (segment : Segment) (newestFirst : List Token) :
    (push (segment.kind?.getD .text) segment.text newestFirst).reverse =
      newestFirst.reverse ++ (present segment).map Segment.token := by
  unfold present
  split
  · next empty => simp [empty]
  · next filled => simp [push_of_ne_nil filled, Segment.token]

namespace Drawn

theorem size_eq_add (drawn : Drawn line segments cover) :
    cover.size = cover.cursor + byteSize cover.rest := by
  rw [drawn.size_eq, ← drawn.whole, byteSize_append, drawn.cursor_eq]

theorem goOn (drawn : Drawn line segments cover) (segment : Segment) {rest : List Char}
    (split : cover.rest = segment.text ++ rest) :
    Drawn line (segments ++ present segment)
      { cover with
        cursor := cover.cursor + byteSize segment.text
        rest := rest
        newestFirst := push (segment.kind?.getD .text) segment.text cover.newestFirst } where
  tokens := by rw [reverse_push_segment, drawn.tokens, List.map_append]
  whole := by
    rw [Segment.characters_append, characters_present, List.append_assoc, ← split, drawn.whole]
  cursor_eq := by
    rw [Segment.characters_append, characters_present, byteSize_append, ← drawn.cursor_eq]
  size_eq := drawn.size_eq
  nonempty := by
    refine List.forall_mem_append.mpr ⟨drawn.nonempty, ?_⟩
    unfold present
    split
    · simp
    · next filled => simpa using filled

theorem exists_split_of_fits (drawn : Drawn line segments cover) {span : Span}
    (fits : span.Fits line cover.cursor) :
    ∃ gap text rest, cover.rest = gap ++ (text ++ rest) ∧
      span.start = cover.cursor + byteSize gap ∧
      min span.stop cover.size = span.start + byteSize text ∧ text ≠ [] := by
  obtain ⟨ahead, nonempty, ⟨before, after, atStart, startSize⟩, ⟨front, rest, atStop, stopSize⟩⟩ :=
    fits
  have aheadSize : byteSize (Segment.characters segments) ≤ byteSize before := by
    rw [startSize, ← drawn.cursor_eq]
    exact ahead
  obtain ⟨gap, rfl, rest_eq⟩ :=
    exists_append_of_byteSize_le (drawn.whole.trans atStart) aheadSize
  have frontSize : byteSize (Segment.characters segments ++ gap) ≤ byteSize front := by omega
  obtain ⟨text, rfl, after_eq⟩ :=
    exists_append_of_byteSize_le (atStart.symm.trans atStop) frontSize
  rw [byteSize_append] at startSize stopSize
  refine ⟨gap, text, rest, by rw [rest_eq, after_eq], ?_, ?_, ?_⟩
  · rw [drawn.cursor_eq, startSize]
  · rw [drawn.size_eq, ← stopSize, byteSize_append, startSize]
  · rintro rfl
    simp at stopSize
    omega

theorem fits_of_split (drawn : Drawn line segments cover) {span : Span} {gap text rest : List Char}
    (split : cover.rest = gap ++ (text ++ rest))
    (starts : span.start = cover.cursor + byteSize gap)
    (stops : min span.stop cover.size = span.start + byteSize text) (filled : text ≠ []) :
    span.Fits line cover.cursor := by
  have positive := (byteSize_eq_zero_iff text).not.mpr filled
  have whole := drawn.whole
  rw [split] at whole
  rw [drawn.size_eq] at stops
  refine ⟨by omega, by omega, ?_, ?_⟩
  · refine ⟨Segment.characters segments ++ gap, text ++ rest, by simp [← whole], ?_⟩
    rw [byteSize_append, ← drawn.cursor_eq, starts]
  · refine ⟨Segment.characters segments ++ (gap ++ text), rest, by simp [← whole], ?_⟩
    rw [byteSize_append, byteSize_append, ← drawn.cursor_eq, stops, starts, Nat.add_assoc]

theorem label_of_not_fits (drawn : Drawn line segments cover) {span : Span}
    (rejected : ¬span.Fits line cover.cursor) : cover.label span = cover := by
  rcases label_cases cover span with unchanged | ⟨gap, text, rest, split, starts, stops, filled⟩
  · exact unchanged
  · exact absurd (drawn.fits_of_split split starts stops filled) rejected

/-- A span that fits adds the plain text before it and its own text. -/
theorem label (drawn : Drawn line segments cover) (span : Span) :
    ∃ more, Drawn line (segments ++ more) (cover.label span) ∧
      Segment.spansFrom cover.cursor more =
        if span.Fits line cover.cursor then [span.clipped line] else [] := by
  by_cases fits : span.Fits line cover.cursor
  · obtain ⟨gap, text, rest, split, starts, stops, filled⟩ := drawn.exists_split_of_fits fits
    have own : present (.labelled span.kind text) = [.labelled span.kind text] := if_neg filled
    have drawnOn := (drawn.goOn (.plain gap) split).goOn (.labelled span.kind text) rfl
    refine ⟨present (.plain gap) ++ [.labelled span.kind text], ?_, ?_⟩
    · rw [label_of_split split starts stops filled, starts, ← List.append_assoc, ← own]
      exact drawnOn
    · rw [if_pos fits, Segment.spansFrom_append, spansFrom_present_plain, characters_present,
        List.nil_append, Span.clipped, ← drawn.size_eq, stops, starts]
      rfl
  · refine ⟨[], ?_, by rw [if_neg fits, Segment.spansFrom]⟩
    rw [drawn.label_of_not_fits fits, List.append_nil]
    exact drawn

theorem plainTo (drawn : Drawn line segments cover) (stop : Nat) :
    ∃ more, Drawn line (segments ++ more) (cover.plainTo stop) ∧
      Segment.spansFrom cover.cursor more = [] := by
  unfold Cover.plainTo
  dsimp only
  split
  · exact ⟨[], by rwa [List.append_nil], rfl⟩
  · next gap rest found =>
    obtain ⟨split, size⟩ := splitAtByte?_eq_some_iff.mp found
    have cursor : max (min stop cover.size) cover.cursor = cover.cursor + byteSize gap := by omega
    rw [cursor]
    exact ⟨present (.plain gap), drawn.goOn (.plain gap) split, spansFrom_present_plain _ _⟩

theorem apply (drawn : Drawn line segments cover) (call : Call) :
    ∃ more, Drawn line (segments ++ more) (call.apply cover) ∧
      Segment.spansFrom cover.cursor more = call.labelled line cover.cursor := by
  cases call with
  | label span => exact drawn.label span
  | plainTo stop => exact drawn.plainTo stop

theorem foldl (drawn : Drawn line segments cover) (calls : List Call) :
    ∃ more, Drawn line (segments ++ more) (calls.foldl (fun cover call => call.apply cover) cover) ∧
      Segment.spansFrom cover.cursor more = labelledFrom line cover calls := by
  induction calls generalizing segments cover with
  | nil => exact ⟨[], by rwa [List.append_nil], rfl⟩
  | cons call calls inductionHypothesis =>
    obtain ⟨more, drawnOn, own⟩ := drawn.apply call
    obtain ⟨others, drawnLast, later⟩ := inductionHypothesis drawnOn
    refine ⟨more ++ others, by rwa [← List.append_assoc], ?_⟩
    rw [Segment.spansFrom_append, own, labelledFrom, ← later, drawnOn.cursor_eq,
      Segment.characters_append, byteSize_append, ← drawn.cursor_eq]

theorem cursor_le_foldl (drawn : Drawn line segments cover) (calls : List Call) :
    cover.cursor ≤ (calls.foldl (fun cover call => call.apply cover) cover).cursor := by
  obtain ⟨more, drawnOn, -⟩ := drawn.foldl calls
  rw [drawnOn.cursor_eq, drawn.cursor_eq, Segment.characters_append, byteSize_append]
  exact Nat.le_add_right _ _

/-- At the end what is left becomes plain text. -/
theorem finish (drawn : Drawn line segments cover) :
    cover.finish = (segments ++ present (.plain cover.rest)).map Segment.token ∧
      Segment.characters (segments ++ present (.plain cover.rest)) = line ∧
      ∀ segment ∈ segments ++ present (.plain cover.rest), segment.text ≠ [] := by
  have last := drawn.goOn (.plain cover.rest) (List.append_nil cover.rest).symm
  have whole := last.whole
  rw [List.append_nil] at whole
  rw [finish_eq drawn.size_eq_add]
  exact ⟨last.tokens, whole, last.nonempty⟩

end Drawn

theorem run_drawn (line : List Char) (calls : List Call) :
    ∃ segments, Drawn line segments (run line calls) ∧
      Segment.spansFrom 0 segments = labelledFrom line (start line) calls := by
  obtain ⟨segments, drawn, spans⟩ := (start_drawn line).foldl calls
  exact ⟨segments, drawn, spans⟩

end Cover

/-- After any calls on a cover of a line, its cursor is on the boundary of a character, the tokens
so far make up the line before it, further calls never move it back, and a span that does not fit
changes nothing. The tokens in the end are those of segments that make up the line, none of them
empty, of which the labelled ones are the spans that fitted when they were asked for, in the order
of the calls, with their kinds and at their offsets; all others are plain text. -/
theorem calls_cover_line (line : List Char) (calls : List Cover.Call) :
    let cover := Cover.run line calls
    (∃ before after, line = before ++ after ∧ byteSize before = cover.cursor ∧
        joinText cover.newestFirst.reverse = String.ofList before) ∧
      (∀ later, cover.cursor ≤ (Cover.run line (calls ++ later)).cursor) ∧
      (∀ span : Span, ¬span.Fits line cover.cursor → cover.label span = cover) ∧
      (joinText cover.finish = String.ofList line ∧ ∀ token ∈ cover.finish, token.text ≠ "") ∧
      ∃ segments, cover.finish = segments.map Segment.token ∧
        Segment.characters segments = line ∧
        Segment.spansFrom 0 segments = Cover.labelledFrom line (Cover.start line) calls := by
  intro cover
  obtain ⟨segments, drawn, spans⟩ := Cover.run_drawn line calls
  obtain ⟨tokens, whole, filled⟩ := drawn.finish
  refine ⟨?_, fun later => ?_, fun span => drawn.label_of_not_fits,
    ⟨?_, fun token member => ?_⟩, ?_⟩
  · refine ⟨Segment.characters segments, cover.rest, drawn.whole.symm, drawn.cursor_eq.symm, ?_⟩
    rw [drawn.tokens, Segment.joinText_tokens]
  · rw [Cover.run, List.foldl_append]
    exact drawn.cursor_le_foldl later
  · rw [tokens, Segment.joinText_tokens, whole]
  · rw [tokens] at member
    obtain ⟨segment, listed, rfl⟩ := List.mem_map.mp member
    simpa [Segment.token, ← String.toList_inj] using filled segment listed
  · refine ⟨_, tokens, whole, ?_⟩
    rw [Segment.spansFrom_append, spans, Cover.spansFrom_present_plain, List.append_nil]

/-- A span may go on past the end, but it starts neither behind the cursor nor inside a
character. -/
example : (Cover.run "abécd".toList [.label ⟨.keyword, 1, 2⟩, .label ⟨.number, 0, 2⟩,
    .label ⟨.number, 3, 4⟩, .plainTo 3, .plainTo 4, .label ⟨.string, 5, 99⟩]).finish =
      [⟨.text, "a"⟩, ⟨.keyword, "b"⟩, ⟨.text, "é"⟩, ⟨.text, "c"⟩, ⟨.string, "d"⟩] := by
  decide +kernel

end Highlight
