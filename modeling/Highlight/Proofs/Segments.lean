import Highlight.Proofs.Cover
import Highlight.Token.Scan

/-!
Segments of a line. A scan cuts a line into segments, some of which it labels. Its spans are those
of the labelled segments, and the tokens of the line are the labelled segments with the stretches
between them.
-/

set_option autoImplicit false

namespace Highlight

open Text

namespace Place

theorem offset_forward (count : Nat) (place : Place) :
    (place.forward count).offset = place.offset + byteSize (place.rest.take count) := by
  induction count generalizing place with
  | zero => rfl
  | succ count inductionHypothesis =>
    match place with
    | ⟨_, _, []⟩ => rfl
    | ⟨_, offset, c :: rest⟩ =>
      simp [forward, inductionHypothesis, Nat.add_assoc]

/-- The character before a place behind some text is the last one of the text. -/
theorem getLast?_cons_or (c : Char) (text : List Char) (before : Option Char) :
    (c :: text).getLast?.or before = text.getLast?.or (some c) := by
  rw [List.getLast?_cons]
  cases text.getLast? <;> rfl

theorem forward_append (before : Option Char) (offset : Nat) (text rest : List Char) :
    forward text.length ⟨before, offset, text ++ rest⟩ =
      ⟨text.getLast?.or before, offset + byteSize text, rest⟩ := by
  induction text generalizing before offset with
  | nil => rfl
  | cons c text inductionHypothesis =>
    rw [List.length_cons, List.cons_append, forward, inductionHypothesis, getLast?_cons_or,
      byteSize_cons, Nat.add_assoc]

/-- Do two places differ at most in their offsets? -/
structure SameText (place other : Place) : Prop where
  before : place.before = other.before
  rest : place.rest = other.rest

theorem SameText.forward {place other : Place} (same : SameText place other) (count : Nat) :
    SameText (place.forward count) (other.forward count) := by
  induction count generalizing place other with
  | zero => exact same
  | succ count inductionHypothesis =>
    obtain ⟨before, offset, rest⟩ := place
    obtain ⟨_, otherOffset, _⟩ := other
    obtain ⟨rfl, rfl⟩ := same
    cases rest with
    | nil => exact ⟨rfl, rfl⟩
    | cons c rest => exact inductionHypothesis ⟨rfl, rfl⟩

end Place

/-- A stretch of a line, with a kind unless it is plain text. -/
structure Segment where
  kind? : Option TokenKind
  text : List Char
  deriving DecidableEq, Repr

namespace Segment

def plain (text : List Char) : Segment :=
  ⟨none, text⟩

def labelled (kind : TokenKind) (text : List Char) : Segment :=
  ⟨some kind, text⟩

def characters (segments : List Segment) : List Char :=
  segments.flatMap (·.text)

@[simp] theorem characters_nil : characters [] = [] := rfl

@[simp] theorem characters_cons (segment : Segment) (segments : List Segment) :
    characters (segment :: segments) = segment.text ++ characters segments := rfl

@[simp] theorem characters_append (first second : List Segment) :
    characters (first ++ second) = characters first ++ characters second := by
  simp [characters]

/-- The spans of the labelled ones among segments that start at an offset. -/
def spansFrom : Nat → List Segment → List Span
  | _, [] => []
  | offset, segment :: segments =>
    let stop := offset + byteSize segment.text
    match segment.kind? with
    | some kind => ⟨kind, offset, stop⟩ :: spansFrom stop segments
    | none => spansFrom stop segments

theorem spansFrom_append (offset : Nat) (first second : List Segment) :
    spansFrom offset (first ++ second) =
      spansFrom offset first ++ spansFrom (offset + byteSize (characters first)) second := by
  induction first generalizing offset with
  | nil => rfl
  | cons segment segments inductionHypothesis =>
    cases kind : segment.kind? <;>
      simp [spansFrom, kind, inductionHypothesis, Nat.add_assoc]

/-- The tokens of segments after a stretch of plain text. Neighboring plain segments become one
token, and empty segments none. -/
def tokensAfter : List Char → List Segment → List Token
  | gap, [] => Cover.push .text gap []
  | gap, ⟨none, text⟩ :: segments => tokensAfter (gap ++ text) segments
  | gap, ⟨some kind, text⟩ :: segments =>
    if text = [] then tokensAfter gap segments
    else Cover.push .text gap [] ++ ⟨kind, String.ofList text⟩ :: tokensAfter [] segments

def tokens (segments : List Segment) : List Token :=
  tokensAfter [] segments

/-- A labelled segment keeps the plain text before it from that behind it. -/
theorem tokensAfter_append_labelled (gap : List Char) (first second : List Segment)
    {kind : TokenKind} {text : List Char} (present : text ≠ []) :
    tokensAfter gap (first ++ labelled kind text :: second) =
      tokensAfter gap first ++ ⟨kind, String.ofList text⟩ :: tokens second := by
  induction first generalizing gap with
  | nil => simp [labelled, tokensAfter, present, tokens]
  | cons segment segments inductionHypothesis =>
    obtain ⟨kind?, own⟩ := segment
    cases kind? with
    | none => exact inductionHypothesis (gap ++ own)
    | some kind =>
      simp only [List.cons_append, tokensAfter]
      split
      · exact inductionHypothesis gap
      · rw [inductionHypothesis [], List.append_assoc, List.cons_append]

theorem tokens_append_labelled (first second : List Segment) {kind : TokenKind}
    {text : List Char} (present : text ≠ []) :
    tokens (first ++ labelled kind text :: second) =
      tokens first ++ ⟨kind, String.ofList text⟩ :: tokens second :=
  tokensAfter_append_labelled [] first second present

end Segment

namespace Cover

theorem reverse_push (kind : TokenKind) (text : List Char) (newestFirst : List Token) :
    (push kind text newestFirst).reverse = newestFirst.reverse ++ push kind text [] := by
  by_cases present : text = []
  · simp [present]
  · simp [push_of_ne_nil present]

theorem label_of_empty {cover : Cover} {span : Span} (empty : span.stop ≤ span.start) :
    cover.label span = cover := by
  have rejected : span.start < cover.cursor ∨ min span.stop cover.size ≤ span.start := by omega
  exact if_pos rejected

/-- Labelling the spans of segments that lie beyond a stretch of plain text. -/
theorem finish_spansFrom (segments : List Segment) (cover : Cover) (gap : List Char)
    (rest : cover.rest = gap ++ Segment.characters segments)
    (size : cover.size = cover.cursor + byteSize cover.rest) :
    ((Segment.spansFrom (cover.cursor + byteSize gap) segments).foldl label cover).finish =
      cover.newestFirst.reverse ++ Segment.tokensAfter gap segments := by
  -- The gap collects the plain segments since the last label; only a label moves the cover on.
  induction segments generalizing cover gap with
  | nil =>
    rw [Segment.characters_nil, List.append_nil] at rest
    simp only [Segment.spansFrom, List.foldl_nil, Segment.tokensAfter]
    rw [finish_eq size, rest, reverse_push]
  | cons segment segments inductionHypothesis =>
    obtain ⟨kind?, text⟩ := segment
    rw [Segment.characters_cons] at rest
    cases kind? with
    | none =>
      have following := inductionHypothesis cover (gap ++ text) (by simpa using rest) size
      rw [byteSize_append, ← Nat.add_assoc] at following
      exact following
    | some kind =>
      by_cases empty : text = []
      · subst empty
        have unchanged : cover.label
            ⟨kind, cover.cursor + byteSize gap, cover.cursor + byteSize gap⟩ = cover :=
          label_of_empty (Nat.le_refl _)
        have following := inductionHypothesis cover gap (by simpa using rest) size
        simpa [Segment.spansFrom, Segment.tokensAfter, unchanged] using following
      · let span : Span :=
          ⟨kind, cover.cursor + byteSize gap, cover.cursor + byteSize gap + byteSize text⟩
        let next : Cover :=
          ⟨cover.size, span.stop, Segment.characters segments,
            push kind text (push .text gap cover.newestFirst)⟩
        have fits : min span.stop cover.size = span.start + byteSize text := by
          rw [size, rest]
          simp [span]
          omega
        have accepted : cover.label span = next := label_of_split rest rfl fits empty
        have following := inductionHypothesis next [] rfl
          (by simp [next, span, size, rest, Nat.add_assoc])
        rw [byteSize_nil, Nat.add_zero] at following
        have kept : next.newestFirst.reverse = cover.newestFirst.reverse ++
            (push .text gap [] ++ [⟨kind, String.ofList text⟩]) := by
          simp [next, push_of_ne_nil empty, reverse_push]
        simp only [Segment.spansFrom, List.foldl_cons, Segment.tokensAfter, empty, ↓reduceIte]
        rw [accepted, following, kept]
        simp

end Cover

theorem coverLine_spansFrom (segments : List Segment) :
    coverLine (Segment.characters segments) (Segment.spansFrom 0 segments) =
      Segment.tokens segments := by
  have covered := Cover.finish_spansFrom segments (Cover.start (Segment.characters segments)) []
    rfl (by simp [Cover.start])
  simpa [coverLine, Segment.tokens, Cover.start] using covered

/-! ## Scans -/

/-- The segments that pieces make of a text. -/
def Piece.segments : List Char → List Piece → List Segment
  | _, [] => []
  | text, piece :: pieces =>
    ⟨piece.kind?, text.take piece.length⟩ :: segments (text.drop piece.length) pieces

theorem Piece.characters_segments (text : List Char) (pieces : List Piece) :
    Segment.characters (Piece.segments text pieces) = text.take (Piece.total pieces) := by
  induction pieces generalizing text with
  | nil => rfl
  | cons piece pieces inductionHypothesis =>
    have total : Piece.total (piece :: pieces) = piece.length + Piece.total pieces := rfl
    rw [Piece.segments, Segment.characters_cons, inductionHypothesis, total, List.take_add]

theorem Piece.spansFrom_eq (place : Place) (pieces : List Piece) :
    Piece.spansFrom place pieces =
      Segment.spansFrom place.offset (Piece.segments place.rest pieces) := by
  induction pieces generalizing place with
  | nil => rfl
  | cons piece pieces inductionHypothesis =>
    have following := inductionHypothesis (place.forward piece.length)
    rw [Place.rest_forward, Place.offset_forward] at following
    cases kind : piece.kind? <;>
      simp [Piece.spansFrom, Piece.segments, Segment.spansFrom, kind, following,
        Place.offset_forward]

section Scan

variable {State : Type} (step : State → Place → Option (List Piece × State))

/-- The segments into which a scan cuts the text from a place on. A step that reads no characters
lets one pass as plain text. -/
def segmentsFrom (state : State) (place : Place) : List Segment :=
  match _hasRest : place.rest with
  | [] => []
  | c :: _ =>
    match step state place with
    | none => .plain [c] :: segmentsFrom state (place.forward 1)
    | some (pieces, next) =>
      Piece.segments place.rest pieces ++
        ((if Piece.total pieces = 0 then [.plain [c]] else []) ++
          segmentsFrom next (place.forward (max 1 (Piece.total pieces))))
termination_by place.rest.length
decreasing_by
  all_goals
    rw [Place.rest_forward, _hasRest, List.length_drop]
    simp only [List.length_cons]
    omega

variable {step} {state : State} {place : Place}

theorem scanFrom_of_end (ended : place.rest = []) : scanFrom step state place = [] := by
  rw [scanFrom]
  split
  · rfl
  · next present => simp [ended] at present

theorem scanFrom_of_none {c : Char} {rest : List Char} (present : place.rest = c :: rest)
    (nothing : step state place = none) :
    scanFrom step state place = scanFrom step state (place.forward 1) := by
  rw [scanFrom]
  split
  · next ended => simp [ended] at present
  · rw [nothing]

theorem scanFrom_of_some {c : Char} {rest : List Char} (present : place.rest = c :: rest)
    {pieces : List Piece} {next : State} (read : step state place = some (pieces, next)) :
    scanFrom step state place =
      Piece.spansFrom place pieces ++
        scanFrom step next (place.forward (max 1 (Piece.total pieces))) := by
  rw [scanFrom]
  split
  · next ended => simp [ended] at present
  · rw [read]

theorem segmentsFrom_of_end (ended : place.rest = []) : segmentsFrom step state place = [] := by
  rw [segmentsFrom]
  split
  · rfl
  · next present => simp [ended] at present

theorem segmentsFrom_of_none {c : Char} {rest : List Char} (present : place.rest = c :: rest)
    (nothing : step state place = none) :
    segmentsFrom step state place =
      .plain [c] :: segmentsFrom step state (place.forward 1) := by
  rw [segmentsFrom]
  split
  · next ended => simp [ended] at present
  · next same =>
    obtain ⟨rfl, -⟩ := List.cons.inj (present.symm.trans same)
    rw [nothing]

/-- A step that reads something labels its pieces and goes on right after them. -/
theorem segmentsFrom_of_some {pieces : List Piece} {next : State}
    (read : step state place = some (pieces, next)) (advances : 0 < Piece.total pieces)
    (present : place.rest ≠ []) :
    segmentsFrom step state place =
      Piece.segments place.rest pieces ++
        segmentsFrom step next (place.forward (Piece.total pieces)) := by
  rw [segmentsFrom]
  split
  · contradiction
  · rw [read]
    simp only [Nat.ne_of_gt advances, ↓reduceIte, List.nil_append, Nat.max_eq_right advances]

theorem segmentsFrom_of_still {c : Char} {rest : List Char} (present : place.rest = c :: rest)
    {pieces : List Piece} {next : State} (read : step state place = some (pieces, next))
    (still : Piece.total pieces = 0) :
    segmentsFrom step state place =
      Piece.segments place.rest pieces ++
        .plain [c] :: segmentsFrom step next (place.forward 1) := by
  rw [segmentsFrom]
  split
  · next ended => simp [ended] at present
  · next same =>
    obtain ⟨rfl, -⟩ := List.cons.inj (present.symm.trans same)
    rw [read]
    simp [still]

variable (step) (state) (place)

theorem scanFrom_eq_spansFrom :
    scanFrom step state place =
      Segment.spansFrom place.offset (segmentsFrom step state place) := by
  fun_induction segmentsFrom step state place with
  | case1 state place ended => rw [scanFrom_of_end ended, Segment.spansFrom]
  | case2 state place c rest present nothing inductionHypothesis =>
    rw [scanFrom_of_none present nothing, inductionHypothesis, Place.offset_forward, present]
    simp [Segment.spansFrom, Segment.plain]
  | case3 state place c rest present pieces next read inductionHypothesis =>
    rw [scanFrom_of_some present read, inductionHypothesis, Place.offset_forward,
      Piece.spansFrom_eq, Segment.spansFrom_append, Piece.characters_segments]
    by_cases still : Piece.total pieces = 0
    · simp [still, present, Segment.spansFrom, Segment.plain]
    · simp [still, Nat.max_eq_right (Nat.pos_of_ne_zero still)]

theorem characters_segmentsFrom :
    Segment.characters (segmentsFrom step state place) = place.rest := by
  fun_induction segmentsFrom step state place with
  | case1 state place ended => simp [ended]
  | case2 state place c rest present nothing inductionHypothesis =>
    simp [Segment.plain, inductionHypothesis, Place.rest_forward, present]
  | case3 state place c rest present pieces next read inductionHypothesis =>
    rw [Segment.characters_append, Segment.characters_append, inductionHypothesis,
      Piece.characters_segments, Place.rest_forward]
    by_cases still : Piece.total pieces = 0
    · simp [still, present, Segment.plain]
    · simp [still, Nat.max_eq_right (Nat.pos_of_ne_zero still)]

variable {step} in
/-- A scan whose steps look at no offset cuts the same segments wherever the text starts. -/
theorem segmentsFrom_of_same {other : Place}
    (ignored : ∀ state place other, Place.SameText place other →
      step state place = step state other)
    (same : Place.SameText place other) :
    segmentsFrom step state place = segmentsFrom step state other := by
  fun_induction segmentsFrom step state place generalizing other with
  | case1 state place ended => rw [segmentsFrom_of_end (same.rest ▸ ended)]
  | case2 state place c rest present nothing inductionHypothesis =>
    rw [ignored state place other same] at nothing
    rw [segmentsFrom_of_none (same.rest ▸ present) nothing, inductionHypothesis (same.forward 1)]
  | case3 state place c rest present pieces next read inductionHypothesis =>
    rw [ignored state place other same] at read
    have later := inductionHypothesis (same.forward (max 1 (Piece.total pieces)))
    have present : other.rest = c :: rest := same.rest ▸ present
    by_cases still : Piece.total pieces = 0
    · rw [segmentsFrom_of_still present read still, later, same.rest]
      simp [still]
    · have advances : 0 < Piece.total pieces := Nat.pos_of_ne_zero still
      rw [segmentsFrom_of_some read advances (by simp [present]), later, same.rest]
      simp [still, Nat.max_eq_right advances]

/-- The tokens of a line that is scanned are those of its segments. -/
theorem coverLine_scanFrom (line : List Char) :
    coverLine line (scanFrom step state (.start line)) =
      Segment.tokens (segmentsFrom step state (.start line)) := by
  have covered := coverLine_spansFrom (segmentsFrom step state (.start line))
  rw [characters_segmentsFrom] at covered
  rw [scanFrom_eq_spansFrom]
  exact covered

end Scan

/-! ## Kinds and labels -/

/-- Pieces that are labelled with allowed kinds only. -/
def Piece.Within (allowed : TokenKind → Prop) (pieces : List Piece) : Prop :=
  ∀ piece ∈ pieces, ∀ kind ∈ piece.kind?, allowed kind

def Segment.Within (allowed : TokenKind → Prop) (segments : List Segment) : Prop :=
  ∀ segment ∈ segments, ∀ kind ∈ segment.kind?, allowed kind

section Kinds

variable {allowed : TokenKind → Prop}

theorem Segment.within_append {first second : List Segment} :
    Within allowed (first ++ second) ↔ Within allowed first ∧ Within allowed second :=
  List.forall_mem_append

theorem Piece.segments_within {pieces : List Piece} (within : Piece.Within allowed pieces)
    (text : List Char) : Segment.Within allowed (Piece.segments text pieces) := by
  induction pieces generalizing text with
  | nil => simp [Piece.segments, Segment.Within]
  | cons piece pieces inductionHypothesis =>
    obtain ⟨own, others⟩ := List.forall_mem_cons.mp within
    exact List.forall_mem_cons.mpr ⟨own, inductionHypothesis others _⟩

theorem segmentsFrom_within {State : Type} {step : State → Place → Option (List Piece × State)}
    (steps : ∀ state place pieces next,
      step state place = some (pieces, next) → Piece.Within allowed pieces)
    (state : State) (place : Place) : Segment.Within allowed (segmentsFrom step state place) := by
  fun_induction segmentsFrom step state place with
  | case1 => simp [Segment.Within]
  | case2 state place c rest present nothing inductionHypothesis =>
    exact List.forall_mem_cons.mpr ⟨by simp [Segment.plain], inductionHypothesis⟩
  | case3 state place c rest present pieces next read inductionHypothesis =>
    rw [Segment.within_append, Segment.within_append]
    refine ⟨Piece.segments_within (steps _ _ _ _ read) _, ?_, inductionHypothesis⟩
    split <;> simp [Segment.Within, Segment.plain]

theorem Segment.spansFrom_within {segments : List Segment} (within : Within allowed segments)
    (offset : Nat) : ∀ span ∈ spansFrom offset segments, allowed span.kind := by
  induction segments generalizing offset with
  | nil => simp [spansFrom]
  | cons segment segments inductionHypothesis =>
    obtain ⟨own, others⟩ := List.forall_mem_cons.mp within
    cases kind? : segment.kind? with
    | none => simpa [spansFrom, kind?] using inductionHypothesis others _
    | some kind =>
      simpa [spansFrom, kind?] using ⟨own kind kind?, inductionHypothesis others _⟩

end Kinds

namespace Segment

def labels (segments : List Segment) : List Token :=
  segments.filterMap fun segment =>
    if segment.text = [] then none
    else segment.kind?.map fun kind => ⟨kind, String.ofList segment.text⟩

/-- Is every plain character of a class? -/
def PlainIn (isMember : Char → Prop) (segments : List Segment) : Prop :=
  ∀ segment ∈ segments, segment.kind? = none → ∀ c ∈ segment.text, isMember c

theorem labels_append (first second : List Segment) :
    labels (first ++ second) = labels first ++ labels second := by
  simp [labels]

theorem plainIn_append {isMember : Char → Prop} {first second : List Segment} :
    PlainIn isMember (first ++ second) ↔ PlainIn isMember first ∧ PlainIn isMember second :=
  List.forall_mem_append

theorem filter_push_text (gap : List Char) :
    (Cover.push .text gap []).filter (·.kind ≠ .text) = [] := by
  by_cases present : gap = []
  · simp [present]
  · simp [Cover.push_of_ne_nil present]

/-- The tokens that are no plain text are those of the labelled segments. -/
theorem filter_tokensAfter {segments : List Segment} (within : Within (· ≠ .text) segments)
    (gap : List Char) : (tokensAfter gap segments).filter (·.kind ≠ .text) = labels segments := by
  induction segments generalizing gap with
  | nil => exact filter_push_text gap
  | cons segment segments inductionHypothesis =>
    obtain ⟨own, others⟩ := List.forall_mem_cons.mp within
    obtain ⟨kind?, text⟩ := segment
    cases kind? with
    | none => simpa [tokensAfter, labels] using inductionHypothesis others (gap ++ text)
    | some kind =>
      by_cases empty : text = []
      · simpa [tokensAfter, labels, empty] using inductionHypothesis others gap
      · have isLabel : kind ≠ .text := own kind rfl
        rw [tokensAfter, if_neg empty, List.filter_append, filter_push_text,
          List.filter_cons_of_pos (by simpa using isLabel), inductionHypothesis others]
        simp [labels, empty]

/-- Plain tokens consist of plain characters. -/
theorem plain_of_mem_tokensAfter {isMember : Char → Prop} {segments : List Segment}
    (within : Within (· ≠ .text) segments) (plain : PlainIn isMember segments) {gap : List Char}
    (gapPlain : ∀ c ∈ gap, isMember c) :
    ∀ token ∈ tokensAfter gap segments, token.kind = .text →
      ∀ c ∈ token.text.toList, isMember c := by
  have pushed : ∀ gap : List Char, (∀ c ∈ gap, isMember c) →
      ∀ token ∈ Cover.push .text gap [], ∀ c ∈ token.text.toList, isMember c := by
    intro gap gapPlain token member
    by_cases present : gap = []
    · simp [present] at member
    · rw [Cover.push_of_ne_nil present, List.mem_singleton] at member
      simpa [member] using gapPlain
  induction segments generalizing gap with
  | nil => exact fun token member _ => pushed gap gapPlain token member
  | cons segment segments inductionHypothesis =>
    obtain ⟨own, others⟩ := List.forall_mem_cons.mp within
    obtain ⟨ownPlain, othersPlain⟩ := List.forall_mem_cons.mp plain
    obtain ⟨kind?, text⟩ := segment
    cases kind? with
    | none =>
      refine inductionHypothesis others othersPlain ?_
      exact List.forall_mem_append.mpr ⟨gapPlain, ownPlain rfl⟩
    | some kind =>
      rw [tokensAfter]
      split
      · exact inductionHypothesis others othersPlain gapPlain
      · intro token member isText
        rw [List.mem_append, List.mem_cons] at member
        rcases member with inGap | rfl | later
        · exact pushed gap gapPlain token inGap
        · exact absurd isText (own kind rfl)
        · exact inductionHypothesis others othersPlain (by simp) token later isText

end Segment

end Highlight
