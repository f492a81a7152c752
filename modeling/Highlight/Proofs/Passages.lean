import Highlight.Proofs.Lexemes
import Highlight.Proofs.Trims

/-!
Passages of a line. A scan passes a text when it cuts the text into segments and goes on behind it.
Passages follow one another, and what they come to at the end of a line are the tokens of the line.
-/

set_option autoImplicit false

namespace Highlight

open Text

theorem Piece.total_append (first second : List Piece) :
    Piece.total (first ++ second) = Piece.total first + Piece.total second := by
  induction first with
  | nil => simp [Piece.total]
  | cons piece pieces inductionHypothesis =>
    simp only [Piece.total, List.cons_append, List.foldr_cons] at inductionHypothesis ⊢
    omega

/-! ## Segments that make up the same tokens -/

namespace Segment

/-- Segments that make up the same tokens as some others, whatever comes before and after them. -/
def Alike (first second : List Segment) : Prop :=
  ∀ gap rest, tokensAfter gap (first ++ rest) = tokensAfter gap (second ++ rest)

namespace Alike

variable {first second third : List Segment}

theorem refl (segments : List Segment) : Alike segments segments :=
  fun _ _ => rfl

theorem symm (alike : Alike first second) : Alike second first :=
  fun gap rest => (alike gap rest).symm

theorem trans (before : Alike first second) (after : Alike second third) : Alike first third :=
  fun gap rest => (before gap rest).trans (after gap rest)

theorem append_left (segments : List Segment) (alike : Alike first second) :
    Alike (segments ++ first) (segments ++ second) := by
  induction segments with
  | nil => exact alike
  | cons segment segments inductionHypothesis =>
    obtain ⟨kind?, text⟩ := segment
    intro gap rest
    cases kind? with
    | none => exact inductionHypothesis (gap ++ text) rest
    | some kind =>
      simp only [List.cons_append, tokensAfter, inductionHypothesis gap rest,
        inductionHypothesis [] rest]

theorem append_right (alike : Alike first second) (segments : List Segment) :
    Alike (first ++ segments) (second ++ segments) := by
  intro gap rest
  simpa using alike gap (segments ++ rest)

/-- Plain text may be cut in two. -/
theorem plain_append (text other : List Char) :
    Alike [.plain (text ++ other)] [.plain text, .plain other] := by
  intro gap rest
  simp [Segment.plain, tokensAfter]

theorem plain_nil : Alike [.plain []] [] := by
  intro gap rest
  simp [Segment.plain, tokensAfter]

theorem labelled_nil (kind : TokenKind) : Alike [.labelled kind []] [] := by
  intro gap rest
  simp [Segment.labelled, tokensAfter]

/-- Where the blanks around an empty core are cut in two makes no difference. -/
theorem of_trims {text lead core trail otherLead otherCore otherTrail : List Char}
    (one : Trims text lead core trail) (other : Trims text otherLead otherCore otherTrail)
    (kind? : Option TokenKind) :
    Alike [.plain lead, ⟨kind?, core⟩, .plain trail]
      [.plain otherLead, ⟨kind?, otherCore⟩, .plain otherTrail] := by
  obtain rfl : core = otherCore := one.trim_eq.symm.trans other.trim_eq
  by_cases present : core = []
  · subst present
    have same : lead ++ trail = otherLead ++ otherTrail := one.whole.symm.trans other.whole
    intro gap rest
    cases kind? <;> simp [Segment.plain, tokensAfter, same]
  · obtain ⟨leads, starts⟩ := one.parts_eq present
    obtain ⟨otherLeads, otherStarts⟩ := other.parts_eq present
    obtain rfl : lead = otherLead := leads.symm.trans otherLeads
    obtain rfl : trail = otherTrail := List.append_cancel_left (starts.symm.trans otherStarts)
    exact refl _

theorem tokens_eq (alike : Alike first second) : tokens first = tokens second := by
  simpa [tokens] using alike [] []

end Alike

/-- The piece that a segment is of a text. -/
def piece (segment : Segment) : Piece :=
  ⟨segment.kind?, segment.text.length⟩

theorem total_map_piece (segments : List Segment) :
    Piece.total (segments.map piece) = (characters segments).length := by
  induction segments with
  | nil => rfl
  | cons segment segments inductionHypothesis =>
    rw [List.map_cons, characters_cons, List.length_append, ← inductionHypothesis]
    rfl

theorem segments_map_piece (segments : List Segment) (rest : List Char) :
    Piece.segments (characters segments ++ rest) (segments.map piece) = segments := by
  induction segments with
  | nil => rfl
  | cons segment segments inductionHypothesis =>
    simp [Piece.segments, piece, inductionHypothesis]

end Segment

/-! ## Passages -/

section Passages

variable {State : Type} (step : State → Place → Option (List Piece × State))

/-- A scan that starts in a state, with some character before it and some text behind it, cuts a
text into segments and goes on behind it in the next state. -/
def Passes (state next : State) (before : Option Char) (text rest : List Char)
    (segments : List Segment) : Prop :=
  ∀ offset, Segment.Alike (segmentsFrom step state ⟨before, offset, text ++ rest⟩)
    (segments ++ segmentsFrom step next
      ⟨text.getLast?.or before, offset + byteSize text, rest⟩)

variable {step} {state middle next : State} {before : Option Char}
  {text other rest : List Char} {segments others : List Segment}

namespace Passes

theorem nil (state : State) (before : Option Char) (rest : List Char) :
    Passes step state state before [] rest [] :=
  fun _ => .refl _

theorem append (first : Passes step state middle before text (other ++ rest) segments)
    (second : Passes step middle next (text.getLast?.or before) other rest others) :
    Passes step state next before (text ++ other) rest (segments ++ others) := by
  intro offset
  have following := (second (offset + byteSize text)).append_left segments
  have last : other.getLast?.or (text.getLast?.or before) =
      (text ++ other).getLast?.or before := by
    rw [List.getLast?_append, Option.or_assoc]
  rw [last, Nat.add_assoc, ← byteSize_append, ← List.append_assoc] at following
  rw [List.append_assoc]
  exact (first offset).trans following

theorem alike (passes : Passes step state next before text rest segments)
    (same : Segment.Alike segments others) : Passes step state next before text rest others :=
  fun offset => (passes offset).trans (same.append_right _)

theorem of_read (spelled : Segment.characters segments = text) (present : text ≠ [])
    (read : ∀ offset, step state ⟨before, offset, text ++ rest⟩ =
      some (segments.map Segment.piece, next)) :
    Passes step state next before text rest segments := by
  subst spelled
  intro offset
  have advances : 0 < Piece.total (segments.map Segment.piece) := by
    rw [Segment.total_map_piece]
    exact List.length_pos_iff.mpr present
  rw [segmentsFrom_of_some (read offset) advances (by simp [present]), Segment.segments_map_piece,
    Segment.total_map_piece, Place.forward_append]
  exact .refl _

theorem of_none {c : Char} (nothing : ∀ offset, step state ⟨before, offset, c :: rest⟩ = none) :
    Passes step state state before [c] rest [.plain [c]] := by
  intro offset
  have moved := Place.forward_append before offset [c] rest
  rw [List.length_singleton, List.singleton_append] at moved
  rw [List.singleton_append, segmentsFrom_of_none rfl (nothing offset), moved]
  exact .refl _

/-- Where a step keeps the state and labels nothing, some text passes as plain text. -/
theorem exists_idle (present : text ≠ []) {offset : Nat}
    (idle : ∀ pieces next, step state ⟨before, offset, text ++ rest⟩ = some (pieces, next) →
      next = state ∧ ∃ count ≤ text.length, pieces = [.plain count]) :
    ∃ taken left, taken ≠ [] ∧ text = taken ++ left ∧
      Segment.Alike (segmentsFrom step state ⟨before, offset, text ++ rest⟩)
        (.plain taken :: segmentsFrom step state
          ⟨taken.getLast?.or before, offset + byteSize taken, left ++ rest⟩) := by
  have moved : ∀ taken left, Place.forward taken.length ⟨before, offset, taken ++ left ++ rest⟩ =
      ⟨taken.getLast?.or before, offset + byteSize taken, left ++ rest⟩ := by
    intro taken left
    rw [List.append_assoc, Place.forward_append]
  obtain ⟨c, others, rfl⟩ := List.exists_cons_of_ne_nil present
  have single := moved [c] others
  rw [List.length_singleton, List.singleton_append] at single
  -- One character passes where the step reads nothing; else what it reads does.
  cases read : step state ⟨before, offset, c :: others ++ rest⟩ with
  | none =>
    refine ⟨[c], others, by simp, rfl, ?_⟩
    rw [segmentsFrom_of_none rfl read, single]
    exact .refl _
  | some result =>
    obtain ⟨pieces, next⟩ := result
    obtain ⟨rfl, count, bound, rfl⟩ := idle pieces next read
    cases count with
    | zero =>
      refine ⟨[c], others, by simp, rfl, ?_⟩
      rw [segmentsFrom_of_still rfl read rfl, single]
      exact Segment.Alike.plain_nil.append_right _
    | succ count =>
      let taken := c :: others.take count
      have split : c :: others = taken ++ others.drop count := by simp [taken]
      have length : count + 1 = taken.length := by
        rw [List.length_cons] at bound
        simp [taken]
        omega
      have cut : Piece.segments (taken ++ others.drop count ++ rest) [.plain taken.length] =
          [.plain taken] := by
        simp [Piece.segments, Piece.plain, Segment.plain]
      have total : Piece.total [.plain taken.length] = taken.length := by
        simp [Piece.total, Piece.plain]
      refine ⟨taken, others.drop count, by simp [taken], split, ?_⟩
      rw [split, length] at read
      rw [split, segmentsFrom_of_some read (by omega) (by simp [taken]), total, moved, cut]
      exact .refl _

/-- Text is plain where a step keeps the state and labels nothing, and stays within the text. -/
theorem of_idle (idle : ∀ left, left <:+ text → left ≠ [] → ∀ before offset pieces next,
      step state ⟨before, offset, left ++ rest⟩ = some (pieces, next) →
        next = state ∧ ∃ count ≤ left.length, pieces = [.plain count])
    (before : Option Char) : Passes step state state before text rest [.plain text] := by
  -- A step may take up many characters at once, hence the induction on the length.
  induction size : text.length using Nat.strong_induction_on generalizing text before with
  | h count inductionHypothesis =>
    by_cases present : text = []
    · subst present
      exact (nil state before rest).alike Segment.Alike.plain_nil.symm
    intro offset
    obtain ⟨taken, left, advances, rfl, first⟩ :=
      exists_idle present (idle text (List.suffix_refl _) present before offset)
    have shorter : left.length < count := by
      have positive := List.length_pos_iff.mpr advances
      rw [List.length_append] at size
      omega
    have later := inductionHypothesis left.length shorter
      (fun suffix within => idle suffix (within.trans (List.suffix_append taken left)))
      (taken.getLast?.or before) rfl (offset + byteSize taken)
    rw [List.getLast?_append, Option.or_assoc, byteSize_append, ← Nat.add_assoc]
    exact (first.trans (later.append_left [.plain taken])).trans
      ((Segment.Alike.plain_append taken left).symm.append_right _)

/-- Characters at which nothing is read, whatever comes before and after them, are plain. -/
theorem of_nones (nothing : ∀ c ∈ text, ∀ before offset rest,
    step state ⟨before, offset, c :: rest⟩ = none) (before : Option Char) (rest : List Char) :
    Passes step state state before text rest [.plain text] := by
  refine of_idle (fun left within present before offset pieces next read => ?_) before
  obtain ⟨c, others, rfl⟩ := List.exists_cons_of_ne_nil present
  rw [List.cons_append, nothing c (within.subset (by simp))] at read
  contradiction

theorem tokens_eq (passes : Passes step state next none text [] segments) :
    coverLine text (scanFrom step state (.start text)) = Segment.tokens segments := by
  have ended : segmentsFrom step next ⟨text.getLast?.or none, 0 + byteSize text, []⟩ = [] :=
    segmentsFrom_of_end rfl
  have whole := passes 0
  rw [List.append_nil, ended, List.append_nil] at whole
  rw [coverLine_scanFrom]
  exact whole.tokens_eq

end Passes

end Passages

end Highlight
