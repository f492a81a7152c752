import Mathlib.Data.List.Chain
import Highlight.Proofs.Measure
import Highlight.Token.Cover

/-!
Covers of a line. Whatever spans are labelled, the tokens of a cover and its rest make up the line,
and a cursor stands between them. When no span asks for plain text, two plain tokens never stand
next to each other.
-/

set_option autoImplicit false

namespace Highlight

open Text

def characters (tokens : List Token) : List Char :=
  tokens.flatMap fun token => token.text.toList

@[simp] theorem characters_nil : characters [] = [] := rfl

@[simp] theorem characters_cons (token : Token) (tokens : List Token) :
    characters (token :: tokens) = token.text.toList ++ characters tokens := rfl

@[simp] theorem characters_append (first second : List Token) :
    characters (first ++ second) = characters first ++ characters second := by
  simp [characters]

theorem toList_joinText (tokens : List Token) : (joinText tokens).toList = characters tokens := by
  simp [joinText, characters, String.toList_join, List.flatMap_map]

/-- Is one of two tokens no plain text? -/
def Apart (first second : Token) : Prop :=
  ¬(first.kind = .text ∧ second.kind = .text)

theorem Apart.symm {first second : Token} (apart : Apart first second) : Apart second first :=
  fun ⟨secondPlain, firstPlain⟩ => apart ⟨firstPlain, secondPlain⟩

/-- Tokens that make up a line, none of them empty, with each stretch of plain text in one piece. -/
structure Partition (line : String) (tokens : List Token) : Prop where
  joined : joinText tokens = line
  nonempty : ∀ token ∈ tokens, token.text ≠ ""
  separated : tokens.IsChain Apart

theorem Partition.eq_nil {tokens : List Token} (partition : Partition "" tokens) : tokens = [] := by
  have empty : characters tokens = [] := by
    rw [← toList_joinText, partition.joined]
    rfl
  cases tokens with
  | nil => rfl
  | cons token tokens =>
    have textEmpty := (List.append_eq_nil_iff.mp empty).1
    exact absurd (String.toList_eq_nil_iff.mp textEmpty) (partition.nonempty token (by simp))

namespace Cover

@[simp] theorem push_nil (kind : TokenKind) (newestFirst : List Token) :
    push kind [] newestFirst = newestFirst := rfl

theorem push_of_ne_nil {text : List Char} (present : text ≠ []) (kind : TokenKind)
    (newestFirst : List Token) :
    push kind text newestFirst = ⟨kind, String.ofList text⟩ :: newestFirst := by
  simp [push, present]

theorem characters_push (kind : TokenKind) (text : List Char) (newestFirst : List Token) :
    characters (push kind text newestFirst).reverse = characters newestFirst.reverse ++ text := by
  by_cases present : text = []
  · simp [present]
  · simp [push_of_ne_nil present]

theorem nonempty_push {newestFirst : List Token}
    (nonempty : ∀ token ∈ newestFirst, token.text ≠ "") (kind : TokenKind) (text : List Char) :
    ∀ token ∈ push kind text newestFirst, token.text ≠ "" := by
  by_cases present : text = []
  · simpa [present] using nonempty
  · rw [push_of_ne_nil present, List.forall_mem_cons]
    exact ⟨by simp [← String.toList_eq_nil_iff, present], nonempty⟩

theorem label_of_split {cover : Cover} {span : Span} {gap text rest : List Char}
    (split : cover.rest = gap ++ (text ++ rest))
    (starts : span.start = cover.cursor + byteSize gap)
    (stops : min span.stop cover.size = span.start + byteSize text) (present : text ≠ []) :
    cover.label span =
      { size := cover.size
        cursor := span.start + byteSize text
        rest := rest
        newestFirst := push span.kind text (push .text gap cover.newestFirst) } := by
  have positive : 0 < byteSize text := by
    have nonzero := (byteSize_eq_zero_iff text).not.mpr present
    omega
  have accepted : ¬(span.start < cover.cursor ∨ span.start + byteSize text ≤ span.start) := by
    omega
  have gapFound : splitAtByte? (span.start - cover.cursor) cover.rest = some (gap, text ++ rest) :=
    splitAtByte?_eq_some_iff.mpr ⟨split, by omega⟩
  have textFound : splitAtByte? (span.start + byteSize text - span.start) (text ++ rest) =
      some (text, rest) :=
    splitAtByte?_eq_some_iff.mpr ⟨rfl, by omega⟩
  simp only [label, stops, accepted, ↓reduceIte, gapFound, textFound]

/-- A span is left out, or it lies on the boundaries of characters. -/
theorem label_cases (cover : Cover) (span : Span) :
    cover.label span = cover ∨
      ∃ gap text rest, cover.rest = gap ++ (text ++ rest) ∧
        span.start = cover.cursor + byteSize gap ∧
        min span.stop cover.size = span.start + byteSize text ∧ text ≠ [] := by
  unfold label
  dsimp only
  split
  · exact .inl rfl
  · next accepted =>
    split
    · exact .inl rfl
    · next gap rest gapFound =>
      split
      · exact .inl rfl
      · next text rest textFound =>
        obtain ⟨split, gapSize⟩ := splitAtByte?_eq_some_iff.mp gapFound
        obtain ⟨rfl, textSize⟩ := splitAtByte?_eq_some_iff.mp textFound
        refine .inr ⟨gap, text, rest, split, by omega, by omega, ?_⟩
        rintro rfl
        simp at textSize
        omega

theorem finish_eq {cover : Cover} (size : cover.size = cover.cursor + byteSize cover.rest) :
    cover.finish = (push .text cover.rest cover.newestFirst).reverse := by
  have found : splitAtByte? (cover.size - cover.cursor) cover.rest = some (cover.rest, []) :=
    splitAtByte?_eq_some_iff.mpr ⟨by simp, by omega⟩
  simp only [finish, plainTo, Nat.min_self, found]

def covered (cover : Cover) : List Char :=
  characters cover.newestFirst.reverse

/-- The tokens and the rest make up the line, and the cursor stands between them. -/
structure Covers (cover : Cover) (line : List Char) : Prop where
  whole : cover.covered ++ cover.rest = line
  size_eq : cover.size = byteSize line
  cursor_eq : cover.cursor = byteSize cover.covered
  nonempty : ∀ token ∈ cover.newestFirst, token.text ≠ ""

theorem start_covers (line : List Char) : (start line).Covers line where
  whole := rfl
  size_eq := rfl
  cursor_eq := rfl
  nonempty := by simp [start]

theorem Covers.label {cover : Cover} {line : List Char} (covers : cover.Covers line)
    (span : Span) : (cover.label span).Covers line := by
  obtain unchanged | ⟨gap, text, rest, split, starts, stops, present⟩ := label_cases cover span
  · rw [unchanged]
    exact covers
  · have reached : characters (push span.kind text (push .text gap cover.newestFirst)).reverse =
        cover.covered ++ gap ++ text := by
      rw [characters_push, characters_push, covered]
    rw [label_of_split split starts stops present]
    constructor
    · rw [covered, reached, ← covers.whole, split]
      simp
    · exact covers.size_eq
    · rw [covered, reached, byteSize_append, byteSize_append, ← covers.cursor_eq, starts]
    · exact nonempty_push (nonempty_push covers.nonempty .text gap) span.kind text

theorem Covers.foldl {cover : Cover} {line : List Char} (covers : cover.Covers line)
    (spans : List Span) : (spans.foldl Cover.label cover).Covers line := by
  induction spans generalizing cover with
  | nil => exact covers
  | cons span spans inductionHypothesis => exact inductionHypothesis (covers.label span)

theorem Covers.size_eq_add {cover : Cover} {line : List Char} (covers : cover.Covers line) :
    cover.size = cover.cursor + byteSize cover.rest := by
  rw [covers.size_eq, ← covers.whole, byteSize_append, covers.cursor_eq]

theorem mem_push {kind : TokenKind} {text : List Char} {newestFirst : List Token} {token : Token}
    (member : token ∈ push kind text newestFirst) :
    token = ⟨kind, String.ofList text⟩ ∨ token ∈ newestFirst := by
  by_cases present : text = []
  · exact .inr (by simpa [present] using member)
  · simpa [push_of_ne_nil present] using member

/-- A token that a span cuts out of a line. -/
structure Cuts (line : List Char) (span : Span) (token : Token) : Prop where
  kind : span.kind = token.kind
  place : ∃ before after, line = before ++ (token.text.toList ++ after) ∧
    byteSize before = span.start ∧
    min span.stop (byteSize line) = span.start + byteSize token.text.toList

theorem Covers.mem_label {cover : Cover} {line : List Char} (covers : cover.Covers line)
    {span : Span} {token : Token} (member : token ∈ (cover.label span).newestFirst) :
    token ∈ cover.newestFirst ∨ token.kind = .text ∨ Cuts line span token := by
  obtain unchanged | ⟨gap, text, rest, split, starts, stops, present⟩ := label_cases cover span
  · exact .inl (unchanged ▸ member)
  rw [label_of_split split starts stops present] at member
  obtain rfl | inner := mem_push member
  · refine .inr (.inr ⟨rfl, cover.covered ++ gap, rest, ?_, ?_, ?_⟩)
    · rw [← covers.whole, split, String.toList_ofList]
      simp
    · rw [byteSize_append, ← covers.cursor_eq, starts]
    · rw [← covers.size_eq, stops, String.toList_ofList]
  · obtain rfl | older := mem_push inner
    · exact .inr (.inl rfl)
    · exact .inl older

theorem Covers.mem_foldl {cover : Cover} {line : List Char} (covers : cover.Covers line)
    {spans : List Span} {token : Token}
    (member : token ∈ (spans.foldl Cover.label cover).newestFirst) :
    token ∈ cover.newestFirst ∨ token.kind = .text ∨ ∃ span ∈ spans, Cuts line span token := by
  induction spans generalizing cover with
  | nil => exact .inl member
  | cons span spans inductionHypothesis =>
    obtain earlier | plain | ⟨later, listed, cut⟩ := inductionHypothesis (covers.label span) member
    · refine (covers.mem_label earlier).imp_right (Or.imp_right fun cut => ?_)
      exact ⟨span, List.mem_cons_self, cut⟩
    · exact .inr (.inl plain)
    · exact .inr (.inr ⟨later, List.mem_cons_of_mem span listed, cut⟩)

/-- No two plain tokens next to each other, and the newest token is none. -/
def Settled (newestFirst : List Token) : Prop :=
  newestFirst.IsChain Apart ∧ ∀ token ∈ newestFirst.head?, token.kind ≠ .text

theorem Settled.push_text {newestFirst : List Token} (settled : Settled newestFirst)
    (gap : List Char) : (push .text gap newestFirst).IsChain Apart := by
  by_cases present : gap = []
  · simpa [present] using settled.1
  · rw [push_of_ne_nil present, List.isChain_cons]
    exact ⟨fun token newest plain => settled.2 token newest plain.2, settled.1⟩

theorem Settled.label {cover : Cover} (settled : Settled cover.newestFirst) {span : Span}
    (labelled : span.kind ≠ .text) : Settled (cover.label span).newestFirst := by
  obtain unchanged | ⟨gap, text, rest, split, starts, stops, present⟩ := label_cases cover span
  · rw [unchanged]
    exact settled
  · rw [label_of_split split starts stops present]
    simp only [push_of_ne_nil present span.kind]
    refine ⟨List.isChain_cons.mpr ⟨?_, settled.push_text gap⟩, by simpa using labelled⟩
    exact fun _ _ plain => labelled plain.1

theorem Settled.foldl {cover : Cover} (settled : Settled cover.newestFirst) {spans : List Span}
    (labelled : ∀ span ∈ spans, span.kind ≠ .text) :
    Settled (spans.foldl Cover.label cover).newestFirst := by
  induction spans generalizing cover with
  | nil => exact settled
  | cons span spans inductionHypothesis =>
    obtain ⟨first, others⟩ := List.forall_mem_cons.mp labelled
    exact inductionHypothesis (settled.label first) others

end Cover

/-- Whatever is no plain text in the tokens of a line is cut out by a span. -/
theorem cuts_of_mem_coverLine {line : List Char} {spans : List Span} {token : Token}
    (member : token ∈ coverLine line spans) :
    token.kind = .text ∨ ∃ span ∈ spans, Cover.Cuts line span token := by
  have covers := (Cover.start_covers line).foldl spans
  rw [coverLine, Cover.finish_eq covers.size_eq_add, List.mem_reverse] at member
  obtain rfl | inner := Cover.mem_push member
  · exact .inl rfl
  · exact ((Cover.start_covers line).mem_foldl inner).resolve_left (by simp [Cover.start])

theorem kind_of_mem_coverLine (allowed : TokenKind → Prop) {line : List Char} {spans : List Span}
    {token : Token} (within : ∀ span ∈ spans, allowed span.kind)
    (member : token ∈ coverLine line spans) (isLabel : token.kind ≠ .text) :
    allowed token.kind := by
  rcases cuts_of_mem_coverLine member with isText | ⟨span, listed, cuts⟩
  · exact absurd isText isLabel
  · exact cuts.kind ▸ within span listed

/-- Spans that ask for no plain text partition a line, whatever they are. -/
theorem coverLine_partition {line : List Char} {spans : List Span}
    (labelled : ∀ span ∈ spans, span.kind ≠ .text) :
    Partition (String.ofList line) (coverLine line spans) := by
  have covers := (Cover.start_covers line).foldl spans
  have settled : Cover.Settled (spans.foldl Cover.label (Cover.start line)).newestFirst :=
    Cover.Settled.foldl ⟨List.isChain_nil, by simp [Cover.start]⟩ labelled
  rw [coverLine, Cover.finish_eq covers.size_eq_add]
  constructor
  · rw [← String.toList_inj, toList_joinText, Cover.characters_push, String.toList_ofList]
    exact covers.whole
  · intro token member
    exact Cover.nonempty_push covers.nonempty _ _ token (List.mem_reverse.mp member)
  · rw [List.isChain_reverse]
    exact (settled.push_text _).imp fun _ _ apart => apart.symm

end Highlight
