import Highlight.Proofs.Lines
import Highlight.Proofs.Partition
import Highlight.Surface.Painting

/-!
The laid out text of a document. Appending colored stretches to a job makes them its sections, which
tile its text; those of a document are its tokens and the line breaks between its lines.
-/

set_option autoImplicit false

namespace Highlight

open Text

/-- The bytes of a text from `start` to just before `stop`, in one color. -/
structure JobSection where
  start : Nat
  stop : Nat
  color : PaintedColor
  deriving DecidableEq, Repr

/-- A text to be laid out, with sections that color it. -/
structure LayoutJob where
  text : List Char
  sections : List JobSection
  deriving DecidableEq, Repr

namespace LayoutJob

def empty : LayoutJob :=
  ⟨[], []⟩

/-- Appends a stretch and one section for it. -/
def append (job : LayoutJob) (stretch : ColoredText) : LayoutJob :=
  let text := job.text ++ stretch.text.toList
  ⟨text, job.sections ++ [⟨byteSize job.text, byteSize text, stretch.color⟩]⟩

def ofStretches (stretches : List ColoredText) : LayoutJob :=
  stretches.foldl append empty

/-- What a section colors, if it begins and ends between characters. -/
def stretch? (job : LayoutJob) (part : JobSection) : Option ColoredText := do
  let (_, rest) ← splitAtByte? part.start job.text
  let (text, _) ← splitAtByte? (part.stop - part.start) rest
  return ⟨String.ofList text, part.color⟩

/-- Sections that are not empty and follow one another without gaps between two offsets. -/
def Tiles : Nat → List JobSection → Nat → Prop
  | start, [], stop => start = stop
  | start, part :: parts, stop =>
    part.start = start ∧ part.start < part.stop ∧ Tiles part.stop parts stop

/-- The sections of stretches that follow one another from an offset on. -/
def sectionsFrom : Nat → List ColoredText → List JobSection
  | _, [] => []
  | offset, stretch :: stretches =>
    let stop := offset + byteSize stretch.text.toList
    ⟨offset, stop, stretch.color⟩ :: sectionsFrom stop stretches

def charactersOf (stretches : List ColoredText) : List Char :=
  stretches.flatMap fun stretch => stretch.text.toList

theorem foldl_append (job : LayoutJob) (stretches : List ColoredText) :
    stretches.foldl append job =
      ⟨job.text ++ charactersOf stretches,
        job.sections ++ sectionsFrom (byteSize job.text) stretches⟩ := by
  induction stretches generalizing job with
  | nil => simp [charactersOf, sectionsFrom]
  | cons stretch stretches inductionHypothesis =>
    rw [List.foldl_cons, inductionHypothesis]
    simp [append, charactersOf, sectionsFrom]

theorem ofStretches_eq (stretches : List ColoredText) :
    ofStretches stretches = ⟨charactersOf stretches, sectionsFrom 0 stretches⟩ := by
  simp [ofStretches, foldl_append, empty]

theorem sectionsFrom_tiles {stretches : List ColoredText}
    (nonempty : ∀ stretch ∈ stretches, stretch.text ≠ "") (offset : Nat) :
    Tiles offset (sectionsFrom offset stretches) (offset + byteSize (charactersOf stretches)) := by
  induction stretches generalizing offset with
  | nil => simp [Tiles, sectionsFrom, charactersOf]
  | cons stretch stretches inductionHypothesis =>
    obtain ⟨first, others⟩ := List.forall_mem_cons.mp nonempty
    have positive : byteSize stretch.text.toList ≠ 0 := by
      simpa [String.toList_eq_nil_iff] using first
    have tiles := inductionHypothesis others (offset + byteSize stretch.text.toList)
    rw [Nat.add_assoc, ← byteSize_append] at tiles
    exact ⟨rfl, Nat.lt_add_of_pos_right (Nat.pos_of_ne_zero positive), tiles⟩

/-- Sections cut the text into the stretches that were appended. -/
theorem map_stretch?_sectionsFrom (before : List Char) (stretches : List ColoredText)
    (others : List JobSection) :
    (sectionsFrom (byteSize before) stretches).map
        (stretch? ⟨before ++ charactersOf stretches, others⟩) =
      stretches.map some := by
  induction stretches generalizing before with
  | nil => rfl
  | cons stretch stretches inductionHypothesis =>
    have following := inductionHypothesis (before ++ stretch.text.toList)
    have split : before ++ charactersOf (stretch :: stretches) =
        before ++ (stretch.text.toList ++ charactersOf stretches) := rfl
    rw [byteSize_append, List.append_assoc, ← split] at following
    simp only [sectionsFrom, List.map_cons, following, List.cons.injEq, and_true]
    simp [stretch?, split, splitAtByte?_append, String.ofList_toList]

end LayoutJob

/-! ## Lists with a separator -/

theorem flatMap_intercalate {α β : Type} (project : α → List β) (separator : List α)
    (lists : List (List α)) :
    (separator.intercalate lists).flatMap project =
      (separator.flatMap project).intercalate (lists.map (·.flatMap project)) := by
  induction lists with
  | nil => rfl
  | cons list lists inductionHypothesis =>
    cases lists with
    | nil => simp
    | cons next lists => simpa using inductionHypothesis

theorem countP_intercalate {α : Type} {test : α → Bool} {separator : α} (passes : test separator)
    {lists : List (List α)} (fail : ∀ list ∈ lists, ∀ member ∈ list, ¬test member) :
    ([separator].intercalate lists).countP test = lists.length - 1 := by
  induction lists with
  | nil => rfl
  | cons list lists inductionHypothesis =>
    obtain ⟨first, others⟩ := List.forall_mem_cons.mp fail
    have none : list.countP test = 0 := List.countP_eq_zero.mpr first
    cases lists with
    | nil => simpa using none
    | cons next lists =>
      have following := inductionHypothesis others
      simp only [List.intercalate_cons_cons, List.countP_append, none, following,
        List.countP_singleton, passes, ↓reduceIte, List.length_cons]
      omega

theorem filter_intercalate {α : Type} {test : α → Bool} {separator : α} (fails : ¬test separator)
    {lists : List (List α)} (pass : ∀ list ∈ lists, ∀ member ∈ list, test member) :
    ([separator].intercalate lists).filter test = lists.flatten := by
  induction lists with
  | nil => rfl
  | cons list lists inductionHypothesis =>
    obtain ⟨first, others⟩ := List.forall_mem_cons.mp pass
    have all : list.filter test = list := List.filter_eq_self.mpr first
    cases lists with
    | nil => simpa using all
    | cons next lists =>
      have following := inductionHypothesis others
      have separatorFails : [separator].filter test = [] := by simpa using fails
      rw [List.intercalate_cons_cons, List.filter_append, List.filter_append, all, following,
        separatorFails, List.append_nil]
      rfl

theorem mem_or_eq_of_mem_intercalate {α : Type} {separator member : α} {lists : List (List α)}
    (present : member ∈ [separator].intercalate lists) :
    member = separator ∨ ∃ list ∈ lists, member ∈ list := by
  induction lists with
  | nil => simp at present
  | cons list lists inductionHypothesis =>
    cases lists with
    | nil => exact .inr ⟨list, by simp, by simpa using present⟩
    | cons next lists =>
      rw [List.intercalate_cons_cons, List.append_assoc, List.mem_append, List.mem_append,
        List.mem_singleton] at present
      rcases present with inList | isSeparator | later
      · exact .inr ⟨list, by simp, inList⟩
      · exact .inl isSeparator
      · refine (inductionHypothesis later).imp_right ?_
        rintro ⟨found, foundMember, inFound⟩
        exact ⟨found, List.mem_cons_of_mem _ foundMember, inFound⟩

namespace Document

/-- A document as it is laid out in some colors. -/
def layoutJob (document : Document) (appearance : Appearance) : LayoutJob :=
  .ofStretches (document.paintedText appearance)

def paintedToken (appearance : Appearance) (language : Language) (token : Token) : ColoredText :=
  ⟨token.text, appearance.tokenColor language.presentation token.kind⟩

variable (value : String) (language : Language) (appearance : Appearance)

theorem paintedText_compute :
    (compute value language).paintedText appearance =
      [paintedBreak appearance].intercalate
        ((compute value language).tokens.map (·.map (paintedToken appearance language))) := rfl

theorem charactersOf_map_paintedToken (tokens : List Token) :
    LayoutJob.charactersOf (tokens.map (paintedToken appearance language)) = characters tokens := by
  simp [LayoutJob.charactersOf, characters, paintedToken, List.flatMap_map]

/-- What is painted are the lines of the value. -/
theorem charactersOf_paintedText :
    LayoutJob.charactersOf ((compute value language).paintedText appearance) =
      withoutReturns value.toList := by
  have break_ :
      [paintedBreak appearance].flatMap (fun stretch => stretch.text.toList) = ['\n'] := by
    simp [paintedBreak]
  rw [paintedText_compute, LayoutJob.charactersOf, flatMap_intercalate, break_,
    ← intercalate_linesOf, tokens_compute, List.map_map, List.map_map]
  congr 1
  refine (List.map_congr_left fun line _ => ?_).trans (List.map_id _)
  have painted := charactersOf_map_paintedToken language appearance
    (tokenize language (String.ofList line))
  rw [characters_tokenize, String.toList_ofList] at painted
  exact painted

/-- A token of a document has a text, and that is no line break. -/
theorem text_of_mem_tokens {tokens : List Token} (line : tokens ∈ (compute value language).tokens)
    {token : Token} (member : token ∈ tokens) : token.text ≠ "" ∧ token.text ≠ "\n" := by
  rw [tokens_compute] at line
  obtain ⟨text, textMember, rfl⟩ := List.mem_map.mp line
  refine ⟨(partition_tokenize language _).nonempty token member, fun isBreak => ?_⟩
  have inLine : '\n' ∈ characters (tokenize language (String.ofList text)) :=
    List.mem_flatMap.mpr ⟨token, member, by simp [isBreak]⟩
  rw [characters_tokenize, String.toList_ofList] at inLine
  exact not_mem_of_mem_linesOf textMember inLine

theorem mem_paintedText {stretch : ColoredText}
    (member : stretch ∈ (compute value language).paintedText appearance) :
    stretch = paintedBreak appearance ∨
      ∃ tokens ∈ (compute value language).tokens, ∃ token ∈ tokens,
        stretch = paintedToken appearance language token := by
  rw [paintedText_compute] at member
  refine (mem_or_eq_of_mem_intercalate member).imp_right ?_
  rintro ⟨part, partMember, inPart⟩
  obtain ⟨tokens, line, rfl⟩ := List.mem_map.mp partMember
  obtain ⟨token, inLine, rfl⟩ := List.mem_map.mp inPart
  exact ⟨tokens, line, token, inLine, rfl⟩

/-- The stretches of a line are no line breaks. -/
theorem text_of_mem_painted {part : List ColoredText}
    (painted : part ∈
      (compute value language).tokens.map (·.map (paintedToken appearance language)))
    {stretch : ColoredText} (member : stretch ∈ part) :
    stretch.text ≠ "" ∧ stretch.text ≠ "\n" := by
  obtain ⟨tokens, line, rfl⟩ := List.mem_map.mp painted
  obtain ⟨token, inLine, rfl⟩ := List.mem_map.mp member
  exact text_of_mem_tokens value language line inLine

theorem text_ne_empty_of_mem_paintedText {stretch : ColoredText}
    (member : stretch ∈ (compute value language).paintedText appearance) : stretch.text ≠ "" := by
  obtain rfl | ⟨tokens, line, token, inLine, rfl⟩ :=
    mem_paintedText value language appearance member
  · simp [paintedBreak]
  · exact (text_of_mem_tokens value language line inLine).1

theorem filter_paintedText :
    ((compute value language).paintedText appearance).filter (·.text ≠ "\n") =
      (compute value language).tokens.flatten.map (paintedToken appearance language) := by
  rw [paintedText_compute, filter_intercalate (by simp [paintedBreak]), List.map_flatten]
  intro part painted stretch member
  simpa using (text_of_mem_painted value language appearance painted member).2

theorem countP_paintedText :
    ((compute value language).paintedText appearance).countP (·.text = "\n") =
      (compute value language).lineCount - 1 := by
  rw [paintedText_compute, countP_intercalate (by simp [paintedBreak])]
  · simp [lineCount, compute]
  · intro part painted stretch member
    simpa using (text_of_mem_painted value language appearance painted member).2

end Document

/-- Laying out a document reproduces its value up to the carriage returns that end lines. The
sections tile the text; they are the tokens, each in the color of its kind, and a break between any
two lines. -/
theorem layoutJob_reproduces_value (value : String) (language : Language)
    (appearance : Appearance) :
    let document := Document.compute value language
    let job := document.layoutJob appearance
    job.text = withoutReturns value.toList ∧
      (String.ofList job.text = value ↔
        ∀ line ∈ cut '\n' value.toList, line.getLast? ≠ some '\r') ∧
      LayoutJob.Tiles 0 job.sections (byteSize job.text) ∧
      ∃ stretches : List ColoredText, job.sections.map job.stretch? = stretches.map some ∧
        (∀ stretch ∈ stretches, stretch = ⟨"\n", appearance.text⟩ ∨
          ∃ tokens ∈ document.tokens, ∃ token ∈ tokens,
            stretch = ⟨token.text, appearance.tokenColor language.presentation token.kind⟩) ∧
        stretches.filter (·.text ≠ "\n") = document.tokens.flatten.map (fun token =>
          ⟨token.text, appearance.tokenColor language.presentation token.kind⟩) ∧
        stretches.countP (·.text = "\n") = document.lineCount - 1 := by
  intro document job
  have job_eq : job = ⟨LayoutJob.charactersOf (document.paintedText appearance),
      LayoutJob.sectionsFrom 0 (document.paintedText appearance)⟩ := LayoutJob.ofStretches_eq _
  have text_eq : job.text = withoutReturns value.toList := by
    rw [job_eq]
    exact Document.charactersOf_paintedText value language appearance
  refine ⟨text_eq, ?_, ?_, document.paintedText appearance, ?_, ?_, ?_, ?_⟩
  · rw [text_eq, ← withoutReturns_eq_self_iff, ← String.toList_inj, String.toList_ofList]
  · have tiles := LayoutJob.sectionsFrom_tiles
      (fun _ => Document.text_ne_empty_of_mem_paintedText value language appearance) 0
    rw [Nat.zero_add] at tiles
    rw [job_eq]
    exact tiles
  · rw [job_eq]
    exact LayoutJob.map_stretch?_sectionsFrom [] _ _
  · intro stretch member
    exact Document.mem_paintedText value language appearance member
  · exact Document.filter_paintedText value language appearance
  · exact Document.countP_paintedText value language appearance

end Highlight
