import Mathlib.Data.List.TakeWhile
import Highlight.Proofs.Measure

/-!
Trims. A text is made up of the blanks that a trim takes off at its start, the core that it keeps,
and the blanks that it takes off at its end.
-/

set_option autoImplicit false

namespace Highlight.Text

theorem trimStart_of_stops {text : List Char} (stops : ∀ c ∈ text.head?, isBlank c = false) :
    trimStart text = text := by
  cases text with
  | nil => rfl
  | cons c rest => simp [trimStart, stops c rfl]

theorem stops_trimStart (text : List Char) :
    ∀ c ∈ (trimStart text).head?, isBlank c = false := by
  intro c head
  have stopped := List.head?_dropWhile_not isBlank text
  rw [show (text.dropWhile isBlank).head? = some c from head] at stopped
  simpa using stopped

theorem trim_eq_nil_iff {text : List Char} : trim text = [] ↔ ∀ c ∈ text, isBlank c := by
  rw [trim, trimEnd, List.reverse_eq_nil_iff, List.dropWhile_eq_nil_iff]
  simp only [List.mem_reverse]
  constructor
  · intro allBlank
    cases started : trimStart text with
    | nil => exact List.dropWhile_eq_nil_iff.mp started
    | cons c others =>
      have own := stops_trimStart text c (by rw [started]; rfl)
      rw [allBlank c (by simp [started])] at own
      contradiction
  · exact fun allBlank c member => allBlank c ((List.dropWhile_suffix isBlank).subset member)

theorem trimEnd_isPrefix (text : List Char) : trimEnd text <+: text := by
  have suffix := List.dropWhile_suffix isBlank (l := text.reverse)
  simpa [trimEnd] using List.reverse_prefix.mpr suffix

/-- A text that ends with no blank keeps all of itself. -/
theorem trimEnd_eq_self_iff {text : List Char} :
    trimEnd text = text ↔ ∀ c ∈ text.getLast?, isBlank c = false := by
  rw [trimEnd, List.reverse_eq_iff, ← List.head?_reverse]
  cases text.reverse with
  | nil => simp
  | cons c rest =>
    by_cases blank : isBlank c
    · have shorter := (List.dropWhile_suffix isBlank (l := rest)).length_le
      have different : rest.dropWhile isBlank ≠ c :: rest := by
        intro same
        rw [same, List.length_cons] at shorter
        omega
      simp [blank, different]
    · simp [blank]

theorem trimEnd_trimEnd (text : List Char) : trimEnd (trimEnd text) = trimEnd text := by
  rw [trimEnd_eq_self_iff, trimEnd, List.getLast?_reverse]
  exact stops_trimStart text.reverse

theorem trimEnd_of_suffix {text tail : List Char} (suffix : tail <:+ text)
    (trimmed : trimEnd text = text) : trimEnd tail = tail := by
  rw [trimEnd_eq_self_iff] at trimmed ⊢
  obtain ⟨head, rfl⟩ := suffix
  intro c last
  exact trimmed c (by simp [List.getLast?_append, Option.mem_def.mp last])

theorem mem_trimEnd {c : Char} {text : List Char} (member : c ∈ text)
    (present : isBlank c = false) : c ∈ trimEnd text := by
  rw [← List.mem_reverse, ← List.takeWhile_append_dropWhile (p := isBlank) (l := text.reverse),
    List.mem_append] at member
  refine List.mem_reverse.mpr (member.resolve_left fun lost => ?_)
  have blank := List.mem_takeWhile_imp lost
  simp [present] at blank

theorem head?_trimEnd {text : List Char} (stops : ∀ c ∈ text.head?, isBlank c = false) :
    (trimEnd text).head? = text.head? := by
  obtain ⟨lost, whole⟩ := trimEnd_isPrefix text
  cases kept : trimEnd text with
  | cons c rest => rw [← whole, kept]; rfl
  | nil =>
    cases text with
    | nil => rfl
    | cons c rest =>
      have allBlank : ∀ d ∈ (c :: rest).reverse, isBlank d :=
        List.dropWhile_eq_nil_iff.mp (List.reverse_eq_nil_iff.mp kept)
      have own := stops c rfl
      rw [allBlank c (by simp)] at own
      contradiction

/-! ## What a trim takes off -/

def trailingBlanks (text : List Char) : List Char :=
  (text.reverse.takeWhile isBlank).reverse

theorem trimEnd_append_trailingBlanks (text : List Char) :
    trimEnd text ++ trailingBlanks text = text := by
  rw [trimEnd, trailingBlanks, ← List.reverse_append, List.takeWhile_append_dropWhile,
    List.reverse_reverse]

theorem isBlank_of_mem_trailingBlanks {text : List Char} {c : Char}
    (member : c ∈ trailingBlanks text) : isBlank c :=
  List.mem_takeWhile_imp (List.mem_reverse.mp member)

/-- A text is some blanks, a core that neither opens nor ends with a blank, and more blanks. -/
structure Trims (text lead core trail : List Char) : Prop where
  whole : text = lead ++ (core ++ trail)
  leading : ∀ c ∈ lead, isBlank c
  trailing : ∀ c ∈ trail, isBlank c
  opens : ∀ c ∈ core.head?, isBlank c = false
  ends : ∀ c ∈ core.getLast?, isBlank c = false

/-- Blanks before a text that opens with none are what a trim takes off at its start. -/
theorem trims_append {lead text : List Char} (leading : ∀ c ∈ lead, isBlank c)
    (stops : ∀ c ∈ text.head?, isBlank c = false) :
    Trims (lead ++ text) lead (trimEnd text) (trailingBlanks text) where
  whole := by rw [trimEnd_append_trailingBlanks]
  leading := leading
  trailing := fun _ => isBlank_of_mem_trailingBlanks
  opens := by rwa [head?_trimEnd stops]
  ends := trimEnd_eq_self_iff.mp (trimEnd_trimEnd text)

theorem trims_trim (text : List Char) :
    Trims text (text.takeWhile isBlank) (trim text) (trailingBlanks (trimStart text)) := by
  have leading : ∀ c ∈ text.takeWhile isBlank, isBlank c := fun _ => List.mem_takeWhile_imp
  have split := trims_append leading (stops_trimStart text)
  rwa [trimStart, List.takeWhile_append_dropWhile] at split

theorem trimEnd_append_of_blank (core : List Char) {trail : List Char}
    (trailing : ∀ c ∈ trail, isBlank c) : trimEnd (core ++ trail) = trimEnd core := by
  have nothing : trail.reverse.dropWhile isBlank = [] :=
    List.dropWhile_eq_nil_iff.mpr fun c member => trailing c (List.mem_reverse.mp member)
  rw [trimEnd, trimEnd, List.reverse_append, List.dropWhile_append, nothing]
  rfl

namespace Trims

variable {text lead core trail : List Char}

/-- A core that is not empty tells where the blanks end and where they start again. -/
theorem parts_eq (trims : Trims text lead core trail) (present : core ≠ []) :
    text.takeWhile isBlank = lead ∧ trimStart text = core ++ trail := by
  obtain ⟨c, others, rfl⟩ := List.exists_cons_of_ne_nil present
  have opened : isBlank c = false := trims.opens c rfl
  rw [trimStart, trims.whole, List.takeWhile_append_of_pos trims.leading,
    List.dropWhile_append_of_pos trims.leading]
  simp [opened]

theorem trim_eq (trims : Trims text lead core trail) : trim text = core := by
  by_cases present : core = []
  · subst present
    rw [trim_eq_nil_iff, trims.whole]
    exact List.forall_mem_append.mpr ⟨trims.leading, trims.trailing⟩
  · rw [trim, (trims.parts_eq present).2, trimEnd_append_of_blank core trims.trailing]
    exact trimEnd_eq_self_iff.mpr trims.ends

end Trims

end Highlight.Text
