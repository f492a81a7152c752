import Highlight.Proofs.Segments
import Highlight.Proofs.Trims

/-!
Reading a line by byte offsets. An offset is a number that can be wrong: a difference that would be
negative has no result, and neither has a cut past the end of a text or inside a character.
-/

set_option autoImplicit false

namespace Highlight.Text

/-- The difference of two offsets; none when it would be negative. -/
def minus? (larger smaller : Nat) : Option Nat :=
  if smaller ≤ larger then some (larger - smaller) else none

/-- The text from a byte offset on. -/
def textFrom? (offset : Nat) (text : List Char) : Option (List Char) :=
  (splitAtByte? offset text).map (·.2)

/-- The text before a byte offset. -/
def textBefore? (offset : Nat) (text : List Char) : Option (List Char) :=
  (splitAtByte? offset text).map (·.1)

/-- The byte offset of the first member of a class in a text that starts at an offset. -/
def firstOffset? (isMember : Char → Bool) : Nat → List Char → Option Nat
  | _, [] => none
  | offset, c :: rest =>
    if isMember c then some offset else firstOffset? isMember (offset + c.utf8Size) rest

theorem minus?_eq_some_iff {larger smaller difference : Nat} :
    minus? larger smaller = some difference ↔ larger = difference + smaller := by
  unfold minus?
  split <;> simp <;> omega

theorem textFrom?_eq_some_iff {offset : Nat} {text tail : List Char} :
    textFrom? offset text = some tail ↔ ∃ head, text = head ++ tail ∧ byteSize head = offset := by
  simp [textFrom?, splitAtByte?_eq_some_iff]

theorem textBefore?_eq_some_iff {offset : Nat} {text head : List Char} :
    textBefore? offset text = some head ↔
      (∃ tail, text = head ++ tail) ∧ byteSize head = offset := by
  simp [textBefore?, splitAtByte?_eq_some_iff]

/-- There is no cut inside of a character. -/
example : textFrom? 1 ['é', '1'] = none := by decide

theorem minus?_of_eq {larger smaller difference : Nat} (sum : larger = difference + smaller) :
    minus? larger smaller = some difference :=
  minus?_eq_some_iff.mpr sum

theorem textFrom?_append (head tail : List Char) :
    textFrom? (byteSize head) (head ++ tail) = some tail :=
  textFrom?_eq_some_iff.mpr ⟨head, rfl, rfl⟩

theorem textBefore?_append (head tail : List Char) :
    textBefore? (byteSize head) (head ++ tail) = some head :=
  textBefore?_eq_some_iff.mpr ⟨⟨tail, rfl⟩, rfl⟩

/-- A cut leaves the start of the text behind. -/
theorem length_lt_of_textFrom? {offset : Nat} {text tail : List Char} (positive : 0 < offset)
    (found : textFrom? offset text = some tail) : tail.length < text.length := by
  obtain ⟨head, rfl, size⟩ := textFrom?_eq_some_iff.mp found
  have present : head ≠ [] := by
    rintro rfl
    simp at size
    omega
  have headPositive := List.length_pos_iff.mpr present
  simp only [List.length_append]
  omega

theorem firstOffset?_append {isMember : Char → Bool} {head : List Char} {c : Char}
    (absent : ∀ d ∈ head, isMember d = false) (member : isMember c) (offset : Nat)
    (rest : List Char) :
    firstOffset? isMember offset (head ++ c :: rest) = some (offset + byteSize head) := by
  induction head generalizing offset with
  | nil => simp [firstOffset?, member]
  | cons d head inductionHypothesis =>
    obtain ⟨own, others⟩ := List.forall_mem_cons.mp absent
    simp [firstOffset?, own, inductionHypothesis others, Nat.add_assoc]

theorem firstOffset?_of_absent {isMember : Char → Bool} {text : List Char}
    (absent : ∀ d ∈ text, isMember d = false) (offset : Nat) :
    firstOffset? isMember offset text = none := by
  induction text generalizing offset with
  | nil => rfl
  | cons d text inductionHypothesis =>
    obtain ⟨own, others⟩ := List.forall_mem_cons.mp absent
    simp [firstOffset?, own, inductionHypothesis others]

/-! ## Trims -/

/-- The number of bytes that a trim takes off at the start. -/
theorem minus?_trimStart (text : List Char) :
    minus? (byteSize text) (byteSize (trimStart text)) =
      some (byteSize (text.takeWhile isBlank)) := by
  refine minus?_of_eq ?_
  rw [trimStart, ← byteSize_append, List.takeWhile_append_dropWhile]

end Highlight.Text

namespace Highlight.Place

open Text

/-- A place some characters into a line is on the boundary of a character. -/
theorem textFrom?_forward (count : Nat) (line : List Char) :
    textFrom? ((start line).forward count).offset line =
      some ((start line).forward count).rest := by
  rw [offset_forward, rest_forward]
  have split : line = line.take count ++ line.drop count := (List.take_append_drop _ _).symm
  conv_lhs => rw [split]
  simpa [start] using textFrom?_append (line.take count) (line.drop count)

theorem offset_add_byteSize_forward (count : Nat) (line : List Char) :
    ((start line).forward count).offset + byteSize ((start line).forward count).rest =
      byteSize line := by
  rw [offset_forward, rest_forward, start, Nat.zero_add, ← byteSize_append,
    List.take_append_drop]

end Highlight.Place
