import Highlight.Text.Measure

/-!
Bytes of texts. A cut at a byte offset exists exactly where a character ends, and it is determined
by the offset.
-/

set_option autoImplicit false

namespace Highlight.Text

@[simp] theorem byteSize_nil : byteSize [] = 0 := rfl

theorem foldl_utf8Size (text : List Char) (size : Nat) :
    text.foldl (fun size c => size + c.utf8Size) size = size + byteSize text := by
  induction text generalizing size with
  | nil => rfl
  | cons c rest inductionHypothesis =>
    simp only [byteSize, List.foldl_cons]
    rw [inductionHypothesis, inductionHypothesis (0 + c.utf8Size)]
    omega

@[simp] theorem byteSize_cons (c : Char) (rest : List Char) :
    byteSize (c :: rest) = c.utf8Size + byteSize rest := by
  rw [byteSize, List.foldl_cons, foldl_utf8Size]
  omega

@[simp] theorem byteSize_append (first second : List Char) :
    byteSize (first ++ second) = byteSize first + byteSize second := by
  induction first with
  | nil => simp
  | cons c rest inductionHypothesis => simp [inductionHypothesis, Nat.add_assoc]

@[simp] theorem byteSize_eq_zero_iff (text : List Char) : byteSize text = 0 ↔ text = [] := by
  cases text with
  | nil => simp
  | cons c rest =>
    have positive := c.utf8Size_pos
    simp only [byteSize_cons, reduceCtorEq, iff_false]
    omega

/-- A cut exists exactly between two parts of which the first takes up the offset. -/
theorem splitAtByte?_eq_some_iff {offset : Nat} {text head tail : List Char} :
    splitAtByte? offset text = some (head, tail) ↔
      text = head ++ tail ∧ byteSize head = offset := by
  fun_induction splitAtByte? offset text generalizing head with
  | case1 text =>
    constructor
    · rintro ⟨⟩
      exact ⟨rfl, rfl⟩
    · rintro ⟨same, empty⟩
      have headEmpty := (byteSize_eq_zero_iff head).mp empty
      subst headEmpty
      simp [same]
  | case2 offset =>
    simp only [reduceCtorEq, false_iff, not_and]
    intro same
    have headEmpty := (List.append_eq_nil_iff.mp same.symm).1
    simp [headEmpty]
  | case3 offset c rest fits inductionHypothesis =>
    constructor
    · intro found
      obtain ⟨⟨inner, innerTail⟩, innerFound, same⟩ := Option.map_eq_some_iff.mp found
      obtain ⟨rfl, rfl⟩ := Prod.mk.inj same
      obtain ⟨innerText, innerSize⟩ := inductionHypothesis.mp innerFound
      refine ⟨by rw [innerText, List.cons_append], ?_⟩
      rw [byteSize_cons, innerSize]
      omega
    · rintro ⟨same, size⟩
      cases head with
      | nil => simp at size
      | cons d inner =>
        obtain ⟨rfl, innerText⟩ := List.cons.inj same
        have innerFound := inductionHypothesis.mpr
          ⟨innerText, by rw [byteSize_cons] at size; omega⟩
        simp [innerFound]
  | case4 offset c rest exceeds =>
    simp only [reduceCtorEq, false_iff, not_and]
    intro same size
    cases head with
    | nil => simp at size
    | cons d inner =>
      obtain ⟨rfl, _⟩ := List.cons.inj same
      rw [byteSize_cons] at size
      omega

theorem splitAtByte?_append (head tail : List Char) :
    splitAtByte? (byteSize head) (head ++ tail) = some (head, tail) :=
  splitAtByte?_eq_some_iff.mpr ⟨rfl, rfl⟩

end Highlight.Text
