/-!
Sets of line numbers that a host marks as erroneous. A number that no line of the document has is
kept and marks nothing.
-/

set_option autoImplicit false

namespace Highlight

/-- The greatest number that a line, a row or an offset can have. -/
def maxIndex : Nat :=
  0xFFFFFFFFFFFFFFFF

/-- Line numbers counted from one, in ascending order. -/
structure FlaggedLines where
  toList : List Nat
  ascending : toList.Pairwise (· < ·)
  deriving DecidableEq, Repr

namespace FlaggedLines

def empty : FlaggedLines :=
  ⟨[], .nil⟩

instance : Inhabited FlaggedLines :=
  ⟨empty⟩

def insertAscending (line : Nat) : List Nat → List Nat
  | [] => [line]
  | first :: others =>
    if line < first then line :: first :: others
    else if line = first then first :: others
    else first :: insertAscending line others

theorem mem_insertAscending {line other : Nat} {lines : List Nat} :
    other ∈ insertAscending line lines ↔ other = line ∨ other ∈ lines := by
  induction lines with
  | nil => simp [insertAscending]
  | cons first others inductionHypothesis =>
    unfold insertAscending
    split
    · simp
    · split
      · rename_i same
        subst same
        simp
      · simp only [List.mem_cons, inductionHypothesis]
        constructor
        · rintro (isFirst | isLine | isOther) <;> simp_all
        · rintro (isLine | isFirst | isOther) <;> simp_all

theorem insertAscending_ascending {line : Nat} {lines : List Nat}
    (ascending : lines.Pairwise (· < ·)) : (insertAscending line lines).Pairwise (· < ·) := by
  induction lines with
  | nil => simp [insertAscending]
  | cons first others inductionHypothesis =>
    have ⟨firstLess, othersAscending⟩ := List.pairwise_cons.1 ascending
    unfold insertAscending
    split
    · rename_i less
      refine List.pairwise_cons.2 ⟨fun other member => ?_, ascending⟩
      cases List.mem_cons.1 member with
      | inl isFirst => omega
      | inr isOther =>
        have := firstLess other isOther
        omega
    · split
      · exact ascending
      · refine List.pairwise_cons.2 ⟨fun other member => ?_, inductionHypothesis othersAscending⟩
        cases mem_insertAscending.1 member with
        | inl isLine => omega
        | inr isOther => exact firstLess other isOther

def contains (flagged : FlaggedLines) (line : Nat) : Bool :=
  flagged.toList.contains line

/-- Is a row, counted from zero, flagged? The last row that can be numbered has no line number. -/
def containsRow (flagged : FlaggedLines) (row : Nat) : Bool :=
  row < maxIndex && flagged.contains (row + 1)

def insert (flagged : FlaggedLines) (line : Nat) : FlaggedLines :=
  ⟨insertAscending line flagged.toList, insertAscending_ascending flagged.ascending⟩

def isNew (line : Nat) : List Nat → Bool
  | [] => true
  | first :: others =>
    if line < first then true else if line = first then false else isNew line others

def flag (flagged : FlaggedLines) (line : Nat) : FlaggedLines × Bool :=
  (flagged.insert line, isNew line flagged.toList)

def extend (flagged : FlaggedLines) (lines : List Nat) : FlaggedLines :=
  lines.foldl insert flagged

def ofList (lines : List Nat) : FlaggedLines :=
  empty.extend lines

def size (flagged : FlaggedLines) : Nat :=
  flagged.toList.length

def isEmpty (flagged : FlaggedLines) : Bool :=
  flagged.toList.isEmpty

def rows (flagged : FlaggedLines) (lineCount : Nat) : List Nat :=
  (flagged.toList.filter (· ≠ 0)).map (· - 1) |>.filter (· < lineCount)

end FlaggedLines

end Highlight
