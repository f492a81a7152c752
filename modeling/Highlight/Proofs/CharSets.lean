import Mathlib.Data.List.TakeWhile
import Highlight.Proofs.Spelling

/-!
Tables of characters. The search in a table counts the edges at or below a code point, so a
character belongs to the set when it lies in one of the stretches between an edge of odd and one of
even place. Two tables have no character in common when no stretch of the one reaches into a
stretch of the other, and that is found out by going through both once. One holds all characters of
the other when each stretch of that lies in one of its own.
-/

set_option autoImplicit false

namespace Highlight.Text

namespace CharSet

/-! ## Members -/

/-- Do the edges ascend, and does each stretch come to an end? -/
structure Regular (set : CharSet) : Prop where
  ascends : set.edges.toList.IsChain (· < ·)
  closes : set.edges.toList.length % 2 = 0

instance (set : CharSet) : Decidable set.Regular :=
  decidable_of_iff (set.edges.toList.IsChain (· < ·) ∧ set.edges.toList.length % 2 = 0)
    ⟨fun ⟨ascends, closes⟩ => ⟨ascends, closes⟩, fun regular => ⟨regular.ascends, regular.closes⟩⟩

/-- In a list that ascends, the elements up to a bound are those before a place. -/
theorem getElem_le_iff {edges : List Nat} (ascends : edges.Pairwise (· < ·)) (code : Nat)
    {place : Nat} (inside : place < edges.length) :
    edges[place] ≤ code ↔ place < edges.countP (· ≤ code) := by
  induction edges generalizing place with
  | nil => simp at inside
  | cons edge edges inductionHypothesis =>
    obtain ⟨first, others⟩ := List.pairwise_cons.mp ascends
    by_cases below : edge ≤ code
    · cases place with
      | zero => simp [below]
      | succ place =>
        rw [List.getElem_cons_succ, inductionHypothesis others (by simpa using inside)]
        simp [below]
    · have none : edges.countP (· ≤ code) = 0 := by
        rw [List.countP_eq_zero]
        intro later member
        have above := first later member
        simp only [decide_eq_true_eq]
        omega
      have above : ¬(edge :: edges)[place] ≤ code := by
        cases place with
        | zero => exact below
        | succ place =>
          have later := first _ (List.getElem_mem (by simpa using inside : place < edges.length))
          rw [List.getElem_cons_succ]
          omega
      simp [below, none, above]

/-- The search ends at the number of the edges at or below the code point. -/
theorem edgesUpTo_eq {edges : Array Nat} (ascends : edges.toList.Pairwise (· < ·)) {code : Nat}
    {low high : Nat} (known : low ≤ edges.toList.countP (· ≤ code))
    (bound : edges.toList.countP (· ≤ code) ≤ high) (fits : high ≤ edges.size) :
    edgesUpTo edges code low high = edges.toList.countP (· ≤ code) := by
  have decided : ∀ middle, middle < edges.size →
      (edges.getD middle 0 ≤ code ↔ middle < edges.toList.countP (· ≤ code)) := by
    intro middle inside
    have inList : middle < edges.toList.length := by simpa using inside
    rw [← getElem_le_iff ascends code inList]
    simp [Array.getD, inside]
  fun_induction edgesUpTo edges code low high with
  | case1 low high open_ middle below inductionHypothesis =>
    have passed := (decided middle (by omega)).mp below
    exact inductionHypothesis (by omega) bound fits
  | case2 low high open_ middle above inductionHypothesis =>
    have left := mt (decided middle (by omega)).mpr above
    exact inductionHypothesis known (by omega) (by omega)
  | case3 low high closed => omega

/-- The stretches of code points between edges, each with its first code point and the one behind
its last. -/
def stretches : List Nat → List (Nat × Nat)
  | first :: behind :: edges => (first, behind) :: stretches edges
  | _ => []

/-- Does a code point lie in one of some stretches? -/
def Within (code : Nat) (stretches : List (Nat × Nat)) : Prop :=
  ∃ stretch ∈ stretches, stretch.1 ≤ code ∧ code < stretch.2

theorem fst_mem_of_mem_stretches {edges : List Nat} {stretch : Nat × Nat}
    (listed : stretch ∈ stretches edges) : stretch.1 ∈ edges := by
  fun_induction stretches edges with
  | case1 first behind edges inductionHypothesis =>
    rcases List.mem_cons.mp listed with rfl | later
    · simp
    · simp [inductionHypothesis later]
  | case2 => simp at listed

/-- The code points with an odd number of edges at or below them are those in the stretches. -/
theorem within_stretches_iff {edges : List Nat} (ascends : edges.Pairwise (· < ·))
    (closes : edges.length % 2 = 0) (code : Nat) :
    Within code (stretches edges) ↔ edges.countP (· ≤ code) % 2 = 1 := by
  fun_induction stretches edges with
  | case1 first behind edges inductionHypothesis =>
    obtain ⟨atFirst, others⟩ := List.pairwise_cons.mp ascends
    obtain ⟨atBehind, later⟩ := List.pairwise_cons.mp others
    have ordered := atFirst behind (by simp)
    have inner := inductionHypothesis later (by simp at closes; omega)
    have split : Within code ((first, behind) :: stretches edges) ↔
        first ≤ code ∧ code < behind ∨ Within code (stretches edges) := by
      simp [Within]
    rw [split, inner]
    -- Behind the stretch both of its edges count, and before its end no later one does.
    by_cases reached : behind ≤ code
    · have passed : first ≤ code := by omega
      have outside : ¬code < behind := by omega
      simp [reached, passed, outside]
      omega
    · have nothing : edges.countP (· ≤ code) = 0 := by
        rw [List.countP_eq_zero]
        intro edge member
        have above := atBehind edge member
        simp only [decide_eq_true_eq]
        omega
      by_cases passed : first ≤ code
      · simp [reached, passed, nothing]
        omega
      · simp [reached, passed, nothing]
  | case2 edges single =>
    have empty : edges = [] := by
      cases edges with
      | nil => rfl
      | cons first edges =>
        cases edges with
        | nil => simp at closes
        | cons behind edges => exact (single first behind edges rfl).elim
    simp [empty, Within]

theorem contains_iff {set : CharSet} (regular : set.Regular) (c : Char) :
    set.contains c ↔ Within c.toNat (stretches set.edges.toList) := by
  have ascends := List.isChain_iff_pairwise.mp regular.ascends
  have bound : set.edges.toList.countP (· ≤ c.toNat) ≤ set.edges.size := by
    rw [← Array.length_toList]
    exact List.countP_le_length
  have counted : edgesUpTo set.edges c.toNat 0 set.edges.size =
      set.edges.toList.countP (· ≤ c.toNat) :=
    edgesUpTo_eq ascends (Nat.zero_le _) bound (Nat.le_refl _)
  rw [within_stretches_iff ascends regular.closes, contains, counted, beq_iff_eq]

/-! ## Tables without common characters -/

/-- Does no stretch of the second list reach into one of the first? -/
def apart : List (Nat × Nat) → List (Nat × Nat) → Bool
  | [], _ => true
  | (first, behind) :: stretches, others =>
    let left := others.dropWhile (·.2 ≤ first)
    left.head?.all (behind ≤ ·.1) && apart stretches left

theorem stretches_ascend {edges : List Nat} (ascends : edges.Pairwise (· < ·)) :
    (stretches edges).Pairwise fun one other => one.1 ≤ other.1 ∧ one.2 ≤ other.1 := by
  fun_induction stretches edges with
  | case1 first behind edges inductionHypothesis =>
    obtain ⟨atFirst, others⟩ := List.pairwise_cons.mp ascends
    obtain ⟨atBehind, later⟩ := List.pairwise_cons.mp others
    refine List.pairwise_cons.mpr ⟨fun stretch listed => ?_, inductionHypothesis later⟩
    have member := fst_mem_of_mem_stretches listed
    have beyond := atBehind stretch.1 member
    have ordered := atFirst behind (by simp)
    constructor <;> simp only <;> omega
  | case2 => exact .nil

theorem not_within_of_apart {one other : List (Nat × Nat)}
    (oneAscends : one.Pairwise fun first second => first.1 ≤ second.1 ∧ first.2 ≤ second.1)
    (otherAscends : other.Pairwise fun first second => first.1 ≤ second.1 ∧ first.2 ≤ second.1)
    (areApart : apart one other) {code : Nat} (within : Within code one) :
    ¬Within code other := by
  rintro ⟨stretch, listed, starts, ends⟩
  induction one generalizing other with
  | nil => simp [Within] at within
  | cons head one inductionHypothesis =>
    obtain ⟨first, behind⟩ := head
    obtain ⟨atHead, later⟩ := List.pairwise_cons.mp oneAscends
    simp only [apart, Bool.and_eq_true] at areApart
    obtain ⟨headApart, othersApart⟩ := areApart
    -- Stretches that end before the first one starts lie before all of them.
    have reached : first ≤ code := by
      obtain ⟨own, member, below, -⟩ := within
      rcases List.mem_cons.mp member with rfl | behindHead
      · exact below
      · exact (atHead own behindHead).1.trans below
    have left : stretch ∈ other.dropWhile (·.2 ≤ first) := by
      rw [← List.takeWhile_append_dropWhile (p := (·.2 ≤ first)) (l := other),
        List.mem_append] at listed
      refine listed.resolve_left fun passed => ?_
      have behindIt := List.mem_takeWhile_imp passed
      simp only [decide_eq_true_eq] at behindIt
      omega
    have leftAscends := otherAscends.sublist (List.dropWhile_sublist (·.2 ≤ first))
    obtain ⟨own, member, below, above⟩ := within
    rcases List.mem_cons.mp member with rfl | behindHead
    · cases remaining : other.dropWhile (·.2 ≤ first) with
      | nil => simp [remaining] at left
      | cons next others =>
        rw [remaining] at left headApart leftAscends
        have nextBeyond : behind ≤ next.1 := by simpa using headApart
        have beyond : next.1 ≤ stretch.1 := by
          rcases List.mem_cons.mp left with rfl | further
          · exact Nat.le_refl _
          · exact ((List.pairwise_cons.mp leftAscends).1 stretch further).1
        simp only at above
        omega
    · exact inductionHypothesis later leftAscends othersApart ⟨own, behindHead, below, above⟩ left

theorem not_contains_of_apart {one other : CharSet} (oneRegular : one.Regular)
    (otherRegular : other.Regular)
    (areApart : apart (stretches one.edges.toList) (stretches other.edges.toList)) {c : Char}
    (member : one.contains c) : other.contains c = false := by
  have oneAscends := stretches_ascend (List.isChain_iff_pairwise.mp oneRegular.ascends)
  have otherAscends := stretches_ascend (List.isChain_iff_pairwise.mp otherRegular.ascends)
  have within := (contains_iff oneRegular c).mp member
  have outside := not_within_of_apart oneAscends otherAscends areApart within
  rwa [← contains_iff otherRegular c, Bool.not_eq_true] at outside

/-! ## Sets within one another -/

/-- Does each stretch of the first list lie in the first one of the second that ends behind its
start? -/
def covered : List (Nat × Nat) → List (Nat × Nat) → Bool
  | [], _ => true
  | (first, behind) :: stretches, others =>
    let left := others.dropWhile (·.2 ≤ first)
    (left.head?.any fun cover => cover.1 ≤ first && behind ≤ cover.2) && covered stretches left

theorem within_of_covered {one other : List (Nat × Nat)} (isCovered : covered one other)
    {code : Nat} (within : Within code one) : Within code other := by
  induction one generalizing other with
  | nil => simp [Within] at within
  | cons head one inductionHypothesis =>
    obtain ⟨first, behind⟩ := head
    simp only [covered, Bool.and_eq_true] at isCovered
    obtain ⟨headCovered, othersCovered⟩ := isCovered
    have sublist := List.dropWhile_sublist (l := other) (·.2 ≤ first)
    obtain ⟨own, member, starts, ends⟩ := within
    rcases List.mem_cons.mp member with rfl | behindHead
    · cases left : other.dropWhile (·.2 ≤ first) with
      | nil => simp [left] at headCovered
      | cons cover others =>
        have bounds : cover.1 ≤ first ∧ behind ≤ cover.2 := by simpa [left] using headCovered
        have listed : cover ∈ other := sublist.subset (by simp [left])
        exact ⟨cover, listed, bounds.1.trans starts, ends.trans_le bounds.2⟩
    · obtain ⟨cover, listed, bounds⟩ := inductionHypothesis othersCovered
        ⟨own, behindHead, starts, ends⟩
      exact ⟨cover, sublist.subset listed, bounds⟩

theorem contains_of_covered {one other : CharSet} (oneRegular : one.Regular)
    (otherRegular : other.Regular)
    (isCovered : covered (stretches one.edges.toList) (stretches other.edges.toList)) {c : Char}
    (member : one.contains c) : other.contains c :=
  (contains_iff otherRegular c).mpr
    (within_of_covered isCovered ((contains_iff oneRegular c).mp member))

end CharSet

/-! ## Letters -/

theorem uppercaseLetters_regular : uppercaseLetters.Regular := by
  decide +kernel

theorem lowercaseLetters_regular : lowercaseLetters.Regular := by
  decide +kernel

/-- No letter is both an uppercase and a lowercase one. -/
theorem isLowercase_of_isUppercase {c : Char} (upper : isUppercase c) : isLowercase c = false := by
  by_cases ascii : isAscii c
  · have apart := holds_of_isAscii ascii (fun d => !(isUppercase d && isLowercase d))
      (by decide +kernel)
    simpa [upper] using apart
  · have areApart : CharSet.apart (CharSet.stretches uppercaseLetters.edges.toList)
        (CharSet.stretches lowercaseLetters.edges.toList) := by decide +kernel
    simp only [isUppercase, ascii, Bool.false_eq_true, ↓reduceIte] at upper
    simp only [isLowercase, ascii, Bool.false_eq_true, ↓reduceIte]
    exact CharSet.not_contains_of_apart uppercaseLetters_regular lowercaseLetters_regular areApart
      upper

/-! ## Digits -/

theorem decimalDigits_regular : decimalDigits.Regular := by
  decide +kernel

theorem wordCharacters_regular : wordCharacters.Regular := by
  decide +kernel

theorem isWord_of_isDecimal {c : Char} (digit : isDecimal c) : isWord c := by
  by_cases ascii : isAscii c
  · have within := holds_of_isAscii ascii (fun d => !isDecimal d || isWord d) (by decide +kernel)
    simpa [digit] using within
  · have isCovered : CharSet.covered (CharSet.stretches decimalDigits.edges.toList)
        (CharSet.stretches wordCharacters.edges.toList) := by decide +kernel
    simp only [isDecimal, ascii, Bool.false_eq_true, ↓reduceIte] at digit
    simp only [isWord, ascii, Bool.false_eq_true, ↓reduceIte]
    exact CharSet.contains_of_covered decimalDigits_regular wordCharacters_regular isCovered digit

end Highlight.Text
