import Highlight.Proofs.Reach

/-!
How names, decimals and blanks are spelled. A class of characters that a table lists is told apart
from another one by going through the table.
-/

set_option autoImplicit false

namespace Highlight.Text

open Lexeme

/-- What holds of every member of a list can be decided by going through the list. -/
theorem forall_mem_of_all {α : Type} {holds : α → Prop} [DecidablePred holds] {members : List α}
    (all : members.all (holds ·)) : ∀ member ∈ members, holds member := by
  simpa using all

/-! ## Classes of characters -/

section Classes

variable {c : Char}

/-- What holds of all listed code points holds of a character with one of them. -/
theorem holds_of_listed {codes : List Nat} (listed : c.toNat ∈ codes) (holds : Char → Bool)
    (all : codes.all fun code => holds (Char.ofNat code)) : holds c := by
  simpa using List.all_eq_true.mp all c.toNat listed

def blankCodes : List Nat :=
  List.range' 0x9 5 ++ [0x20, 0x85, 0xA0, 0x1680] ++ List.range' 0x2000 11 ++
    [0x2028, 0x2029, 0x202F, 0x205F, 0x3000]

/-- Whether no blank belongs to a class can be decided by going through the blanks. -/
theorem excludes_blank {isMember : Char → Bool} (blank : isBlank c)
    (excluded : blankCodes.all fun code => !isMember (Char.ofNat code)) : isMember c = false := by
  have listed : c.toNat ∈ blankCodes := by
    simp only [isBlank, Bool.or_eq_true, Bool.and_eq_true, decide_eq_true_eq,
      beq_iff_eq] at blank
    simp only [blankCodes, List.mem_append, List.mem_range'_1, List.mem_cons, List.not_mem_nil,
      or_false]
    omega
  simpa using holds_of_listed listed (fun d => !isMember d) excluded

theorem not_isBlank_of_member (isMember : Char → Bool) (member : isMember c)
    (excluded : blankCodes.all fun code => !isMember (Char.ofNat code)) : isBlank c = false := by
  rw [← Bool.not_eq_true]
  intro blank
  simp [excludes_blank blank excluded] at member

theorem holds_of_isAscii (ascii : isAscii c) (holds : Char → Bool)
    (all : (List.range 0x80).all fun code => holds (Char.ofNat code)) : holds c :=
  holds_of_listed (List.mem_range.mpr (by simpa [isAscii] using ascii)) holds all

theorem isAscii_of_isAlpha (letter : c.isAlpha) : isAscii c := by
  have upper (isUpper : c.isUpper) : c.toNat ≤ 90 :=
    UInt32.le_iff_toNat_le.mp (of_decide_eq_true isUpper).2
  have lower (isLower : c.isLower) : c.toNat ≤ 122 :=
    UInt32.le_iff_toNat_le.mp (of_decide_eq_true (Bool.and_eq_true_iff.mp isLower).2)
  simp only [isAscii, decide_eq_true_eq]
  rcases Bool.or_eq_true_iff.mp letter with isUpper | isLower
  · exact Nat.lt_of_le_of_lt (upper isUpper) (by decide)
  · exact Nat.lt_of_le_of_lt (lower isLower) (by decide)

theorem isAscii_of_isDigit (digit : c.isDigit) : isAscii c := by
  have bound : c.toNat ≤ 57 :=
    UInt32.le_iff_toNat_le.mp (of_decide_eq_true (Bool.and_eq_true_iff.mp digit).2)
  simp only [isAscii, decide_eq_true_eq]
  exact Nat.lt_of_le_of_lt bound (by decide)

theorem isWord_of_isAlpha (letter : c.isAlpha) : isWord c := by
  simp [isWord, isAscii_of_isAlpha letter, Char.isAlphanum, letter]

theorem isDecimal_of_isAlpha (letter : c.isAlpha) : isDecimal c = false := by
  have apart := holds_of_isAscii (isAscii_of_isAlpha letter)
    (fun d => !(d.isAlpha && isDecimal d)) (by decide +kernel)
  simpa [letter] using apart

theorem isAscii_of_isHexDigit (digit : isHexDigit c) : isAscii c := by
  simp only [isHexDigit, Bool.or_eq_true, Bool.and_eq_true, decide_eq_true_eq] at digit
  obtain (isDigit | ⟨-, bound⟩) | ⟨-, bound⟩ := digit
  · exact isAscii_of_isDigit isDigit
  · have below : c.toNat ≤ 'f'.toNat := UInt32.le_iff_toNat_le.mp bound
    exact decide_eq_true (Nat.lt_of_le_of_lt below (by decide))
  · have below : c.toNat ≤ 'F'.toNat := UInt32.le_iff_toNat_le.mp bound
    exact decide_eq_true (Nat.lt_of_le_of_lt below (by decide))

theorem isWord_of_isHexDigit (digit : isHexDigit c) : isWord c := by
  have within := holds_of_isAscii (isAscii_of_isHexDigit digit)
    (fun d => !isHexDigit d || isWord d) (by decide +kernel)
  simpa [digit] using within

/-- A member of one class is none of some characters outside of it. -/
theorem not_contains (own : Char → Bool) {marks : List Char} (member : own c)
    (excluded : marks.all fun mark => !own mark) : marks.contains c = false := by
  have absent : c ∉ marks := fun listed => by
    simpa [member] using List.all_eq_true.mp excluded c listed
  simpa using absent

theorem stops_of_excluded (own : Char → Bool) {marks : List Char} (member : own c)
    (excluded : marks.all fun mark => !own mark) (rest : List Char) :
    Stops marks.contains (c :: rest) := by
  have absent := not_contains own member excluded
  simpa [Stops] using absent

end Classes

/-! ## Names -/

/-- A name, given the characters that it may open with and those that it may go on with. -/
def IsName (opens continues : Char → Bool) (text : List Char) : Prop :=
  ∃ c rest, text = c :: rest ∧ opens c ∧ ∀ d ∈ rest, continues d

theorem isName_of_all {opens continues : Char → Bool} {text : List Char}
    (opened : text.head?.any opens) (continued : text.tail.all continues) :
    IsName opens continues text := by
  cases text with
  | nil => contradiction
  | cons c rest => exact ⟨c, rest, rfl, opened, List.all_eq_true.mp continued⟩

theorem reads_name {opens continues : Char → Bool} {name rest : List Char}
    (isName : IsName opens continues name) (stops : Stops continues rest) :
    (one opens ++ many continues).Reads name rest := by
  obtain ⟨c, others, rfl, opened, continued⟩ := isName
  have first : (one opens).Reads [c] (others ++ rest) := reads_one opened _
  exact reads_andThen first (reads_many continued stops)

/-! ## Decimals -/

/-- At least one decimal digit, of any script. -/
def IsDecimals (text : List Char) : Prop :=
  text ≠ [] ∧ ∀ c ∈ text, isDecimal c

/-- The fraction of a number, which may be missing. -/
inductive IsDecimalPart : List Char → Prop
  | missing : IsDecimalPart []
  | present {digits : List Char} : IsDecimals digits → IsDecimalPart ('.' :: digits)

theorem reads_decimalPart {fraction rest : List Char} (isFraction : IsDecimalPart fraction)
    (noPoint : Stops (· == '.') rest) (noDigit : Stops isDecimal rest) :
    (optional (char '.' ++ run isDecimal)).Reads fraction rest := by
  cases isFraction with
  | missing => exact reads_optional_of_misses (misses_andThen (misses_one noPoint) _)
  | @present digits isDecimals =>
    have point : (char '.').Reads ['.'] (digits ++ rest) := reads_one rfl _
    have digitsRead : (run isDecimal).Reads digits rest :=
      reads_run isDecimals.1 isDecimals.2 noDigit
    exact reads_optional (reads_andThen point digitsRead)

end Highlight.Text
