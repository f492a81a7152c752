import Mathlib.Data.List.Sort
import Mathlib.Data.Set.Card
import Highlight.Proofs.Json.Naturals
import Highlight.Stored

/-!
Flagged lines under any operations. An operation adds lines, and it may replace all that were there
before. So a line is flagged when an operation has added it that no later one has replaced, however
often and in whatever order the lines were given.
-/

set_option autoImplicit false

namespace Highlight

namespace FlaggedLines

variable {flagged : FlaggedLines} {line : Nat}

/-- Sets with the same lines are the same, as the lines are in order. -/
theorem eq_of_mem_iff {first second : FlaggedLines}
    (same : ∀ line, line ∈ first.toList ↔ line ∈ second.toList) : first = second := by
  have lists : first.toList = second.toList := first.ascending.eq_of_mem_iff second.ascending same
  cases first
  cases second
  simpa using lists

/-! ## Single steps -/

theorem isNew_iff {lines : List Nat} (ascending : lines.Pairwise (· < ·)) :
    isNew line lines ↔ line ∉ lines := by
  induction lines with
  | nil => simp [isNew]
  | cons first others inductionHypothesis =>
    have ⟨firstLess, othersAscending⟩ := List.pairwise_cons.mp ascending
    rw [isNew, List.mem_cons, not_or]
    split
    · next less =>
      have absent : line ∉ others := fun member => by
        have := firstLess line member
        omega
      simp [absent, Nat.ne_of_lt less]
    split
    · next same => simp [same]
    · next other => simp [other, inductionHypothesis othersAscending]

theorem mem_insert {other : Nat} :
    other ∈ (flagged.insert line).toList ↔ other = line ∨ other ∈ flagged.toList :=
  mem_insertAscending

theorem mem_extend {lines : List Nat} :
    line ∈ (flagged.extend lines).toList ↔ line ∈ lines ∨ line ∈ flagged.toList := by
  rw [extend]
  induction lines generalizing flagged with
  | nil => simp
  | cons first others inductionHypothesis =>
    rw [List.foldl_cons, inductionHypothesis, mem_insert, List.mem_cons]
    tauto

theorem mem_ofList {lines : List Nat} : line ∈ (ofList lines).toList ↔ line ∈ lines := by
  rw [ofList, mem_extend]
  simp [empty]

theorem ofList_toList (flagged : FlaggedLines) : ofList flagged.toList = flagged :=
  eq_of_mem_iff fun _ => mem_ofList

/-! ## Stored texts -/

/-- A text is JSON, namely an array of these natural numbers. -/
def Lists (text : String) (lines : List Nat) : Prop :=
  Json.parse text = .ok (.array (lines.map Json.natural))

theorem ofStoredText_eq_ok_iff {text : String} :
    ofStoredText text = .ok flagged ↔ ∃ lines, Lists text lines ∧ ofList lines = flagged := by
  simp only [Lists, ← Json.readAll_indices_iff]
  rw [ofStoredText]
  cases Json.readAll (Json.Decoder.listOf Json.Decoder.index) text with
  | ok lines => simp [Except.map]
  | error failure => simp [Except.map]

theorem Lists.unique {text : String} {lines others : List Nat} (listed : Lists text lines)
    (also : Lists text others) : others = lines := by
  rw [Lists, ← Json.readAll_indices_iff] at listed also
  exact Except.ok.inj (also.symm.trans listed)

theorem Lists.le_maxWord {text : String} {lines : List Nat} (listed : Lists text lines)
    (member : line ∈ lines) : line ≤ Json.maxWord :=
  Json.le_maxWord_of_parse listed (List.mem_map_of_mem member)

theorem ofStoredText_storedText (words : ∀ line ∈ flagged.toList, line ≤ Json.maxWord) :
    ofStoredText flagged.storedText = .ok flagged := by
  have text : flagged.storedText.toList = Json.Spacing.tight.enclose '[' ']'
      (flagged.toList.map fun line => (toString line).toList) := by
    rw [storedText, toJson, Json.toList_compact_array, List.map_map]
    rfl
  have reads : Json.ReadsAs (Json.Decoder.listOf Json.Decoder.index) flagged.storedText.toList
      flagged.toList := by
    rw [text]
    exact .listOf .tight fun line member => .index (words line member)
  rw [ofStoredText, reads.readAll]
  exact congrArg Except.ok flagged.ofList_toList

/-! ## Operations -/

/-- What can be done with a set of flagged lines. -/
inductive Operation where
  | insert (line : UInt64)
  | extend (lines : List UInt64)
  /-- Makes a new set of some lines. -/
  | collect (lines : List UInt64)
  | clear
  /-- Reads a new set from a stored text. -/
  | read (text : String)

namespace Operation

/-- The set after an operation. A text that cannot be read leaves the set as it is. -/
def apply : Operation → FlaggedLines → FlaggedLines
  | insert line, flagged => (flagged.flag line.toNat).1
  | extend lines, flagged => flagged.extend (lines.map UInt64.toNat)
  | collect lines, _ => ofList (lines.map UInt64.toNat)
  | clear, _ => empty
  | read text, flagged =>
    match ofStoredText text with
    | .ok replacement => replacement
    | .error _ => flagged

/-- Is a line among those that an operation comes with? -/
def Adds (line : Nat) : Operation → Prop
  | insert added => line = added.toNat
  | extend lines => ∃ added ∈ lines, line = added.toNat
  | collect lines => ∃ added ∈ lines, line = added.toNat
  | clear => False
  | read text => ∃ lines, Lists text lines ∧ line ∈ lines

/-- Does an operation drop the lines that were there before? -/
def Replaces : Operation → Prop
  | insert _ => False
  | extend _ => False
  | collect _ => True
  | clear => True
  | read text => ∃ lines, Lists text lines

end Operation

theorem mem_apply {operation : Operation} :
    line ∈ (operation.apply flagged).toList ↔
      operation.Adds line ∨ ¬operation.Replaces ∧ line ∈ flagged.toList := by
  have mem_map {lines : List UInt64} :
      line ∈ lines.map UInt64.toNat ↔ ∃ added ∈ lines, line = added.toNat := by
    simp only [List.mem_map, eq_comm]
  cases operation with
  | insert added =>
    rw [Operation.apply, flag, mem_insert]
    simp [Operation.Adds, Operation.Replaces]
  | extend lines =>
    rw [Operation.apply, mem_extend, mem_map]
    simp [Operation.Adds, Operation.Replaces]
  | collect lines =>
    rw [Operation.apply, mem_ofList, mem_map]
    simp [Operation.Adds, Operation.Replaces]
  | clear => simp [Operation.apply, Operation.Adds, Operation.Replaces, empty]
  | read text =>
    rw [Operation.apply, Operation.Adds, Operation.Replaces]
    cases found : ofStoredText text with
    | ok replacement =>
      obtain ⟨lines, listed, rfl⟩ := ofStoredText_eq_ok_iff.mp found
      have only {others : List Nat} : Lists text others ↔ others = lines :=
        ⟨listed.unique, fun same => same ▸ listed⟩
      simp [only, mem_ofList]
    | error failure =>
      -- A text that lists numbers would have been read.
      have none (lines : List Nat) : ¬Lists text lines := fun listed => by
        have read := ofStoredText_eq_ok_iff.mpr ⟨lines, listed, rfl⟩
        rw [read] at found
        contradiction
      simp [none]

theorem Operation.Adds.le_maxWord {operation : Operation} (adds : operation.Adds line) :
    line ≤ Json.maxWord := by
  have fits (word : UInt64) : word.toNat ≤ Json.maxWord := Nat.le_of_lt_succ word.toNat_lt
  cases operation with
  | insert added =>
    obtain rfl : line = added.toNat := adds
    exact fits added
  | extend lines =>
    obtain ⟨added, -, rfl⟩ := adds
    exact fits added
  | collect lines =>
    obtain ⟨added, -, rfl⟩ := adds
    exact fits added
  | clear => exact absurd adds id
  | read text =>
    obtain ⟨lines, listed, member⟩ := adds
    exact listed.le_maxWord member

/-! ## Runs -/

/-- The set after some operations, of which the first starts from no lines. -/
def run (operations : List Operation) : FlaggedLines :=
  operations.foldl (fun flagged operation => operation.apply flagged) empty

/-- The lines that were added since lines were last replaced, or then. -/
def added (operations : List Operation) : Set Nat :=
  {line | ∃ before operation after, operations = before ++ operation :: after ∧
    operation.Adds line ∧ ∀ later ∈ after, ¬later.Replaces}

theorem mem_added_concat {operations : List Operation} {operation : Operation} :
    line ∈ added (operations ++ [operation]) ↔
      operation.Adds line ∨ ¬operation.Replaces ∧ line ∈ added operations := by
  constructor
  · rintro ⟨before, adding, after, split, adds, kept⟩
    rcases after.eq_nil_or_concat with rfl | ⟨after, last, rfl⟩
    · obtain ⟨-, same⟩ := List.append_inj' split rfl
      obtain rfl := List.singleton_inj.mp same
      exact .inl adds
    · rw [List.concat_eq_append, ← List.cons_append, ← List.append_assoc] at split
      obtain ⟨rfl, same⟩ := List.append_inj' split rfl
      obtain rfl := List.singleton_inj.mp same
      refine .inr ⟨kept _ (by simp), before, adding, after, rfl, adds, ?_⟩
      exact fun later isLater => kept later (by simp [isLater])
  · rintro (adds | ⟨keeps, before, adding, after, rfl, adds, kept⟩)
    · exact ⟨operations, operation, [], rfl, adds, by simp⟩
    · refine ⟨before, adding, after ++ [operation], by simp, adds, ?_⟩
      exact List.forall_mem_append.mpr ⟨kept, List.forall_mem_singleton.mpr keeps⟩

theorem mem_run {operations : List Operation} :
    line ∈ (run operations).toList ↔ line ∈ added operations := by
  induction operations using List.reverseRecOn with
  | nil => simp [run, empty, added]
  | append_singleton operations operation inductionHypothesis =>
    rw [mem_added_concat, ← inductionHypothesis, run, List.foldl_append]
    exact mem_apply

theorem le_maxWord_of_mem_run {operations : List Operation}
    (member : line ∈ (run operations).toList) : line ≤ Json.maxWord := by
  obtain ⟨-, operation, -, -, adds, -⟩ := mem_run.mp member
  exact adds.le_maxWord

theorem coe_toFinset_run (operations : List Operation) :
    ((run operations).toList.toFinset : Set Nat) = added operations := by
  ext line
  rw [Finset.mem_coe, List.mem_toFinset, mem_run]

theorem finite_added (operations : List Operation) : (added operations).Finite := by
  rw [← coe_toFinset_run]
  exact Finset.finite_toSet _

theorem size_run (operations : List Operation) :
    (run operations).size = (added operations).ncard := by
  have distinct : (run operations).toList.Nodup := (run operations).ascending.imp Nat.ne_of_lt
  rw [← coe_toFinset_run, Set.ncard_coe_finset, List.toFinset_card_of_nodup distinct]
  rfl

theorem isEmpty_run_iff {operations : List Operation} :
    (run operations).isEmpty ↔ added operations = ∅ := by
  rw [Set.eq_empty_iff_forall_notMem]
  simp only [← mem_run]
  rw [FlaggedLines.isEmpty, List.isEmpty_iff, List.eq_nil_iff_forall_not_mem]

theorem contains_iff : flagged.contains line ↔ line ∈ flagged.toList := by
  rw [contains, List.contains_iff_mem]

/-- The row before a line is flagged with it, unless that line has no number. -/
theorem containsRow_iff_contains {row : Nat} :
    flagged.containsRow row ↔ row + 1 < UInt64.size ∧ flagged.contains (row + 1) := by
  have inWord : row < maxIndex ↔ row + 1 < UInt64.size := by
    unfold maxIndex UInt64.size
    omega
  rw [containsRow, Bool.and_eq_true, decide_eq_true_iff, inWord]

end FlaggedLines

open FlaggedLines in
/-- After any operations the set holds just the lines that were added since the lines were last
replaced or cleared: it lists them strictly ascending, tells of a line that is flagged whether it is
a new one, counts the lines, and knows which of them it has. A row is flagged when there is a number
of a line for it and this line is flagged. All lines are words of 64 bits, and the set is read back
from its text. -/
theorem flagged_lines_follow_operations (operations : List Operation) :
    let flagged := run operations
    let lines := added operations
    flagged.toList.Pairwise (· < ·) ∧
      (∀ line, line ∈ flagged.toList ↔ line ∈ lines) ∧
      (∀ line, (flagged.flag line).2 ↔ line ∉ lines) ∧
      (lines.Finite ∧ flagged.size = lines.ncard) ∧
      (flagged.isEmpty ↔ lines = ∅) ∧
      (∀ line, flagged.contains line ↔ line ∈ lines) ∧
      (∀ row, flagged.containsRow row ↔
        row + 1 < UInt64.size ∧ flagged.contains (row + 1)) ∧
      (∀ line ∈ flagged.toList, line < UInt64.size) ∧
      ofStoredText flagged.storedText = .ok flagged := by
  intro flagged lines
  have members (line : Nat) : line ∈ flagged.toList ↔ line ∈ lines := mem_run
  have words : ∀ line ∈ flagged.toList, line ≤ Json.maxWord := fun _ => le_maxWord_of_mem_run
  refine ⟨flagged.ascending, members, fun line => ?_,
    ⟨finite_added operations, size_run operations⟩, isEmpty_run_iff, fun line => ?_,
    fun row => containsRow_iff_contains, fun line member => ?_, ofStoredText_storedText words⟩
  · rw [← members]
    exact isNew_iff flagged.ascending
  · rw [← members]
    exact contains_iff
  · exact Nat.lt_succ_of_le (words line member)

open FlaggedLines in
example : (run [.insert 9, .read "[4, 1, 18446744073709551615]", .read "[3, 18446744073709551616]",
    .extend [2, 1]]).toList = [1, 2, 4, 18446744073709551615] := by
  decide +kernel

end Highlight
