import Highlight.Proofs.Json.Enclosed

/-!
Natural numbers in texts of JSON. A number that fits a word is read back from its numeral, the
greatest as well as any other, and nothing is read as a greater natural number. Lists of natural
numbers are read in two ways, by a reader that takes nothing else and by the reader of all values;
both accept the same texts and find the same numbers in them.
-/

set_option autoImplicit false

namespace Highlight.Json

open Cursor (isSpace)

/-! ## Digits -/

theorem le_ofDigitChars (digits : List Char) (initial : Nat) :
    initial ≤ Nat.ofDigitChars 10 digits initial := by
  rw [Nat.ofDigitChars_eq_ofDigitChars_zero]
  have positive : 0 < 10 ^ digits.length := Nat.pow_pos (by decide)
  exact Nat.le_trans (Nat.le_mul_of_pos_left initial positive) (Nat.le_add_right _ _)

/-- The digits of a number that fits a word are all taken. -/
theorem appendDigits_of_fits {digits : List Char} {significand : Nat}
    (fits : Nat.ofDigitChars 10 digits significand ≤ maxWord) :
    appendDigits significand digits = (Nat.ofDigitChars 10 digits significand, []) := by
  induction digits generalizing significand with
  | nil => rfl
  | cons c others inductionHypothesis =>
    have longer : 10 * significand + (c.toNat - '0'.toNat) = significand * 10 + digitValue c := by
      rw [Nat.mul_comm, digitValue]
    rw [Nat.ofDigitChars_cons, longer] at fits ⊢
    rw [appendDigits, if_pos ((le_ofDigitChars others _).trans fits)]
    exact inductionHypothesis fits

theorem appendDigits_le {digits : List Char} {significand : Nat} (fits : significand ≤ maxWord) :
    (appendDigits significand digits).1 ≤ maxWord := by
  induction digits generalizing significand with
  | nil => exact fits
  | cons c others inductionHypothesis =>
    rw [appendDigits]
    split
    · next longerFits => exact inductionHypothesis longerFits
    · exact fits

/-! ## Numerals -/

namespace Cursor

variable {cursor after : Cursor} {isNegative : Bool} {significand number : Nat} {exponent : Int}

theorem fractional_ne_natural :
    cursor.fractional isNegative significand exponent ≠ .ok (.natural number, after) := by
  unfold fractional
  split <;> simp

theorem exponentPart_ne_natural :
    cursor.exponentPart isNegative significand exponent ≠ .ok (.natural number, after) := by
  unfold exponentPart
  dsimp only
  generalize (if cursor.advance.nextIs fun c => c == '+' || c == '-' then cursor.advance.advance
    else cursor.advance) = start
  split
  · simp
  split
  · simp
  split
  · exact fractional_ne_natural
  · split <;> simp

theorem fractionPart_ne_natural :
    cursor.fractionPart isNegative significand exponent ≠ .ok (.natural number, after) := by
  unfold fractionPart
  dsimp only
  split
  · simp
  split
  · exact exponentPart_ne_natural
  · exact fractional_ne_natural

/-- A natural number has all the digits that have been read. -/
theorem natural_of_afterInteger {dropped : Nat}
    (read : cursor.afterInteger isNegative significand dropped = .ok (.natural number, after)) :
    number = significand := by
  unfold afterInteger at read
  split at read
  · exact absurd read fractionPart_ne_natural
  split at read
  · exact absurd read exponentPart_ne_natural
  split at read
  · have whole : integer isNegative significand = .natural number :=
      (Prod.mk.inj (Except.ok.inj read)).1
    unfold integer at whole
    split at whole
    · exact (Numeral.natural.inj whole).symm
    split at whole <;> contradiction
  · exact absurd read fractional_ne_natural

theorem natural_of_numeral (read : cursor.numeral isNegative = .ok (.natural number, after)) :
    number ≤ maxWord := by
  unfold Cursor.numeral at read
  split at read
  · simp at read
  split at read
  · split at read
    · simp at read
    · rw [natural_of_afterInteger read]
      exact Nat.zero_le _
  split at read
  · rw [natural_of_afterInteger read]
    exact appendDigits_le (Nat.zero_le _)
  · simp at read

theorem natural_of_signedNumeral (read : cursor.signedNumeral = .ok (.natural number, after)) :
    number ≤ maxWord := by
  unfold signedNumeral at read
  split at read
  · exact natural_of_numeral read
  · exact natural_of_numeral read

theorem afterInteger_of_end (atEnd : cursor.rest = []) :
    cursor.afterInteger false significand 0 = .ok (.natural significand, cursor) := by
  simp [afterInteger, nextIs, atEnd, integer]

/-- The numeral of a number that fits a word is read to its end as this number. -/
theorem signedNumeral_toString (fits : number ≤ maxWord) :
    ∃ after, (start (toString number).toList).signedNumeral = .ok (.natural number, after) ∧
      after.rest = [] := by
  -- Zero is read on its own, as no other numeral may begin with its digit.
  rcases Nat.eq_zero_or_pos number with rfl | positive
  · exact ⟨_, rfl, rfl⟩
  have areDigits : ∀ c ∈ (toString number).toList, c.isDigit := fun c => isDigit_of_mem_toString
  have notZero := head?_toString_ne_zero positive
  have number_eq := ofDigitChars_toString number
  obtain ⟨c, rest, text_eq⟩ := List.exists_cons_of_ne_nil (toList_toString_ne_nil number)
  rw [text_eq] at areDigits notZero number_eq ⊢
  have isDigit : c.isDigit := areDigits c List.mem_cons_self
  have noSign : (c == '-') = false := by
    rw [beq_eq_false_iff_ne]
    rintro rfl
    contradiction
  have notZeroDigit : (c == '0') = false := by
    rw [beq_eq_false_iff_ne]
    rintro rfl
    exact notZero rfl
  have run : (start (c :: rest)).digits = c :: rest := List.takeWhile_eq_self_iff.mpr areDigits
  have taken : appendDigits 0 (c :: rest) = (number, []) := by
    rw [appendDigits_of_fits (by rwa [number_eq]), number_eq]
  have ended : ((start (c :: rest)).advanceBy (c :: rest).length).rest = [] := by
    rw [rest_advanceBy]
    exact List.drop_length
  refine ⟨(start (c :: rest)).advanceBy (c :: rest).length, ?_, ended⟩
  calc (start (c :: rest)).signedNumeral
      = (start (c :: rest)).numeral false := by simp [signedNumeral, nextIs, start, noSign]
    _ = ((start (c :: rest)).advanceBy (c :: rest).length).afterInteger false number 0 := by
      change (if c == '0' then _ else if c.isDigit then _ else _) = _
      rw [if_neg (by simp [notZeroDigit]), if_pos isDigit, run]
      dsimp only
      rw [taken]
      rfl
    _ = .ok (.natural number, (start (c :: rest)).advanceBy (c :: rest).length) :=
      afterInteger_of_end ended

end Cursor

theorem ReadsAs.index {number : Nat} (fits : number ≤ maxWord) :
    ReadsAs Decoder.index (toString number).toList number := by
  obtain ⟨after, read, atEnd⟩ := Cursor.signedNumeral_toString fits
  obtain ⟨c, rest, text_eq⟩ := List.exists_cons_of_ne_nil (toList_toString_ne_nil number)
  have starts : c == '-' || c.isDigit := by
    have isDigit : c.isDigit := isDigit_of_mem_toString (text_eq ▸ List.mem_cons_self)
    simp [isDigit]
  rw [text_eq] at read ⊢
  exact numeric starts rfl read atEnd rfl

/-! ## Readers that agree -/

/-- One reader reads just what another reads as an image of its values. -/
def Agrees {α β : Type} (embed : α → β) (narrow : Decoder α) (wide : Decoder β) : Prop :=
  ∀ cursor value after,
    narrow cursor = .ok (value, after) ↔ wide cursor = .ok (embed value, after)

namespace Cursor

variable {Item : Type} {read : Cursor → Outcome Item} {fuel : Nat} {newestFirst found : List Item}
  {cursor last : Cursor}

theorem subset_of_items (passed : items read fuel newestFirst cursor = .ok (found, last)) :
    newestFirst ⊆ found := by
  induction fuel generalizing newestFirst cursor with
  | zero => simp [items] at passed
  | succ fuel inductionHypothesis =>
    rcases items_succ_iff.mp passed with ⟨-, -, rfl, -⟩ | ⟨-, item, after, -, -, -, further⟩
    · exact fun _ => List.mem_reverse.mpr
    · exact List.Subset.trans (List.subset_cons_self item newestFirst) (inductionHypothesis further)

theorem forall_of_items {property : Item → Prop}
    (each : ∀ {start item after}, read start = .ok (item, after) → property item)
    (passed : items read fuel newestFirst cursor = .ok (found, last))
    (before : ∀ item ∈ newestFirst, property item) : ∀ item ∈ found, property item := by
  induction fuel generalizing newestFirst cursor with
  | zero => simp [items] at passed
  | succ fuel inductionHypothesis =>
    rcases items_succ_iff.mp passed with
      ⟨-, -, rfl, -⟩ | ⟨start, item, after, -, -, itemRead, further⟩
    · exact fun item member => before item (List.mem_reverse.mp member)
    · exact inductionHypothesis further (List.forall_mem_cons.mpr ⟨each itemRead, before⟩)

end Cursor

namespace Agrees

variable {α β : Type} {embed : α → β} {narrow : Decoder α} {wide : Decoder β}

theorem readAll (agree : Agrees embed narrow wide) (text : String) (value : α) :
    Json.readAll narrow text = .ok value ↔ Json.readAll wide text = .ok (embed value) := by
  rw [readAll_eq_ok_iff, readAll_eq_ok_iff]
  simp only [agree _ _ _]

theorem items (agree : Agrees embed narrow wide) (injective : Function.Injective embed)
    {fuel : Nat} {newestFirst found : List α} {cursor last : Cursor} :
    Cursor.items narrow fuel newestFirst cursor = .ok (found, last) ↔
      Cursor.items wide fuel (newestFirst.map embed) cursor = .ok (found.map embed, last) := by
  induction fuel generalizing newestFirst cursor with
  | zero => simp [Cursor.items]
  | succ fuel inductionHypothesis =>
    rw [Cursor.items_succ_iff, Cursor.items_succ_iff, List.isEmpty_map, ← List.map_reverse,
      injective.list_map.eq_iff]
    refine or_congr_right ⟨?_, ?_⟩
    · rintro ⟨start, item, after, starts, opens, read, further⟩
      exact ⟨start, embed item, after, starts, opens, (agree _ _ _).mp read,
        inductionHypothesis.mp further⟩
    · rintro ⟨start, item, after, starts, opens, read, further⟩
      -- The item is among those that have been found, which are all images.
      obtain ⟨own, -, rfl⟩ :=
        List.mem_map.mp (Cursor.subset_of_items further List.mem_cons_self)
      exact ⟨start, own, after, starts, opens, (agree _ _ _).mpr read,
        inductionHypothesis.mpr further⟩

theorem list (agree : Agrees embed narrow wide) (injective : Function.Injective embed) :
    Agrees (List.map embed) (Cursor.list narrow) (Cursor.list wide) := by
  intro cursor found after
  constructor
  · intro passed
    obtain ⟨middle, inner, ended⟩ := Cursor.enclosed_cases passed
    exact Cursor.enclosed_eq_ok ((agree.items injective).mp inner) ended
  · intro passed
    obtain ⟨middle, inner, ended⟩ := Cursor.enclosed_cases passed
    exact Cursor.enclosed_eq_ok ((agree.items injective).mpr inner) ended

end Agrees

/-! ## Natural numbers -/

namespace Cursor

variable {levels : Nat} {cursor after : Cursor}

/-- How a value starts that is a number or a list, and what reads it from there. -/
def ValueStarts (levels : Nat) (cursor after : Cursor) : Json → Prop
  | .number numeral => ∃ c rest, cursor.skipBlanks.rest = c :: rest ∧ (c == '-' || c.isDigit) ∧
      cursor.skipBlanks.signedNumeral = .ok (numeral, after)
  | .array items => ∃ rest inner, cursor.skipBlanks.rest = '[' :: rest ∧ levels = inner + 1 ∧
      Cursor.list (value inner) cursor.skipBlanks = .ok (items, after)
  | _ => True

theorem valueStarts_of_value {json : Json} (passed : value levels cursor = .ok (json, after)) :
    ValueStarts levels cursor after json := by
  -- The readers of all other values build neither a number nor an array.
  have made {α : Type} {first : Except Failure α} {build : α → Json} {next : α → Cursor}
      (passed : (first >>= fun found => pure (build found, next found)) = .ok (json, after)) :
      ∃ found, build found = json := by
    obtain ⟨found, -, returned⟩ := bind_eq_ok_iff.mp passed
    exact ⟨found, (Prod.mk.inj (Except.ok.inj returned)).1⟩
  unfold value at passed
  dsimp only at passed
  split at passed
  · simp at passed
  next c rest present =>
  split at passed
  · obtain ⟨_, rfl⟩ := made passed
    trivial
  split at passed
  · obtain ⟨_, rfl⟩ := made passed
    trivial
  split at passed
  · obtain ⟨_, rfl⟩ := made passed
    trivial
  split at passed
  · next starts =>
    obtain ⟨⟨numeral, last⟩, read, returned⟩ := bind_eq_ok_iff.mp passed
    obtain ⟨rfl, rfl⟩ := Prod.mk.inj (Except.ok.inj returned)
    exact ⟨c, rest, present, starts, read⟩
  split at passed
  · obtain ⟨_, rfl⟩ := made passed
    trivial
  split at passed
  · next isBracket =>
    cases levels with
    | zero => simp at passed
    | succ inner =>
      obtain ⟨⟨items, last⟩, read, returned⟩ := bind_eq_ok_iff.mp passed
      obtain ⟨rfl, rfl⟩ := Prod.mk.inj (Except.ok.inj returned)
      rw [eq_of_beq isBracket] at present
      exact ⟨rest, inner, present, rfl, read⟩
  split at passed
  · cases levels with
    | zero => simp at passed
    | succ inner =>
      obtain ⟨_, rfl⟩ := made passed
      trivial
  · simp at passed

theorem value_of_numeral {c : Char} {rest : List Char} {numeral : Numeral}
    (present : cursor.skipBlanks.rest = c :: rest) (starts : c == '-' || c.isDigit)
    (read : cursor.skipBlanks.signedNumeral = .ok (numeral, after)) :
    value levels cursor = .ok (.number numeral, after) := by
  have noWord {letter : Char} (noStart : ¬(letter == '-' || letter.isDigit)) : ¬c == letter :=
    fun same => noStart (eq_of_beq same ▸ starts)
  have noNull : ¬c == 'n' := noWord (by decide)
  have noTrue : ¬c == 't' := noWord (by decide)
  have noFalse : ¬c == 'f' := noWord (by decide)
  unfold value
  dsimp only
  rw [present]
  dsimp only
  rw [if_neg noNull, if_neg noTrue, if_neg noFalse, if_pos starts, read]
  rfl

end Cursor

def natural (number : Nat) : Json :=
  .number (.natural number)

theorem natural_injective : Function.Injective natural := by
  intro first second same
  exact Numeral.natural.inj (Json.number.inj same)

/-- Line numbers are the values that are natural numbers. -/
theorem agrees_index (levels : Nat) : Agrees natural Decoder.index (Cursor.value levels) := by
  intro cursor number after
  rw [Decoder.index, Decoder.numeric_eq_ok_iff]
  constructor
  · rintro ⟨c, rest, numeral, present, starts, read, converted⟩
    cases numeral with
    | natural count =>
      obtain rfl := Except.ok.inj converted
      exact Cursor.value_of_numeral present starts read
    | negative magnitude => simp at converted
    | fractional value => simp at converted
    | length value => simp at converted
  · intro passed
    obtain ⟨c, rest, present, starts, read⟩ := Cursor.valueStarts_of_value passed
    exact ⟨c, rest, _, present, starts, read, rfl⟩

/-- Lists of line numbers are the arrays of natural numbers. -/
theorem agrees_indices (levels : Nat) :
    Agrees (fun numbers => .array (numbers.map natural)) (Decoder.listOf Decoder.index)
      (Cursor.value (levels + 1)) := by
  have lists := (agrees_index levels).list natural_injective
  intro cursor numbers after
  rw [Decoder.listOf, Decoder.beyondBlanks_eq_ok_iff]
  constructor
  · rintro ⟨c, rest, present, passed⟩
    split at passed
    · next isBracket =>
      rw [eq_of_beq isBracket] at present
      exact Cursor.value_of_list present ((lists _ _ _).mp passed)
    · exact absurd passed (Decoder.mismatch_ne_ok _ _ _)
  · intro passed
    obtain ⟨rest, inner, present, levels_eq, read⟩ := Cursor.valueStarts_of_value passed
    obtain rfl := Nat.succ.inj levels_eq
    exact ⟨'[', rest, present, (lists _ _ _).mpr read⟩

theorem le_maxWord_of_value {levels number : Nat} {cursor after : Cursor}
    (read : Cursor.value levels cursor = .ok (natural number, after)) : number ≤ maxWord := by
  obtain ⟨-, -, -, -, numeralRead⟩ := Cursor.valueStarts_of_value read
  exact Cursor.natural_of_signedNumeral numeralRead

/-- No natural number in an array exceeds the words. -/
theorem le_maxWord_of_parse {text : String} {items : List Json} {number : Nat}
    (parsed : parse text = .ok (.array items)) (member : natural number ∈ items) :
    number ≤ maxWord := by
  obtain ⟨after, read, -⟩ := readAll_eq_ok_iff.mp parsed
  obtain ⟨-, inner, -, -, listRead⟩ := Cursor.valueStarts_of_value read
  obtain ⟨middle, itemsRead, -⟩ := Cursor.enclosed_cases listRead
  have words : ∀ item ∈ items, ∀ number, item = natural number → number ≤ maxWord := by
    refine Cursor.forall_of_items ?_ itemsRead (by simp)
    rintro start - after valueRead number rfl
    exact le_maxWord_of_value valueRead
  exact words _ member number rfl

/-- A text is read as a list of line numbers when it is parsed as an array of natural numbers. -/
theorem readAll_indices_iff (text : String) (numbers : List Nat) :
    readAll (Decoder.listOf Decoder.index) text = .ok numbers ↔
      parse text = .ok (.array (numbers.map natural)) :=
  (agrees_indices 126).readAll text numbers

end Highlight.Json
