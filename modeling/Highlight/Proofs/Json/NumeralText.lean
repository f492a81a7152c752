import Highlight.Json.Decoder
import Highlight.Proofs.Json.Reading
import Highlight.Proofs.Number.Digits

/-!
Numerals in the middle of a text. A numeral is read in the same way whatever follows it, as long as
that does not go on with it; and the text of a length consists of characters of numerals only.
-/

set_option autoImplicit false

namespace Highlight.Json

def isNumeralCharacter (c : Char) : Bool :=
  c.isDigit || "+-.eE".toList.contains c

theorem isNumeralCharacter_of_isDigit (c : Char) (isDigit : c.isDigit) : isNumeralCharacter c := by
  simp [isNumeralCharacter, isDigit]

theorem isNumeralCharacter_of_isExponentMark (c : Char) (isMark : Cursor.isExponentMark c) :
    isNumeralCharacter c := by
  rcases Bool.or_eq_true_iff.mp isMark with isLower | isUpper
  · rw [eq_of_beq isLower]
    rfl
  · rw [eq_of_beq isUpper]
    rfl

/-- A text that does not go on with a numeral before it. -/
def EndsNumeral (following : List Char) : Prop :=
  ∀ c ∈ following.head?, isNumeralCharacter c = false

namespace Cursor

/-- One cursor is at the place of another, in a text that goes on behind the text of the other. -/
structure Extends (following : List Char) (bound : Nat) (short long : Cursor) : Prop where
  rest_eq : long.rest = short.rest ++ following
  bound_eq : long.bound = bound

namespace Extends

variable {following : List Char} {bound : Nat} {short long : Cursor}

theorem advance (same : Extends following bound short long) {c : Char} {rest : List Char}
    (present : short.rest = c :: rest) : Extends following bound short.advance long.advance := by
  have longPresent : long.rest = c :: (rest ++ following) := by
    rw [same.rest_eq, present, List.cons_append]
  constructor
  · rw [rest_advance longPresent, rest_advance present]
  · simp [Cursor.advance, longPresent, same.bound_eq]

theorem advanceBy (same : Extends following bound short long) {count : Nat}
    (within : count ≤ short.rest.length) :
    Extends following bound (short.advanceBy count) (long.advanceBy count) where
  rest_eq := by
    rw [rest_advanceBy, rest_advanceBy, same.rest_eq, List.drop_append_of_le_length within]
  bound_eq := same.bound_eq

theorem nextIs (same : Extends following bound short long) (ends : EndsNumeral following)
    {isExpected : Char → Bool} (expects : ∀ c, isExpected c → isNumeralCharacter c) :
    long.nextIs isExpected = short.nextIs isExpected := by
  unfold Cursor.nextIs
  rw [same.rest_eq]
  cases short.rest with
  | cons c rest => rfl
  | nil =>
    rw [List.nil_append, List.head?_nil, Option.any_none]
    cases head : following.head? with
    | none => rfl
    | some c =>
      have unexpected := mt (expects c) (by simp [ends c head])
      simpa using unexpected

theorem nextIs_character (same : Extends following bound short long)
    (ends : EndsNumeral following) {expected : Char} (expects : isNumeralCharacter expected) :
    long.nextIs (· == expected) = short.nextIs (· == expected) := by
  refine same.nextIs ends fun c isExpected => ?_
  rw [eq_of_beq isExpected]
  exact expects

theorem digits (same : Extends following bound short long) (ends : EndsNumeral following) :
    long.digits = short.digits := by
  unfold Cursor.digits
  rw [same.rest_eq]
  induction short.rest with
  | cons c rest inductionHypothesis =>
    rw [List.cons_append, List.takeWhile_cons, List.takeWhile_cons, inductionHypothesis]
  | nil =>
    rw [List.nil_append, List.takeWhile_nil]
    cases following with
    | nil => rfl
    | cons c following =>
      have notDigit : ¬c.isDigit := mt (isNumeralCharacter_of_isDigit c) (by simp [ends c rfl])
      rw [List.takeWhile_cons, if_neg notDigit]

theorem pastDigits (same : Extends following bound short long) (ends : EndsNumeral following) :
    Extends following bound (short.advanceBy short.digits.length)
      (long.advanceBy long.digits.length) := by
  rw [same.digits ends]
  exact same.advanceBy (List.takeWhile_sublist _).length_le

/-! ## Numerals -/

variable {after : Cursor} {answer : Numeral} {isNegative : Bool} {significand : Nat}
  {exponent : Int}

theorem fractional (same : Extends following bound short long)
    (read : short.fractional isNegative significand exponent = .ok (answer, after)) :
    ∃ longAfter, long.fractional isNegative significand exponent = .ok (answer, longAfter) ∧
      Extends following bound after longAfter := by
  unfold Cursor.fractional at read ⊢
  split at read
  · obtain ⟨rfl, rfl⟩ := Prod.mk.inj (Except.ok.inj read)
    exact ⟨long, rfl, same⟩
  · simp at read

theorem exponentPart (same : Extends following bound short long) (ends : EndsNumeral following)
    (mark : short.nextIs isExponentMark)
    (read : short.exponentPart isNegative significand exponent = .ok (answer, after)) :
    ∃ longAfter, long.exponentPart isNegative significand exponent = .ok (answer, longAfter) ∧
      Extends following bound after longAfter := by
  obtain ⟨c, rest, present, -⟩ := rest_of_nextIs mark
  have afterMark := same.advance present
  have down : long.advance.nextIs (· == '-') = short.advance.nextIs (· == '-') :=
    afterMark.nextIs_character ends rfl
  have signed : long.advance.nextIs (fun c => c == '+' || c == '-') =
      short.advance.nextIs (fun c => c == '+' || c == '-') := by
    refine afterMark.nextIs ends fun c isSign => ?_
    rcases Bool.or_eq_true_iff.mp isSign with isPlus | isMinus
    · rw [eq_of_beq isPlus]
      rfl
    · rw [eq_of_beq isMinus]
      rfl
  unfold Cursor.exponentPart at read ⊢
  dsimp only at read ⊢
  rw [down, signed]
  -- Both readings pass the sign or neither does, and go on from the same place.
  have start : Extends following bound
      (if short.advance.nextIs fun c => c == '+' || c == '-' then short.advance.advance
        else short.advance)
      (if short.advance.nextIs fun c => c == '+' || c == '-' then long.advance.advance
        else long.advance) := by
    split
    · next isSigned =>
      obtain ⟨d, others, signPresent, -⟩ := rest_of_nextIs isSigned
      exact afterMark.advance signPresent
    · exact afterMark
  generalize (if short.advance.nextIs fun c => c == '+' || c == '-' then short.advance.advance
    else short.advance) = shortStart at read start
  generalize (if short.advance.nextIs fun c => c == '+' || c == '-' then long.advance.advance
    else long.advance) = longStart at start ⊢
  have next := start.pastDigits ends
  rw [start.digits ends] at next ⊢
  split at read
  · simp at read
  next nonempty =>
  have longNonempty : ¬longStart.rest.isEmpty := by
    rw [start.rest_eq]
    simpa using fun shortEmpty => absurd shortEmpty (by simpa using nonempty)
  rw [if_neg longNonempty]
  split at read
  · simp at read
  next someDigits =>
  rw [if_neg someDigits]
  split at read
  · exact next.fractional read
  · split at read
    · simp at read
    · next harmless =>
      obtain ⟨rfl, rfl⟩ := Prod.mk.inj (Except.ok.inj read)
      rw [if_neg harmless]
      exact ⟨_, rfl, next⟩

theorem fractionPart (same : Extends following bound short long) (ends : EndsNumeral following)
    (point : short.nextIs (· == '.'))
    (read : short.fractionPart isNegative significand exponent = .ok (answer, after)) :
    ∃ longAfter, long.fractionPart isNegative significand exponent = .ok (answer, longAfter) ∧
      Extends following bound after longAfter := by
  obtain ⟨c, rest, present, -⟩ := rest_of_nextIs point
  have start := same.advance present
  have next := start.pastDigits ends
  unfold Cursor.fractionPart at read ⊢
  dsimp only at read ⊢
  rw [start.digits ends] at next ⊢
  split at read
  · simp at read
  next someDigits =>
  rw [if_neg someDigits]
  have mark := next.nextIs ends isNumeralCharacter_of_isExponentMark
  rw [mark]
  split at read
  · next isMark =>
    rw [if_pos isMark]
    exact next.exponentPart ends isMark read
  · next noMark =>
    rw [if_neg noMark]
    exact next.fractional read

theorem afterInteger (same : Extends following bound short long) (ends : EndsNumeral following)
    {dropped : Nat}
    (read : short.afterInteger isNegative significand dropped = .ok (answer, after)) :
    ∃ longAfter, long.afterInteger isNegative significand dropped = .ok (answer, longAfter) ∧
      Extends following bound after longAfter := by
  have point : long.nextIs (· == '.') = short.nextIs (· == '.') :=
    same.nextIs_character ends rfl
  have mark := same.nextIs ends isNumeralCharacter_of_isExponentMark
  unfold Cursor.afterInteger at read ⊢
  rw [point, mark]
  split at read
  · next isPoint =>
    rw [if_pos isPoint]
    exact same.fractionPart ends isPoint read
  next noPoint =>
  rw [if_neg noPoint]
  split at read
  · next isMark =>
    rw [if_pos isMark]
    exact same.exponentPart ends isMark read
  next noMark =>
  rw [if_neg noMark]
  split at read
  · next whole =>
    obtain ⟨rfl, rfl⟩ := Prod.mk.inj (Except.ok.inj read)
    rw [if_pos whole]
    exact ⟨long, rfl, same⟩
  · next scaled =>
    rw [if_neg scaled]
    exact same.fractional read

theorem numeral (same : Extends following bound short long) (ends : EndsNumeral following)
    (read : short.numeral isNegative = .ok (answer, after)) :
    ∃ longAfter, long.numeral isNegative = .ok (answer, longAfter) ∧
      Extends following bound after longAfter := by
  unfold Cursor.numeral at read ⊢
  split at read
  · simp at read
  next c rest present =>
  have longPresent : long.rest = c :: (rest ++ following) := by
    rw [same.rest_eq, present, List.cons_append]
  rw [longPresent]
  dsimp only
  have advanced := same.advance present
  split at read
  · next isZero =>
    rw [if_pos isZero]
    have digit := advanced.nextIs ends isNumeralCharacter_of_isDigit
    rw [digit]
    split at read
    · simp at read
    · next noDigit =>
      rw [if_neg noDigit]
      exact advanced.afterInteger ends read
  next notZero =>
  rw [if_neg notZero]
  split at read
  · next isDigit =>
    rw [if_pos isDigit]
    have next := same.pastDigits ends
    rw [same.digits ends] at next ⊢
    exact next.afterInteger ends read
  · simp at read

/-- A numeral is read in the same way whatever follows it that does not go on with it. -/
theorem signedNumeral (same : Extends following bound short long) (ends : EndsNumeral following)
    (read : short.signedNumeral = .ok (answer, after)) :
    ∃ longAfter, long.signedNumeral = .ok (answer, longAfter) ∧
      Extends following bound after longAfter := by
  have minus : long.nextIs (· == '-') = short.nextIs (· == '-') :=
    same.nextIs_character ends rfl
  unfold Cursor.signedNumeral at read ⊢
  rw [minus]
  split at read
  · next isMinus =>
    obtain ⟨c, rest, present, -⟩ := rest_of_nextIs isMinus
    rw [if_pos isMinus]
    exact (same.advance present).numeral ends read
  · next noMinus =>
    rw [if_neg noMinus]
    exact same.numeral ends read

end Extends

end Cursor

/-! ## Written numerals -/

def IsNumeralText (text : String) : Prop :=
  ∀ c ∈ text.toList, isNumeralCharacter c

namespace IsNumeralText

theorem of_all {text : String} (all : text.toList.all isNumeralCharacter) : IsNumeralText text :=
  List.all_eq_true.mp all

theorem append {first second : String} (firstIs : IsNumeralText first)
    (secondIs : IsNumeralText second) : IsNumeralText (first ++ second) := by
  intro c member
  rw [String.toList_append, List.mem_append] at member
  exact member.elim (firstIs c) (secondIs c)

theorem part {text : String} (textIs : IsNumeralText text) {part : List Char}
    (within : part ⊆ text.toList) : IsNumeralText (String.ofList part) := by
  intro c member
  rw [String.toList_ofList] at member
  exact textIs c (within member)

theorem ofNat (number : Nat) : IsNumeralText (toString number) :=
  fun c member => isNumeralCharacter_of_isDigit c (isDigit_of_mem_toString member)

theorem zeros (count : Nat) : IsNumeralText (DecimalStyle.zeros count) := by
  intro c member
  rw [DecimalStyle.zeros, String.toList_ofList] at member
  rw [List.eq_of_mem_replicate member]
  rfl

theorem render (style : DecimalStyle) (decimal : Decimal) :
    IsNumeralText (style.render decimal) := by
  have digits : IsNumeralText decimal.digits := ofNat decimal.units
  have point : IsNumeralText "." := .of_all rfl
  unfold DecimalStyle.render
  dsimp only
  split
  · split
    · exact (digits.append (zeros _)).append (.of_all rfl)
    split
    · exact ((digits.part (List.take_subset _ _)).append point).append
        (digits.part (List.drop_subset _ _))
    · exact (append (.of_all rfl) (zeros _)).append digits
  · have fraction := digits.part (List.drop_subset 1 _)
    refine (((digits.part (List.take_subset _ _)).append ?_).append ?_).append (ofNat _)
    · split
      · exact .of_all rfl
      · exact point.append fraction
    · split <;> exact .of_all rfl

theorem renderFinite {format : Format} (style : DecimalStyle) (number : Binary format) :
    IsNumeralText (style.renderFinite number) := by
  have magnitude : IsNumeralText
      (if number.isZero then "0.0" else style.render (shortestDecimal number)) := by
    split
    · exact .of_all rfl
    · exact render style _
  unfold DecimalStyle.renderFinite
  dsimp only
  split
  · exact append (.of_all rfl) magnitude
  · exact magnitude

end IsNumeralText

end Highlight.Json
