import Mathlib.Data.List.Forall2
import Highlight.Proofs.Hexadecimal
import Highlight.Proofs.LetterCase
import Highlight.Theme.Color

/-!
Which texts are colors, and of which channels. Each form is short for eight characters, which are
read two at a time. Digits of either case are read; in the place of the first digit of a pair a plus
sign is read as well.
-/

set_option autoImplicit false

namespace Highlight

theorem Text.hexDigit?_ignoresCase : IgnoresCase hexDigit? := by
  intro c
  by_cases letter : c.isAlpha
  · have same := holds_of_isAscii (isAscii_of_isAlpha letter)
      (fun d => hexDigit? d.toLower == hexDigit? d) (by decide +kernel)
    exact eq_of_beq same
  · rw [toLower_of_not_isAlpha (by simpa using letter)]

namespace Color

open Text

/-- The channels in the order in which they are written. -/
def channels (color : Color) : List UInt8 :=
  [color.red, color.green, color.blue, color.alpha]

def pairs : List Char → List (Char × Char)
  | first :: second :: rest => (first, second) :: pairs rest
  | _ => []

/-- How many characters may follow the number sign. -/
def formLengths : List Nat :=
  [3, 6, 8]

/-- The eight characters that a form is short for. Three characters are doubled each, and an opacity
that is left out is full. -/
def spelledOut (form : List Char) : List Char :=
  (if form.length = 3 then form.flatMap fun c => [c, c] else form) ++
    if form.length = 8 then [] else ['f', 'f']

/-- Does a pair of characters stand for a byte? A plus sign in the first place counts as zero. -/
def Denotes (pair : Char × Char) (byte : UInt8) : Prop :=
  ∃ sixteens units, (IsHexDigitOf sixteens pair.1 ∨ pair.1 = '+' ∧ sixteens = 0) ∧
    IsHexDigitOf units pair.2 ∧ byte.toNat = 16 * sixteens + units

/-! ## Pairs -/

variable {first second : Char} {byte : UInt8}

theorem not_isHexDigitOf_plus (number : Nat) : ¬IsHexDigitOf number '+' := by
  rw [← hexDigit?_eq_some_iff]
  have none : hexDigit? '+' = none := by decide
  simp [none]

/-- The number of a digit, or zero for a plus sign. -/
def sixteens? (first : Char) : Option Nat :=
  if first = '+' then some 0 else hexDigit? first

theorem sixteens?_eq_some_iff {number : Nat} :
    sixteens? first = some number ↔ IsHexDigitOf number first ∨ first = '+' ∧ number = 0 := by
  unfold sixteens?
  split
  · next sign =>
    subst sign
    simp [not_isHexDigitOf_plus, eq_comm]
  · next noSign => simp [noSign, hexDigit?_eq_some_iff]

theorem byte?_pair : byte? [first, second] =
    (hexDigit? second).bind fun units =>
      (sixteens? first).map fun sixteens => (sixteens * 16 + units).toUInt8 := by
  by_cases sign : first = '+'
  · simp [byte?, sixteens?, sign]
  · simp only [byte?, sixteens?, if_neg sign, Option.map_eq_bind]
    rfl

theorem byte?_eq_some_iff : byte? [first, second] = some byte ↔ Denotes (first, second) byte := by
  simp only [byte?_pair, Option.bind_eq_some_iff, Option.map_eq_some_iff, hexDigit?_eq_some_iff,
    sixteens?_eq_some_iff, Denotes]
  constructor
  · rintro ⟨units, isUnits, sixteens, isSixteens, rfl⟩
    have small : sixteens < 16 := by
      rcases isSixteens with ⟨small, -⟩ | ⟨-, rfl⟩
      · exact small
      · decide
    have inByte : sixteens * 16 + units < 256 := by
      have := isUnits.1
      omega
    refine ⟨sixteens, units, isSixteens, isUnits, ?_⟩
    rw [Nat.mul_comm 16]
    exact UInt8.toNat_ofNat_of_lt' inByte
  · rintro ⟨sixteens, units, isSixteens, isUnits, value⟩
    refine ⟨units, isUnits, sixteens, isSixteens, ?_⟩
    rw [Nat.mul_comm, ← value]
    exact UInt8.ofNat_toNat

/-- A character that is doubled says what the pair of it with itself says. -/
theorem map_doubled_byte? (c : Char) : (byte? [c]).map doubled = byte? [c, c] := by
  cases read : hexDigit? c with
  | none => simp [byte?, read]
  | some number =>
    have noSign : c ≠ '+' := by
      rintro rfl
      exact not_isHexDigitOf_plus number (hexDigit?_eq_some_iff.mp read)
    have value : doubled number.toUInt8 = (number * 16 + number).toUInt8 := by
      rw [← Nat.mul_succ]
      exact (UInt8.ofNat_mul number 17).symm
    simp [byte?, read, noSign, value]

/-! ## Forms -/

theorem ofDigits?_eight {r₁ r₂ g₁ g₂ b₁ b₂ a₁ a₂ : Char} {color : Color} :
    ofDigits? [r₁, r₂, g₁, g₂, b₁, b₂, a₁, a₂] = some color ↔
      List.Forall₂ Denotes (pairs [r₁, r₂, g₁, g₂, b₁, b₂, a₁, a₂]) color.channels := by
  obtain ⟨red, green, blue, alpha⟩ := color
  simp [ofDigits?, Option.bind_eq_some_iff, byte?_eq_some_iff, pairs, channels]

theorem ofDigits?_six (r₁ r₂ g₁ g₂ b₁ b₂ : Char) :
    ofDigits? [r₁, r₂, g₁, g₂, b₁, b₂] = ofDigits? [r₁, r₂, g₁, g₂, b₁, b₂, 'f', 'f'] := by
  have full : byte? ['f', 'f'] = some 255 := by decide
  simp [ofDigits?, full, opaqueColor]

theorem ofDigits?_three (r g b : Char) : ofDigits? [r, g, b] = ofDigits? [r, r, g, g, b, b] := by
  simp only [ofDigits?, ← map_doubled_byte?, Option.bind_eq_bind, Option.bind_map]
  rfl

/-- The characters of a form, one by one. -/
inductive IsForm : List Char → Prop
  | three (r g b : Char) : IsForm [r, g, b]
  | six (r₁ r₂ g₁ g₂ b₁ b₂ : Char) : IsForm [r₁, r₂, g₁, g₂, b₁, b₂]
  | eight (r₁ r₂ g₁ g₂ b₁ b₂ a₁ a₂ : Char) : IsForm [r₁, r₂, g₁, g₂, b₁, b₂, a₁, a₂]

variable {form : List Char} {color : Color}

theorem isForm_of_length (listed : form.length ∈ formLengths) : IsForm form := by
  have lengths : form.length = 3 ∨ form.length = 6 ∨ form.length = 8 := by
    simpa [formLengths] using listed
  match form, lengths with
  | [r, g, b], _ => exact .three r g b
  | [r₁, r₂, g₁, g₂, b₁, b₂], _ => exact .six r₁ r₂ g₁ g₂ b₁ b₂
  | [r₁, r₂, g₁, g₂, b₁, b₂, a₁, a₂], _ => exact .eight r₁ r₂ g₁ g₂ b₁ b₂ a₁ a₂

theorem isForm_of_ofDigits? (read : ofDigits? form = some color) : IsForm form := by
  unfold ofDigits? at read
  split at read
  · constructor
  · constructor
  · constructor
  · contradiction

theorem isForm_iff : IsForm form ↔ form.length ∈ formLengths := by
  refine ⟨fun isForm => ?_, isForm_of_length⟩
  cases isForm <;> simp [formLengths]

/-- A form says what the eight characters say that it is short for. -/
theorem ofDigits?_spelledOut (isForm : IsForm form) :
    ofDigits? (spelledOut form) = ofDigits? form := by
  cases isForm with
  | three r g b => exact ((ofDigits?_three r g b).trans (ofDigits?_six r r g g b b)).symm
  | six r₁ r₂ g₁ g₂ b₁ b₂ => exact (ofDigits?_six r₁ r₂ g₁ g₂ b₁ b₂).symm
  | eight => rfl

/-- Do the pairs of a form stand for the channels of a color? -/
def Spells (form : List Char) (color : Color) : Prop :=
  form.length ∈ formLengths ∧ List.Forall₂ Denotes (pairs (spelledOut form)) color.channels

theorem ofDigits?_eq_some_iff : ofDigits? form = some color ↔ Spells form color := by
  have byPairs (isForm : IsForm form) : ofDigits? form = some color ↔
      List.Forall₂ Denotes (pairs (spelledOut form)) color.channels := by
    rw [← ofDigits?_spelledOut isForm]
    cases isForm <;> exact ofDigits?_eight
  rw [Spells, ← isForm_iff]
  constructor
  · intro read
    have isForm := isForm_of_ofDigits? read
    exact ⟨isForm, (byPairs isForm).mp read⟩
  · rintro ⟨isForm, denoted⟩
    exact (byPairs isForm).mpr denoted

theorem ofHex?_eq_some_iff {text : String} :
    ofHex? text = some color ↔ ∃ form, text.toList = '#' :: form ∧ Spells form color := by
  unfold ofHex?
  split
  · next form present => simp [present, ofDigits?_eq_some_iff]
  · next other =>
    simp only [reduceCtorEq, false_iff, not_exists, not_and]
    intro form present
    exact absurd present (other form)

/-! ## Digits -/

/-- The eight characters are those of the form, and besides them only digits. -/
theorem forall_mem_spelledOut (holds : Char → Prop) (full : holds 'f') :
    (∀ c ∈ spelledOut form, holds c) ↔ ∀ c ∈ form, holds c := by
  have opacity : ∀ c ∈ if form.length = 8 then [] else ['f', 'f'], holds c := by
    split <;> simp [full]
  rw [spelledOut, List.forall_mem_append, and_iff_left opacity]
  split
  · simp
  · rfl

theorem forall_mem_pairs (holds : Char → Prop) (even : form.length % 2 = 0) :
    (∀ pair ∈ pairs form, holds pair.1 ∧ holds pair.2) ↔ ∀ c ∈ form, holds c := by
  induction form using pairs.induct with
  | case1 first second rest inductionHypothesis =>
    rw [List.length_cons, List.length_cons] at even
    simp only [pairs, List.forall_mem_cons, inductionHypothesis (by omega), and_assoc]
  | case2 form short =>
    match form, even with
    | [], _ => simp [pairs]
    | first :: second :: rest, _ => exact (short first second rest rfl).elim

theorem length_spelledOut (isForm : IsForm form) : (spelledOut form).length = 8 := by
  cases isForm <;> rfl

theorem length_pairs (form : List Char) : (pairs form).length = form.length / 2 := by
  induction form using pairs.induct with
  | case1 first second rest inductionHypothesis =>
    simp only [pairs, List.length_cons, inductionHypothesis]
    omega
  | case2 form short =>
    match form with
    | [] => rfl
    | [_] => simp [pairs]
    | first :: second :: rest => exact (short first second rest rfl).elim

/-- A pair of digits stands for a byte. -/
theorem exists_denotes {pair : Char × Char}
    (digits : isHexDigit pair.1 ∧ isHexDigit pair.2) : ∃ byte, Denotes pair byte := by
  obtain ⟨sixteens, isSixteens⟩ := isHexDigit_iff.mp digits.1
  obtain ⟨units, isUnits⟩ := isHexDigit_iff.mp digits.2
  have inByte : 16 * sixteens + units < 256 := by
    have := isSixteens.1
    have := isUnits.1
    omega
  exact ⟨(16 * sixteens + units).toUInt8, sixteens, units, .inl isSixteens, isUnits,
    UInt8.toNat_ofNat_of_lt' inByte⟩

theorem Denotes.isHexDigit {pair : Char × Char} (denoted : Denotes pair byte)
    (noSign : pair.1 ≠ '+') : isHexDigit pair.1 ∧ isHexDigit pair.2 := by
  obtain ⟨sixteens, units, isSixteens | ⟨isSign, -⟩, isUnits, -⟩ := denoted
  · exact ⟨isHexDigit_iff.mpr ⟨sixteens, isSixteens⟩, isHexDigit_iff.mpr ⟨units, isUnits⟩⟩
  · exact absurd isSign noSign

/-- Digits alone are a color in each of the lengths. -/
theorem exists_spells (listed : form.length ∈ formLengths) (digits : ∀ c ∈ form, isHexDigit c) :
    ∃ color, Spells form color := by
  have eight := length_spelledOut (isForm_of_length listed)
  have readable : ∀ pair ∈ pairs (spelledOut form), isHexDigit pair.1 ∧ isHexDigit pair.2 := by
    rwa [forall_mem_pairs (isHexDigit ·) (by rw [eight]), forall_mem_spelledOut _ (by decide)]
  choose! byteOf denoted using fun pair member => exists_denotes (readable pair member)
  have all : List.Forall₂ Denotes (pairs (spelledOut form))
      ((pairs (spelledOut form)).map byteOf) := by
    rw [List.forall₂_map_right_iff]
    exact List.forall₂_same.mpr denoted
  have four : ((pairs (spelledOut form)).map byteOf).length = 4 := by
    rw [List.length_map, length_pairs, eight]
  match (pairs (spelledOut form)).map byteOf, four, all with
  | [red, green, blue, alpha], _, all => exact ⟨⟨red, green, blue, alpha⟩, listed, all⟩

/-- Without a plus sign only digits are. -/
theorem Spells.isHexDigit (spelled : Spells form color) (noSign : '+' ∉ form) :
    ∀ c ∈ form, Text.isHexDigit c := by
  obtain ⟨listed, denoted⟩ := spelled
  have even : (spelledOut form).length % 2 = 0 := by
    rw [length_spelledOut (isForm_of_length listed)]
  have unsigned : ∀ pair ∈ pairs (spelledOut form), pair.1 ≠ '+' ∧ pair.2 ≠ '+' := by
    rw [forall_mem_pairs (· ≠ '+') even, forall_mem_spelledOut _ (by decide)]
    rintro c member rfl
    exact noSign member
  have readable : ∀ pair ∈ pairs (spelledOut form),
      pair.1 ≠ '+' → Text.isHexDigit pair.1 ∧ Text.isHexDigit pair.2 :=
    ((List.forall₂_and_left _ _).mp
      (denoted.imp fun pair byte denotes => ⟨denotes.isHexDigit, denotes⟩)).1
  rw [← forall_mem_spelledOut (Text.isHexDigit ·) (by decide), ← forall_mem_pairs _ even]
  exact fun pair member => readable pair member (unsigned pair member).1

/-! ## Letter case -/

theorem byte?_toLower (c : Char) : byte? [c.toLower] = byte? [c] := by
  rw [byte?, byte?, hexDigit?_ignoresCase]

theorem byte?_pair_toLower (first second : Char) :
    byte? [first.toLower, second.toLower] = byte? [first, second] := by
  have sign : first.toLower = '+' ↔ first = '+' := by
    rw [← beq_iff_eq, toLower_beq (by decide), beq_iff_eq]
  simp only [byte?_pair, sixteens?, sign, hexDigit?_ignoresCase first,
    hexDigit?_ignoresCase second]

theorem ofDigits?_map_toLower (form : List Char) :
    ofDigits? (form.map Char.toLower) = ofDigits? form := by
  by_cases listed : form.length ∈ formLengths
  · cases isForm_of_length listed <;>
      simp only [List.map_cons, List.map_nil, ofDigits?, byte?_toLower, byte?_pair_toLower]
  · have none {other : List Char} (unlisted : other.length ∉ formLengths) :
        ofDigits? other = none := by
      refine Option.eq_none_iff_forall_ne_some.mpr fun color read => ?_
      exact unlisted (ofDigits?_eq_some_iff.mp read).1
    rw [none listed, none (by rwa [List.length_map])]

theorem ofHex?_asciiLower (text : String) : ofHex? (asciiLower text) = ofHex? text := by
  have characters : (asciiLower text).toList = text.toList.map Char.toLower := by
    rw [asciiLower, String.toList_map]
  unfold ofHex?
  rw [characters]
  cases text.toList with
  | nil => rfl
  | cons c form =>
    have mark : c.toLower = '#' ↔ c = '#' := by
      rw [← beq_iff_eq, toLower_beq (by decide), beq_iff_eq]
    by_cases isMark : c = '#'
    · subst isMark
      exact ofDigits?_map_toLower form
    · rw [List.map_cons]
      simp [isMark, mark]

end Color

/-- A text is a color exactly when three, six or eight characters follow a number sign, and every
pair of the eight characters that those are short for stands for a channel: two digits for a byte,
and a plus sign in the place of the first one for zero. So texts without a plus sign are colors just
when what follows the number sign are digits. The case of letters does not matter. -/
theorem color_of_hexadecimal (text : String) :
    (∀ color, Color.ofHex? text = some color ↔
      ∃ form, text.toList = '#' :: form ∧ form.length ∈ [3, 6, 8] ∧
        List.Forall₂ Color.Denotes (Color.pairs (Color.spelledOut form)) color.channels) ∧
    ('+' ∉ text.toList →
      ((Color.ofHex? text).isSome ↔
        ∃ form, text.toList = '#' :: form ∧ form.length ∈ [3, 6, 8] ∧
          ∀ c ∈ form, Text.isHexDigit c)) ∧
    ∀ other, Text.asciiLower other = Text.asciiLower text →
      Color.ofHex? other = Color.ofHex? text := by
  refine ⟨fun color => Color.ofHex?_eq_some_iff, fun noSign => ?_, fun other alike => ?_⟩
  · constructor
    · intro isColor
      obtain ⟨color, read⟩ := Option.isSome_iff_exists.mp isColor
      obtain ⟨form, present, spelled⟩ := Color.ofHex?_eq_some_iff.mp read
      refine ⟨form, present, spelled.1, spelled.isHexDigit fun member => noSign ?_⟩
      rw [present]
      exact List.mem_cons_of_mem _ member
    · rintro ⟨form, present, listed, digits⟩
      obtain ⟨color, spelled⟩ := Color.exists_spells listed digits
      rw [Color.ofHex?_eq_some_iff.mpr ⟨form, present, spelled⟩]
      rfl
  · rw [← Color.ofHex?_asciiLower other, alike, Color.ofHex?_asciiLower]

/-- A plus sign is no digit, but is read as the first one of a pair. -/
theorem color_with_plus_signs :
    Color.ofHex? "#+F+F+F" = some ⟨15, 15, 15, 255⟩ ∧
      ¬ ∃ form, "#+F+F+F".toList = '#' :: form ∧ form.length ∈ [3, 6, 8] ∧
        ∀ c ∈ form, Text.isHexDigit c := by
  refine ⟨by decide, ?_⟩
  rintro ⟨form, present, -, digits⟩
  obtain rfl : "+F+F+F".toList = form := (List.cons.inj present).2
  exact absurd (digits '+' (by decide)) (by decide)

end Highlight
