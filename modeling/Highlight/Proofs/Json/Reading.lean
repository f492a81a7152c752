import Mathlib.Data.List.TakeWhile
import Highlight.Json.Reader
import Highlight.Proofs.Hexadecimal
import Highlight.Proofs.Json.Grammar

/-!
Reading accepts documents only. What each reader passes over is spelled as the grammar says, so a
text that is read as a whole is a document.
-/

set_option autoImplicit false

namespace Highlight.Json

open Cursor (isSpace isControl shortEscape?)
open Text (isHexDigit hexDigit? isHexDigit_of_hexDigit?)

/-- Two steps succeed just when each of them does. -/
theorem bind_eq_ok_iff {ε α β : Type} {first : Except ε α} {second : α → Except ε β} {result : β} :
    (first >>= second) = .ok result ↔ ∃ found, first = .ok found ∧ second found = .ok result := by
  cases first with
  | error failure => simp [bind, Except.bind]
  | ok found => simp [bind, Except.bind]

namespace Cursor

/-! ## Single steps -/

@[simp] theorem fail_ne_ok {α : Type} (cursor : Cursor) (cause : Cause) (result : α) :
    cursor.fail cause ≠ .ok result := by
  simp [fail]

@[simp] theorem failNext_ne_ok {α : Type} (cursor : Cursor) (cause : Cause) (result : α) :
    cursor.failNext cause ≠ .ok result := by
  simp [failNext]

theorem rest_advance {cursor : Cursor} {c : Char} {rest : List Char}
    (present : cursor.rest = c :: rest) : cursor.advance.rest = rest := by
  simp [advance, present]

@[simp] theorem rest_advanceBy (count : Nat) (cursor : Cursor) :
    (cursor.advanceBy count).rest = cursor.rest.drop count := rfl

theorem rest_skipBlanks (cursor : Cursor) :
    ∃ blanks, (∀ c ∈ blanks, isSpace c) ∧ cursor.rest = blanks ++ cursor.skipBlanks.rest := by
  refine ⟨cursor.rest.takeWhile isSpace, ?_, ?_⟩
  · exact fun c member => List.mem_takeWhile_imp member
  · exact List.takeWhile_append_dropWhile.symm

theorem rest_of_nextIs {cursor : Cursor} {isExpected : Char → Bool}
    (next : cursor.nextIs isExpected = true) :
    ∃ c rest, cursor.rest = c :: rest ∧ isExpected c := by
  cases present : cursor.rest with
  | nil => simp [nextIs, present] at next
  | cons c rest => exact ⟨c, rest, rfl, by simpa [nextIs, present] using next⟩

theorem rest_of_word {expected : List Char} {cursor after : Cursor}
    (read : word expected cursor = .ok after) : cursor.rest = expected ++ after.rest := by
  induction expected generalizing cursor with
  | nil =>
    cases read
    rfl
  | cons c expected inductionHypothesis =>
    unfold word at read
    split at read
    · simp at read
    · next found rest present =>
      split at read
      · next same =>
        obtain rfl := eq_of_beq same
        have following := inductionHypothesis read
        rw [rest_advance present] at following
        rw [present, following, List.cons_append]
      · simp at read

/-! ## Numerals -/

theorem rest_eq_digits_append (cursor : Cursor) :
    cursor.rest = cursor.digits ++ (cursor.advanceBy cursor.digits.length).rest := by
  have split := List.takeWhile_append_dropWhile (p := Char.isDigit) (l := cursor.rest)
  have dropped : cursor.rest.drop cursor.digits.length = cursor.rest.dropWhile Char.isDigit := by
    rw [digits]
    nth_rewrite 2 [← split]
    exact List.drop_left
  rw [rest_advanceBy, dropped]
  exact split.symm

theorem isDigits_digits {cursor : Cursor} (present : cursor.digits ≠ []) :
    IsDigits cursor.digits :=
  ⟨present, fun _ member => List.mem_takeWhile_imp member⟩

theorem after_fractional {isNegative : Bool} {significand : Nat} {exponent : Int}
    {cursor after : Cursor} {numeral : Numeral}
    (read : cursor.fractional isNegative significand exponent = .ok (numeral, after)) :
    after = cursor := by
  unfold fractional at read
  split at read
  · simpa using (congrArg Prod.snd (Except.ok.inj read)).symm
  · simp at read

theorem rest_of_sign (cursor : Cursor) (isSign : Char → Bool) :
    ∃ sign, (sign = [] ∨ ∃ c, isSign c ∧ sign = [c]) ∧ cursor.rest =
      sign ++ (if cursor.nextIs isSign then cursor.advance else cursor).rest := by
  split
  · next signed =>
    obtain ⟨c, rest, present, isOne⟩ := rest_of_nextIs signed
    exact ⟨[c], .inr ⟨c, isOne, rfl⟩, by rw [rest_advance present, present]; rfl⟩
  · exact ⟨[], .inl rfl, rfl⟩

theorem exponentPart_spells {isNegative : Bool} {significand : Nat} {exponent : Int}
    {cursor after : Cursor} {numeral : Numeral} (mark : cursor.nextIs isExponentMark)
    (read : cursor.exponentPart isNegative significand exponent = .ok (numeral, after)) :
    ∃ text, IsExponent text ∧ cursor.rest = text ++ after.rest := by
  obtain ⟨c, rest, present, isMark⟩ := rest_of_nextIs mark
  have marks : c = 'e' ∨ c = 'E' := by simpa [isExponentMark] using isMark
  obtain ⟨sign, signs, signed⟩ := rest_of_sign cursor.advance fun c => c == '+' || c == '-'
  unfold exponentPart at read
  dsimp only at read
  generalize (if cursor.advance.nextIs fun c => c == '+' || c == '-' then cursor.advance.advance
    else cursor.advance) = start at read signed
  rw [rest_advance present] at signed
  split at read
  · simp at read
  split at read
  · simp at read
  next nonempty =>
  have after_eq : after = start.advanceBy start.digits.length := by
    split at read
    · exact after_fractional read
    · split at read
      · simp at read
      · simpa using (congrArg Prod.snd (Except.ok.inj read)).symm
  refine ⟨c :: (sign ++ start.digits), .present marks ?_ ?_, ?_⟩
  · rcases signs with rfl | ⟨d, isSign, rfl⟩
    · exact .inl rfl
    · exact .inr (by simpa using isSign)
  · exact isDigits_digits (by simpa using nonempty)
  · rw [present, signed, after_eq, List.cons_append, List.append_assoc, ← rest_eq_digits_append]

theorem fractionPart_spells {isNegative : Bool} {significand : Nat} {exponent : Int}
    {cursor after : Cursor} {numeral : Numeral} (point : cursor.nextIs (· == '.'))
    (read : cursor.fractionPart isNegative significand exponent = .ok (numeral, after)) :
    ∃ fraction exponent, IsFraction fraction ∧ IsExponent exponent ∧
      cursor.rest = fraction ++ (exponent ++ after.rest) := by
  obtain ⟨c, rest, present, isPoint⟩ := rest_of_nextIs point
  obtain rfl : c = '.' := eq_of_beq isPoint
  have digits := rest_eq_digits_append cursor.advance
  unfold fractionPart at read
  dsimp only at read
  split at read
  · simp at read
  next nonempty =>
  have fraction : IsFraction ('.' :: cursor.advance.digits) :=
    .present (isDigits_digits (by simpa using nonempty))
  have passed : cursor.rest = '.' :: cursor.advance.digits ++
      (cursor.advance.advanceBy cursor.advance.digits.length).rest := by
    rw [present, List.cons_append, ← digits, rest_advance present]
  split at read
  · next mark =>
    obtain ⟨exponent, spelled, following⟩ := exponentPart_spells mark read
    exact ⟨_, exponent, fraction, spelled, by rw [passed, following]⟩
  · rw [after_fractional read]
    exact ⟨_, [], fraction, .missing, passed⟩

theorem afterInteger_spells {isNegative : Bool} {significand dropped : Nat}
    {cursor after : Cursor} {numeral : Numeral}
    (read : cursor.afterInteger isNegative significand dropped = .ok (numeral, after)) :
    ∃ fraction exponent, IsFraction fraction ∧ IsExponent exponent ∧
      cursor.rest = fraction ++ (exponent ++ after.rest) := by
  unfold afterInteger at read
  split at read
  · next point => exact fractionPart_spells point read
  split at read
  · next mark =>
    obtain ⟨exponent, spelled, following⟩ := exponentPart_spells mark read
    exact ⟨[], exponent, .missing, spelled, following⟩
  have after_eq : after = cursor := by
    split at read
    · simpa using (congrArg Prod.snd (Except.ok.inj read)).symm
    · exact after_fractional read
  exact ⟨[], [], .missing, .missing, by rw [after_eq]; rfl⟩

theorem numeral_spells {isNegative : Bool} {cursor after : Cursor} {numeral : Numeral}
    (read : cursor.numeral isNegative = .ok (numeral, after)) :
    ∃ integer fraction exponent, IsInteger integer ∧ IsFraction fraction ∧ IsExponent exponent ∧
      cursor.rest = integer ++ (fraction ++ (exponent ++ after.rest)) := by
  unfold Cursor.numeral at read
  split at read
  · simp at read
  next c rest present =>
  split at read
  · next isZero =>
    obtain rfl : c = '0' := eq_of_beq isZero
    split at read
    · simp at read
    obtain ⟨fraction, exponent, fractions, exponents, following⟩ := afterInteger_spells read
    rw [rest_advance present] at following
    have zero : IsInteger ['0'] := ⟨⟨by simp, List.forall_mem_singleton.mpr rfl⟩, fun _ => rfl⟩
    refine ⟨['0'], fraction, exponent, zero, fractions, exponents, ?_⟩
    rw [present, following]
    rfl
  · next notZero =>
    split at read
    · next isDigit =>
      obtain ⟨fraction, exponent, fractions, exponents, following⟩ := afterInteger_spells read
      have digits_eq : cursor.digits = c :: rest.takeWhile Char.isDigit := by
        simp [digits, present, isDigit]
      refine ⟨cursor.digits, fraction, exponent, ⟨isDigits_digits (by simp [digits_eq]), ?_⟩,
        fractions, exponents, ?_⟩
      · intro startsWithZero
        exact absurd (by simpa [digits_eq] using startsWithZero) (by simpa using notZero)
      · rw [← following]
        exact rest_eq_digits_append cursor
    · simp at read

theorem signedNumeral_spells {cursor after : Cursor} {numeral : Numeral}
    (read : cursor.signedNumeral = .ok (numeral, after)) :
    ∃ text, IsNumeral text ∧ cursor.rest = text ++ after.rest := by
  obtain ⟨sign, signs, signed⟩ := rest_of_sign cursor (· == '-')
  obtain ⟨isNegative, own⟩ : ∃ isNegative,
      (if cursor.nextIs (· == '-') then cursor.advance else cursor).numeral isNegative =
        .ok (numeral, after) := by
    unfold signedNumeral at read
    split at read
    · next negative => exact ⟨true, by rw [if_pos negative]; exact read⟩
    · next positive => exact ⟨false, by rw [if_neg positive]; exact read⟩
  obtain ⟨integer, fraction, exponent, integers, fractions, exponents, following⟩ :=
    numeral_spells own
  have minus : sign = [] ∨ sign = ['-'] := by
    rcases signs with rfl | ⟨c, isMinus, rfl⟩
    · exact .inl rfl
    · exact .inr (by simpa using isMinus)
  refine ⟨_, .parts minus integers fractions exponents, ?_⟩
  rw [signed, following]
  simp

/-! ## Strings -/

theorem hexQuad_spells {cursor after : Cursor} {code : Nat}
    (read : cursor.hexQuad = .ok (code, after)) :
    ∃ a b c d, (∀ digit ∈ [a, b, c, d], isHexDigit digit) ∧
      cursor.rest = a :: b :: c :: d :: after.rest := by
  unfold hexQuad at read
  split at read
  · next value found =>
    obtain rfl := (Prod.mk.inj (Except.ok.inj read)).2
    unfold hexQuad? at found
    split at found
    · next a b c d rest present =>
      simp only [bind, Option.bind_eq_some_iff] at found
      obtain ⟨_, first, _, second, _, third, _, fourth, -⟩ := found
      refine ⟨a, b, c, d, ?_, by simp [present]⟩
      simp [isHexDigit_of_hexDigit? first, isHexDigit_of_hexDigit? second,
        isHexDigit_of_hexDigit? third, isHexDigit_of_hexDigit? fourth]
    · contradiction
  · split at read <;> contradiction

theorem rest_of_pairMark {expected : Char} {cursor after : Cursor}
    (read : cursor.pairMark expected = .ok after) : cursor.rest = expected :: after.rest := by
  unfold pairMark at read
  split at read
  · simp at read
  next c rest present =>
  split at read
  · next same =>
    obtain rfl := eq_of_beq same
    obtain rfl := Except.ok.inj read
    rw [rest_advance present, present]
  · simp at read

/-- A text that begins the body of a string, whatever body comes after it. -/
def OpensBody (text : List Char) : Prop :=
  ∀ rest, IsStringBody rest → IsStringBody (text ++ rest)

theorem codeUnits_spells {cursor after : Cursor} {decoded : Char}
    (read : cursor.codeUnits = .ok (decoded, after)) :
    ∃ text, OpensBody ('\\' :: 'u' :: text) ∧ cursor.rest = text ++ after.rest := by
  obtain ⟨⟨code, next⟩, first, further⟩ := bind_eq_ok_iff.mp read
  obtain ⟨a, b, c, d, digits, present⟩ := hexQuad_spells first
  dsimp only at further
  split at further
  · simp at further
  split at further
  · obtain ⟨backslash, marked, further⟩ := bind_eq_ok_iff.mp further
    obtain ⟨letter, lettered, further⟩ := bind_eq_ok_iff.mp further
    obtain ⟨⟨low, last⟩, second, further⟩ := bind_eq_ok_iff.mp further
    obtain ⟨e, f, g, h, lowDigits, lowPresent⟩ := hexQuad_spells second
    dsimp only at further
    split at further
    · obtain rfl := (Prod.mk.inj (Except.ok.inj further)).2
      refine ⟨[a, b, c, d, '\\', 'u', e, f, g, h], ?_, ?_⟩
      · exact fun rest body => .codeUnit digits (.codeUnit lowDigits body)
      · rw [present, rest_of_pairMark marked, rest_of_pairMark lettered, lowPresent]
        rfl
    · simp at further
  · obtain rfl := (Prod.mk.inj (Except.ok.inj further)).2
    exact ⟨[a, b, c, d], fun rest body => .codeUnit digits body, present⟩

theorem escape_spells {cursor after : Cursor} {decoded : Char}
    (read : cursor.escape = .ok (decoded, after)) :
    ∃ text, OpensBody ('\\' :: text) ∧ cursor.rest = text ++ after.rest := by
  unfold escape at read
  split at read
  · simp at read
  next letter rest present =>
  split at read
  · next c short =>
    obtain rfl := (Prod.mk.inj (Except.ok.inj read)).2
    refine ⟨[letter], fun rest body => .escape (by simp [short]) body, ?_⟩
    rw [rest_advance present, present]
    rfl
  · split at read
    · next isU =>
      obtain rfl := eq_of_beq isU
      obtain ⟨text, opens, following⟩ := codeUnits_spells read
      rw [rest_advance present] at following
      exact ⟨'u' :: text, opens, by rw [present, following]; rfl⟩
    · simp at read

theorem stringRest_spells {fuel : Nat} {newestFirst : List Char} {cursor after : Cursor}
    {decoded : String} (read : stringRest fuel newestFirst cursor = .ok (decoded, after)) :
    ∃ body, IsStringBody body ∧ cursor.rest = body ++ '\"' :: after.rest := by
  induction fuel generalizing newestFirst cursor with
  | zero => simp [stringRest] at read
  | succ fuel inductionHypothesis =>
    unfold stringRest at read
    split at read
    · simp at read
    next c rest present =>
    split at read
    · next isQuote =>
      obtain rfl := eq_of_beq isQuote
      obtain rfl := (Prod.mk.inj (Except.ok.inj read)).2
      exact ⟨[], .empty, by rw [rest_advance present, present]; rfl⟩
    next noQuote =>
    split at read
    · next isBackslash =>
      obtain rfl := eq_of_beq isBackslash
      split at read
      · next escaped next escapeRead =>
        obtain ⟨text, opens, passed⟩ := escape_spells escapeRead
        obtain ⟨body, spelled, following⟩ := inductionHypothesis read
        rw [rest_advance present] at passed
        exact ⟨'\\' :: text ++ body, opens body spelled, by rw [present, passed, following]; simp⟩
      · contradiction
    next noBackslash =>
    split at read
    · simp at read
    next noControl =>
    obtain ⟨body, spelled, following⟩ := inductionHypothesis read
    rw [rest_advance present] at following
    refine ⟨c :: body, .character (by simpa using noQuote) (by simpa using noBackslash)
      (by simpa using noControl) spelled, by rw [present, following]; rfl⟩

theorem string_spells {cursor after : Cursor} {decoded : String}
    (opens : cursor.rest.head? = some '\"') (read : cursor.string = .ok (decoded, after)) :
    ∃ text, IsString text ∧ cursor.rest = text ++ after.rest := by
  obtain ⟨rest, present⟩ := List.head?_eq_some_iff.mp opens
  obtain ⟨body, spelled, following⟩ := stringRest_spells read
  rw [rest_advance present] at following
  exact ⟨_, .quoted spelled, by rw [present, following]; simp⟩

end Cursor

/-! ## Phrases at the head of a text -/

/-- A text that begins with a phrase, which the rest comes after. -/
def Begins (phrase : Phrase) (text rest : List Char) : Prop :=
  ∃ tokens : List LexicalToken, (∀ token ∈ tokens, token.WellFormed) ∧
    Derives phrase (tokens.map (·.role)) ∧ text = written tokens ++ rest

/-- A text that goes on with parts, each with a comma before it, possibly none. -/
def GoesOn (part : Phrase) (text rest : List Char) : Prop :=
  text = rest ∨ ∃ blanks others, (∀ c ∈ blanks, isSpace c) ∧ text = blanks ++ ',' :: others ∧
    Begins (.several part) others rest

theorem Derives.ne_nil {phrase : Phrase} {roles : List Role} (derives : Derives phrase roles) :
    roles ≠ [] := by
  obtain ⟨last, isLast, -⟩ := derives.fits.ends
  rintro rfl
  simp at isLast

namespace Begins

variable {phrase part : Phrase} {text rest : List Char}

theorem scalar {role : Role} (derives : Derives .value [role]) (spells : role.Spells text)
    (rest : List Char) : Begins .value (text ++ rest) rest := by
  refine ⟨[⟨role, [], text⟩], ?_, derives, by simp⟩
  simpa using LexicalToken.WellFormed.mk (by simp) spells

theorem blanks {blanks : List Char} (blank : ∀ c ∈ blanks, isSpace c)
    (begins : Begins phrase text rest) : Begins phrase (blanks ++ text) rest := by
  obtain ⟨tokens, wellFormed, derives, rfl⟩ := begins
  cases tokens with
  | nil => exact absurd rfl derives.ne_nil
  | cons token tokens =>
    obtain ⟨first, others⟩ := List.forall_mem_cons.mp wellFormed
    refine ⟨{ token with blanks := blanks ++ token.blanks } :: tokens, ?_, derives, by simp⟩
    exact List.forall_mem_cons.mpr
      ⟨⟨List.forall_mem_append.mpr ⟨blank, first.blank⟩, first.spells⟩, others⟩

theorem several {middle : List Char} (begins : Begins part text middle)
    (goesOn : GoesOn part middle rest) : Begins (.several part) text rest := by
  obtain ⟨tokens, wellFormed, derives, rfl⟩ := begins
  obtain rfl | ⟨blanks, others, blank, rfl, following⟩ := goesOn
  · exact ⟨tokens, wellFormed, .one derives, rfl⟩
  · obtain ⟨otherTokens, othersWellFormed, othersDerive, rfl⟩ := following
    have comma : LexicalToken.WellFormed ⟨.comma, blanks, [',']⟩ := ⟨blank, rfl⟩
    refine ⟨tokens ++ ⟨.comma, blanks, [',']⟩ :: otherTokens, ?_, ?_, by simp⟩
    · exact List.forall_mem_append.mpr
        ⟨wellFormed, List.forall_mem_cons.mpr ⟨comma, othersWellFormed⟩⟩
    · simpa using Derives.more derives othersDerive

theorem member {name blanks middle : List Char} (spells : IsString name)
    (blank : ∀ c ∈ blanks, isSpace c) (begins : Begins .value middle rest) :
    Begins .member (name ++ (blanks ++ ':' :: middle)) rest := by
  obtain ⟨tokens, wellFormed, derives, rfl⟩ := begins
  have nameToken : LexicalToken.WellFormed ⟨.name, [], name⟩ := ⟨by simp, spells⟩
  have colonToken : LexicalToken.WellFormed ⟨.colon, blanks, [':']⟩ := ⟨blank, rfl⟩
  refine ⟨⟨.name, [], name⟩ :: ⟨.colon, blanks, [':']⟩ :: tokens, ?_, .member derives, by simp⟩
  exact List.forall_mem_cons.mpr ⟨nameToken, List.forall_mem_cons.mpr ⟨colonToken, wellFormed⟩⟩

theorem enclosed {opens closes : Role} {opening closing : Char}
    (opensSpelled : opens.Spells [opening]) (closesSpelled : closes.Spells [closing])
    (derivesEmpty : Derives .value [opens, closes])
    (derivesFull : ∀ roles, Derives (.several part) roles →
      Derives .value (opens :: (roles ++ [closes])))
    {blanks : List Char} (blank : ∀ c ∈ blanks, isSpace c)
    (inner : text = blanks ++ closing :: rest ∨
      Begins (.several part) text (blanks ++ closing :: rest)) :
    Begins .value (opening :: text) rest := by
  have opensToken : LexicalToken.WellFormed ⟨opens, [], [opening]⟩ := ⟨by simp, opensSpelled⟩
  have closesToken : LexicalToken.WellFormed ⟨closes, blanks, [closing]⟩ := ⟨blank, closesSpelled⟩
  obtain rfl | ⟨tokens, wellFormed, derives, rfl⟩ := inner
  · exact ⟨[⟨opens, [], [opening]⟩, ⟨closes, blanks, [closing]⟩],
      by simpa using ⟨opensToken, closesToken⟩, derivesEmpty, by simp⟩
  · refine ⟨⟨opens, [], [opening]⟩ :: (tokens ++ [⟨closes, blanks, [closing]⟩]), ?_, ?_, by simp⟩
    · refine List.forall_mem_cons.mpr ⟨opensToken, List.forall_mem_append.mpr ⟨wellFormed, ?_⟩⟩
      simpa using closesToken
    · simpa using derivesFull _ derives

end Begins

/-! ## Lists, objects and values -/

namespace Cursor

/-- Where a part between brackets starts: the first one behind blanks, any other one behind a comma
as well. -/
inductive PartStarts (cursor : Cursor) : Bool → Cursor → Prop where
  | first : PartStarts cursor true cursor.skipBlanks
  | later {rest : List Char} (comma : cursor.skipBlanks.rest = ',' :: rest) :
      PartStarts cursor false cursor.skipBlanks.advance.skipBlanks

/-- The parts from a start on are all that there are, or go on with those before them. -/
theorem PartStarts.begins {cursor start : Cursor} {isFirst : Bool}
    (starts : cursor.PartStarts isFirst start) {part : Phrase} {rest : List Char}
    (begins : Begins (.several part) start.rest rest) :
    (isFirst = true → Begins (.several part) cursor.rest rest) ∧
      (isFirst = false → GoesOn part cursor.rest rest) := by
  obtain ⟨before, beforeBlank, cursor_eq⟩ := rest_skipBlanks cursor
  cases starts with
  | first =>
    refine ⟨fun _ => ?_, nofun⟩
    rw [cursor_eq]
    exact begins.blanks beforeBlank
  | later comma =>
    obtain ⟨inner, innerBlank, inner_eq⟩ := rest_skipBlanks cursor.skipBlanks.advance
    rw [rest_advance comma] at inner_eq
    refine ⟨nofun, fun _ => .inr ⟨before, _, beforeBlank, by rw [cursor_eq, comma], ?_⟩⟩
    rw [inner_eq]
    exact begins.blanks innerBlank

section

variable {Item : Type} {read : Cursor → Outcome Item} {fuel : Nat} {newestFirst found : List Item}
  {cursor start last : Cursor}

theorem items_of_starts (starts : cursor.PartStarts newestFirst.isEmpty start)
    (opens : ∃ c ∈ start.rest.head?, c ≠ ']') :
    items read (fuel + 1) newestFirst cursor =
      (read start).bind fun (item, after) => items read fuel (item :: newestFirst) after := by
  obtain ⟨c, isHead, notClosing⟩ := opens
  obtain ⟨rest, start_eq⟩ := List.head?_eq_some_iff.mp isHead
  generalize isFirst : newestFirst.isEmpty = first at starts
  cases starts with
  | first =>
    rw [items, start_eq]
    simp only [beq_iff_eq, notClosing, isFirst, ↓reduceIte]
    cases read cursor.skipBlanks <;> rfl
  | later comma =>
    rw [items, comma]
    simp only [start_eq, beq_iff_eq, notClosing, isFirst, Bool.false_eq_true, ↓reduceIte]
    cases read cursor.skipBlanks.advance.skipBlanks <;> rfl

/-- The items from a cursor on: none before the bracket, or one and those after it. -/
theorem items_succ_iff :
    items read (fuel + 1) newestFirst cursor = .ok (found, last) ↔
      (∃ rest, cursor.skipBlanks.rest = ']' :: rest ∧ found = newestFirst.reverse ∧
        last = cursor.skipBlanks) ∨
      ∃ start item after, cursor.PartStarts newestFirst.isEmpty start ∧
        (∃ c ∈ start.rest.head?, c ≠ ']') ∧ read start = .ok (item, after) ∧
          items read fuel (item :: newestFirst) after = .ok (found, last) := by
  constructor
  · intro passed
    unfold items at passed
    dsimp only at passed
    split at passed
    · simp at passed
    next c rest present =>
    split at passed
    · next closes =>
      obtain ⟨rfl, rfl⟩ := Prod.mk.inj (Except.ok.inj passed)
      rw [eq_of_beq closes] at present
      exact .inl ⟨rest, present, rfl, rfl⟩
    next opens =>
    right
    split at passed
    · next isFirst =>
      split at passed
      · next item after itemRead =>
        refine ⟨_, item, after, isFirst ▸ .first, ⟨c, ?_, by simpa using opens⟩, itemRead, passed⟩
        exact congrArg List.head? present
      · contradiction
    next notFirst =>
    split at passed
    · next isComma =>
      rw [eq_of_beq isComma] at present
      split at passed
      · simp at passed
      next d others startPresent =>
      split at passed
      · simp at passed
      next startOpens =>
      split at passed
      · next item after itemRead =>
        refine ⟨_, item, after, eq_false_of_ne_true notFirst ▸ .later present,
          ⟨d, ?_, by simpa using startOpens⟩, itemRead, passed⟩
        exact congrArg List.head? startPresent
      · contradiction
    · simp at passed
  · rintro (⟨rest, closes, rfl, rfl⟩ | ⟨start, item, after, starts, opens, itemRead, further⟩)
    · rw [items, closes]
      rfl
    · rw [items_of_starts starts opens, itemRead]
      exact further

end

/-- What a reader of values passes over is a value. -/
def ReadsValues {α : Type} (read : Cursor → Outcome α) : Prop :=
  ∀ cursor item after, read cursor = .ok (item, after) → Begins .value cursor.rest after.rest

/-- Items are read as several values, or as their continuation when there are some already. -/
theorem items_spells {Item : Type} {read : Cursor → Outcome Item} (reads : ReadsValues read)
    {fuel : Nat} {newestFirst result : List Item} {cursor after : Cursor}
    (passed : items read fuel newestFirst cursor = .ok (result, after)) :
    ∃ blanks, (∀ c ∈ blanks, isSpace c) ∧
      (newestFirst = [] → cursor.rest = blanks ++ after.rest ∨
        Begins (.several .value) cursor.rest (blanks ++ after.rest)) ∧
      (newestFirst ≠ [] → GoesOn .value cursor.rest (blanks ++ after.rest)) := by
  induction fuel generalizing newestFirst cursor with
  | zero => simp [items] at passed
  | succ fuel inductionHypothesis =>
    rcases items_succ_iff.mp passed with
      ⟨-, -, -, rfl⟩ | ⟨start, item, middle, starts, -, itemRead, further⟩
    · obtain ⟨before, beforeBlank, cursor_eq⟩ := rest_skipBlanks cursor
      exact ⟨before, beforeBlank, fun _ => .inl cursor_eq, fun _ => .inl cursor_eq⟩
    · -- The item makes several values together with what the remaining fuel reads.
      obtain ⟨blanks, blank, -, goesOn⟩ := inductionHypothesis further
      obtain ⟨asFirst, asLater⟩ :=
        starts.begins ((reads start item middle itemRead).several (goesOn (by simp)))
      exact ⟨blanks, blank, fun none => .inr (asFirst (List.isEmpty_iff.mpr none)),
        fun some => asLater (by simpa using some)⟩

theorem rest_of_endOfList {cursor after : Cursor} (ended : endOfList cursor = (after, none)) :
    ∃ blanks, (∀ c ∈ blanks, isSpace c) ∧ cursor.rest = blanks ++ ']' :: after.rest := by
  obtain ⟨blanks, blank, cursor_eq⟩ := rest_skipBlanks cursor
  unfold endOfList at ended
  dsimp only at ended
  split at ended
  · simp at ended
  next c rest present =>
  split at ended
  · next closes =>
    obtain rfl := eq_of_beq closes
    obtain rfl := (Prod.mk.inj ended).1
    exact ⟨blanks, blank, by rw [cursor_eq, rest_advance present, present]⟩
  · split at ended <;> simp at ended

theorem enclosed_cases {α : Type} {ending : Cursor → Cursor × Option Failure}
    {read : Cursor → Outcome α} {cursor after : Cursor} {value : α}
    (passed : enclosed ending read cursor = .ok (value, after)) :
    ∃ middle, read cursor.advance = .ok (value, middle) ∧ ending middle = (after, none) := by
  unfold enclosed at passed
  split at passed
  · next found middle inner =>
    split at passed
    · next last ended =>
      obtain ⟨rfl, rfl⟩ := Prod.mk.inj (Except.ok.inj passed)
      exact ⟨middle, inner, ended⟩
    · contradiction
  · contradiction
  · contradiction

theorem list_spells {Item : Type} {read : Cursor → Outcome Item} (reads : ReadsValues read)
    {cursor after : Cursor} {rest : List Char} (opens : cursor.rest = '[' :: rest)
    {result : List Item} (passed : list read cursor = .ok (result, after)) :
    Begins .value cursor.rest after.rest := by
  obtain ⟨middle, inner, ended⟩ := enclosed_cases passed
  obtain ⟨blanks, blank, spelled, -⟩ := items_spells reads inner
  obtain ⟨last, lastBlank, middle_eq⟩ := rest_of_endOfList ended
  have opensSpelled : Role.listOpens.Spells ['['] := rfl
  have closesSpelled : Role.listCloses.Spells [']'] := rfl
  rw [opens]
  refine Begins.enclosed opensSpelled closesSpelled .emptyList (fun _ => .list)
    (List.forall_mem_append.mpr ⟨blank, lastBlank⟩) ?_
  simpa [rest_advance opens, middle_eq] using spelled rfl

/-- What a reader of members passes over behind a name is a colon and a value. -/
def ReadsMembers {State : Type} (read : State → String → Cursor → Outcome State) : Prop :=
  ∀ state name cursor newState after, read state name cursor = .ok (newState, after) →
    ∃ blanks middle, (∀ c ∈ blanks, isSpace c) ∧ cursor.rest = blanks ++ ':' :: middle ∧
      Begins .value middle after.rest

section

variable {State : Type} {read : State → String → Cursor → Outcome State} {fuel : Nat}
  {isFirst : Bool} {state found : State} {cursor start last : Cursor}

theorem members_of_starts (starts : cursor.PartStarts isFirst start)
    (quoted : start.rest.head? = some '\"') :
    members read (fuel + 1) isFirst state cursor =
      start.string.bind fun (name, afterName) =>
        (read state name afterName).bind fun (newState, after) =>
          members read fuel false newState after := by
  obtain ⟨rest, start_eq⟩ := List.head?_eq_some_iff.mp quoted
  have quoteIsNoEnd : ('\"' == '}') = false := by decide
  have commaIsNoEnd : (',' == '}') = false := by decide
  cases starts with
  | first =>
    rw [members, start_eq]
    simp only [quoteIsNoEnd, Bool.false_eq_true, beq_self_eq_true, ↓reduceIte]
    cases cursor.skipBlanks.string with
    | error => rfl
    | ok named =>
      obtain ⟨name, afterName⟩ := named
      dsimp only [Except.bind]
      cases read state name afterName <;> rfl
  | later comma =>
    rw [members, comma]
    simp only [commaIsNoEnd, start_eq, Bool.false_eq_true, beq_self_eq_true, ↓reduceIte]
    cases cursor.skipBlanks.advance.skipBlanks.string with
    | error => rfl
    | ok named =>
      obtain ⟨name, afterName⟩ := named
      dsimp only [Except.bind]
      cases read state name afterName <;> rfl

/-- The members from a cursor on: none before the brace, or one and those after it. -/
theorem members_cases (passed : members read (fuel + 1) isFirst state cursor = .ok (found, last)) :
    last = cursor.skipBlanks ∨
      ∃ start name afterName newState middle, cursor.PartStarts isFirst start ∧
        start.rest.head? = some '\"' ∧ start.string = .ok (name, afterName) ∧
          read state name afterName = .ok (newState, middle) ∧
            members read fuel false newState middle = .ok (found, last) := by
  have continued {start : Cursor} (starts : cursor.PartStarts isFirst start)
      (quoted : start.rest.head? = some '\"') :
      ∃ start name afterName newState middle, cursor.PartStarts isFirst start ∧
        start.rest.head? = some '\"' ∧ start.string = .ok (name, afterName) ∧
          read state name afterName = .ok (newState, middle) ∧
            members read fuel false newState middle = .ok (found, last) := by
    rw [members_of_starts starts quoted] at passed
    obtain ⟨⟨name, afterName⟩, nameRead, others⟩ := bind_eq_ok_iff.mp passed
    obtain ⟨⟨newState, middle⟩, memberRead, further⟩ := bind_eq_ok_iff.mp others
    exact ⟨start, name, afterName, newState, middle, starts, quoted, nameRead, memberRead, further⟩
  have here := passed
  unfold members at here
  dsimp only at here
  split at here
  · simp at here
  next c rest present =>
  split at here
  · exact .inl (Prod.mk.inj (Except.ok.inj here)).2.symm
  right
  split at here
  · next first =>
    subst first
    split at here
    · next isQuote => exact continued .first (by simp [present, eq_of_beq isQuote])
    · simp at here
  next notFirst =>
  obtain rfl := eq_false_of_ne_true notFirst
  split at here
  · next isComma =>
    rw [eq_of_beq isComma] at present
    split at here
    · simp at here
    next d others startPresent =>
    split at here
    · next isQuote => exact continued (.later present) (by simp [startPresent, eq_of_beq isQuote])
    · split at here <;> simp at here
  · simp at here

end

/-- Members are read as several members, or as their continuation when there are some already. -/
theorem members_spells {State : Type} {read : State → String → Cursor → Outcome State}
    (reads : ReadsMembers read) {fuel : Nat} {isFirst : Bool} {state result : State}
    {cursor after : Cursor}
    (passed : members read fuel isFirst state cursor = .ok (result, after)) :
    ∃ blanks, (∀ c ∈ blanks, isSpace c) ∧
      (isFirst = true → cursor.rest = blanks ++ after.rest ∨
        Begins (.several .member) cursor.rest (blanks ++ after.rest)) ∧
      (isFirst = false → GoesOn .member cursor.rest (blanks ++ after.rest)) := by
  induction fuel generalizing isFirst state cursor with
  | zero => simp [members] at passed
  | succ fuel inductionHypothesis =>
    rcases members_cases passed with rfl |
      ⟨start, name, afterName, newState, middle, starts, quoted, nameRead, memberRead, further⟩
    · obtain ⟨before, beforeBlank, cursor_eq⟩ := rest_skipBlanks cursor
      exact ⟨before, beforeBlank, fun _ => .inl cursor_eq, fun _ => .inl cursor_eq⟩
    · obtain ⟨text, spells, start_eq⟩ := string_spells quoted nameRead
      obtain ⟨inner, value, innerBlank, afterName_eq, begins⟩ :=
        reads state name afterName newState middle memberRead
      obtain ⟨blanks, blank, -, goesOn⟩ := inductionHypothesis further
      -- The member makes several members together with what the remaining fuel reads.
      have several : Begins (.several .member) start.rest (blanks ++ after.rest) := by
        rw [start_eq, afterName_eq]
        exact (Begins.member spells innerBlank begins).several (goesOn rfl)
      obtain ⟨asFirst, asLater⟩ := starts.begins several
      exact ⟨blanks, blank, fun first => .inr (asFirst first), asLater⟩

theorem rest_of_endOfObject {cursor after : Cursor} (ended : endOfObject cursor = (after, none)) :
    ∃ blanks, (∀ c ∈ blanks, isSpace c) ∧ cursor.rest = blanks ++ '}' :: after.rest := by
  obtain ⟨blanks, blank, cursor_eq⟩ := rest_skipBlanks cursor
  unfold endOfObject at ended
  dsimp only at ended
  split at ended
  · simp at ended
  next c rest present =>
  split at ended
  · next closes =>
    obtain rfl := eq_of_beq closes
    obtain rfl := (Prod.mk.inj ended).1
    exact ⟨blanks, blank, by rw [cursor_eq, rest_advance present, present]⟩
  · split at ended <;> simp at ended

theorem rest_of_colon {cursor after : Cursor} (read : cursor.colon = .ok after) :
    ∃ blanks, (∀ c ∈ blanks, isSpace c) ∧ cursor.rest = blanks ++ ':' :: after.rest := by
  obtain ⟨blanks, blank, cursor_eq⟩ := rest_skipBlanks cursor
  unfold colon at read
  dsimp only at read
  split at read
  · simp at read
  next c rest present =>
  split at read
  · next isColon =>
    obtain rfl := eq_of_beq isColon
    obtain rfl := Except.ok.inj read
    exact ⟨blanks, blank, by rw [cursor_eq, rest_advance present, present]⟩
  · simp at read

theorem readsMembers_sortedMember {read : Cursor → Outcome Json} (reads : ReadsValues read) :
    ReadsMembers (sortedMember read) := by
  intro known name cursor newKnown after passed
  obtain ⟨middle, colonRead, further⟩ := bind_eq_ok_iff.mp passed
  obtain ⟨⟨value, last⟩, valueRead, returned⟩ := bind_eq_ok_iff.mp further
  obtain rfl : last = after := (Prod.mk.inj (Except.ok.inj returned)).2
  obtain ⟨blanks, blank, cursor_eq⟩ := rest_of_colon colonRead
  exact ⟨blanks, middle.rest, blank, cursor_eq, reads middle value last valueRead⟩

theorem object_spells {read : Cursor → Outcome Json} (reads : ReadsValues read)
    {cursor after : Cursor} {rest : List Char} (opens : cursor.rest = '{' :: rest)
    {result : List (String × Json)} (passed : object read cursor = .ok (result, after)) :
    Begins .value cursor.rest after.rest := by
  obtain ⟨middle, inner, ended⟩ := enclosed_cases passed
  obtain ⟨blanks, blank, spelled, -⟩ := members_spells (readsMembers_sortedMember reads) inner
  obtain ⟨last, lastBlank, middle_eq⟩ := rest_of_endOfObject ended
  have opensSpelled : Role.objectOpens.Spells ['{'] := rfl
  have closesSpelled : Role.objectCloses.Spells ['}'] := rfl
  rw [opens]
  refine Begins.enclosed opensSpelled closesSpelled .emptyObject (fun _ => .object)
    (List.forall_mem_append.mpr ⟨blank, lastBlank⟩) ?_
  simpa [rest_advance opens, middle_eq] using spelled rfl

theorem word_begins {expected : String} {role : Role} (derives : Derives .value [role])
    (spells : role.Spells expected.toList) {json result : Json} {cursor after : Cursor}
    (passed : (do return (json, ← word expected.toList cursor)) =
      (.ok (result, after) : Except Failure (Json × Cursor))) :
    Begins .value cursor.rest after.rest := by
  obtain ⟨last, read, returned⟩ := bind_eq_ok_iff.mp passed
  obtain rfl : last = after := (Prod.mk.inj (Except.ok.inj returned)).2
  rw [rest_of_word read]
  exact Begins.scalar derives spells _

/-- Values are read as values when those that they enclose are. -/
theorem readsValues_of_inner {levels : Nat}
    (inner : ∀ lower, levels = lower + 1 → ReadsValues (value lower)) :
    ReadsValues (value levels) := by
  intro cursor json after passed
  obtain ⟨blanks, blank, cursor_eq⟩ := rest_skipBlanks cursor
  rw [cursor_eq]
  refine Begins.blanks blank ?_
  unfold value at passed
  dsimp only at passed
  split at passed
  · simp at passed
  next c rest present =>
  split at passed
  · exact word_begins .null rfl passed
  split at passed
  · exact word_begins .boolean (.inl rfl) passed
  split at passed
  · exact word_begins .boolean (.inr rfl) passed
  split at passed
  · obtain ⟨⟨numeral, last⟩, read, returned⟩ := bind_eq_ok_iff.mp passed
    obtain rfl : last = after := (Prod.mk.inj (Except.ok.inj returned)).2
    obtain ⟨text, spells, next_eq⟩ := signedNumeral_spells read
    rw [next_eq]
    exact Begins.scalar .numeral spells _
  split at passed
  · next isQuote =>
    obtain ⟨⟨decoded, last⟩, read, returned⟩ := bind_eq_ok_iff.mp passed
    obtain rfl : last = after := (Prod.mk.inj (Except.ok.inj returned)).2
    obtain ⟨text, spells, next_eq⟩ := string_spells (by simp [present, eq_of_beq isQuote]) read
    rw [next_eq]
    exact Begins.scalar .string spells _
  split at passed
  · next isBracket =>
    obtain rfl := eq_of_beq isBracket
    cases levels with
    | zero => simp at passed
    | succ lower =>
      obtain ⟨⟨items, last⟩, read, returned⟩ := bind_eq_ok_iff.mp passed
      obtain rfl : last = after := (Prod.mk.inj (Except.ok.inj returned)).2
      exact list_spells (inner lower rfl) present read
  split at passed
  · next isBrace =>
    obtain rfl := eq_of_beq isBrace
    cases levels with
    | zero => simp at passed
    | succ lower =>
      obtain ⟨⟨members, last⟩, read, returned⟩ := bind_eq_ok_iff.mp passed
      obtain rfl : last = after := (Prod.mk.inj (Except.ok.inj returned)).2
      exact object_spells (inner lower rfl) present read
  · simp at passed

theorem readsValues_value (levels : Nat) : ReadsValues (value levels) := by
  induction levels with
  | zero => exact readsValues_of_inner (by simp)
  | succ lower inductionHypothesis =>
    refine readsValues_of_inner fun other same => ?_
    rwa [← Nat.succ.inj same]

end Cursor

/-- A text is read as a whole when nothing but blanks is left of it. -/
theorem readAll_eq_ok_iff {α : Type} {read : Cursor → Outcome α} {text : String} {value : α} :
    readAll read text = .ok value ↔
      ∃ after, read (.start text.toList) = .ok (value, after) ∧ after.skipBlanks.rest = [] := by
  rw [readAll, bind_eq_ok_iff]
  constructor
  · rintro ⟨⟨found, after⟩, found_eq, ended⟩
    dsimp only at ended
    split at ended
    · next empty =>
      obtain rfl := Except.ok.inj ended
      exact ⟨after, found_eq, List.isEmpty_iff.mp empty⟩
    · simp at ended
  · rintro ⟨after, read_eq, empty⟩
    exact ⟨(value, after), read_eq, by simp [empty, pure, Except.pure]⟩

theorem isDocument_of_parse {text : String} {json : Json} (parsed : parse text = .ok json) :
    ∃ tokens, IsDocument tokens text.toList := by
  obtain ⟨after, read, atEnd⟩ := readAll_eq_ok_iff.mp parsed
  obtain ⟨tokens, wellFormed, derives, text_eq⟩ := Cursor.readsValues_value maxLevels _ _ _ read
  obtain ⟨trailing, blank, after_eq⟩ := Cursor.rest_skipBlanks after
  refine ⟨tokens, derives, wellFormed, trailing, blank, ?_⟩
  rw [atEnd, List.append_nil] at after_eq
  rw [← after_eq]
  exact text_eq

end Highlight.Json
