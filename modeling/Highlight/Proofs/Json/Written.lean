import Highlight.Json.Decoder
import Highlight.Json.Printer
import Highlight.Proofs.Hexadecimal
import Highlight.Proofs.Json.NumeralText

/-!
Reading what was written. A value whose text starts with no blank is read from that text whatever
blanks are before it and whatever is after it, unless a numeral would go on there; so the texts of
values can be put together between brackets and are still read.
-/

set_option autoImplicit false

namespace Highlight.Json

open Cursor (isSpace isControl shortEscape? isLowSurrogate isHighSurrogate signedNumeral_spells)
open Text (hexDigit? lowerHexDigit hexDigit?_lowerHexDigit)

namespace Cursor

/-- A cursor is before a text that fits its bound. -/
structure Before (cursor : Cursor) (text : List Char) : Prop where
  rest_eq : cursor.rest = text
  fits : text.length ≤ cursor.bound

theorem before_start (text : List Char) : (start text).Before text :=
  ⟨rfl, le_rfl⟩

namespace Before

variable {cursor : Cursor} {c : Char} {blanks rest : List Char}

theorem advance (here : cursor.Before (c :: rest)) : cursor.advance.Before rest where
  rest_eq := rest_advance here.rest_eq
  fits := by
    have fits := here.fits
    rw [List.length_cons] at fits
    simp only [Cursor.advance, here.rest_eq]
    omega

theorem advanceBy {passed : List Char} (here : cursor.Before (passed ++ rest)) :
    (cursor.advanceBy passed.length).Before rest where
  rest_eq := by rw [rest_advanceBy, here.rest_eq, List.drop_left]
  fits := by
    have fits := here.fits
    rw [List.length_append] at fits
    exact Nat.le_trans (Nat.le_add_left _ _) fits

theorem skipBlanks (here : cursor.Before (blanks ++ c :: rest)) (blank : ∀ d ∈ blanks, isSpace d)
    (notBlank : isSpace c = false) : cursor.skipBlanks.Before (c :: rest) where
  rest_eq := by
    change cursor.rest.dropWhile isSpace = _
    rw [here.rest_eq, List.dropWhile_append_of_pos blank,
      List.dropWhile_cons_of_neg (by simp [notBlank])]
  fits := by
    have fits := here.fits
    rw [List.length_append] at fits
    exact Nat.le_trans (Nat.le_add_left _ _) fits

theorem skipNoBlanks (here : cursor.Before (c :: rest)) (notBlank : isSpace c = false) :
    cursor.skipBlanks.Before (c :: rest) := by
  have noBlanks : cursor.Before ([] ++ c :: rest) := here
  exact noBlanks.skipBlanks (by simp) notBlank

theorem word (expected : List Char) (here : cursor.Before (expected ++ rest)) :
    ∃ after, Cursor.word expected cursor = .ok after ∧ after.Before rest := by
  induction expected generalizing cursor with
  | nil => exact ⟨cursor, rfl, here⟩
  | cons c expected inductionHypothesis =>
    obtain ⟨after, read, before⟩ := inductionHypothesis here.advance
    refine ⟨after, ?_, before⟩
    rw [Cursor.word, here.rest_eq]
    simpa using read

/-! ## Strings -/

theorem escape {letter : Char} (here : cursor.Before (letter :: rest))
    (short : shortEscape? letter = some c) : cursor.escape = .ok (c, cursor.advance) := by
  rw [Cursor.escape, here.rest_eq]
  simp [short]

/-- The escape of a control character without an escape of one letter. -/
theorem escapeCode (control : c.toNat < 0x20)
    (here : cursor.Before
      (['u', '0', '0', lowerHexDigit (c.toNat / 16), lowerHexDigit (c.toNat % 16)] ++ rest)) :
    ∃ after, cursor.escape = .ok (c, after) ∧ after.Before rest := by
  have digits : (cursor.advance).Before
      (['0', '0', lowerHexDigit (c.toNat / 16), lowerHexDigit (c.toNat % 16)] ++ rest) :=
    here.advance
  refine ⟨cursor.advance.advanceBy 4, ?_, digits.advanceBy⟩
  have zero : hexDigit? '0' = some 0 := by decide
  have high := hexDigit?_lowerHexDigit (c.toNat / 16) (by omega)
  have low := hexDigit?_lowerHexDigit (c.toNat % 16) (by omega)
  have code : hexQuad? cursor.advance.rest = some c.toNat := by
    rw [digits.rest_eq]
    simp only [List.cons_append, hexQuad?, zero, high, low]
    simp only [bind, Option.bind]
    congr 1
    omega
  have noLow : isLowSurrogate c.toNat = false := by
    simp [isLowSurrogate]
    omega
  have noHigh : isHighSurrogate c.toNat = false := by
    simp [isHighSurrogate]
    omega
  have notShort : shortEscape? 'u' = none := by decide
  rw [Cursor.escape, here.rest_eq]
  simp [notShort, codeUnits, hexQuad, code, noLow, noHigh, bind, Except.bind, pure, Except.pure]

end Before

end Cursor

/-- A character is written as an escape of one letter, by its code, or as it is. -/
theorem renderChar_cases (c : Char) :
    (∃ letter, shortEscape? letter = some c ∧ renderChar c = ['\\', letter]) ∨
      (c.toNat < 0x20 ∧ renderChar c = '\\' :: ['u', '0', '0', lowerHexDigit (c.toNat / 16),
        lowerHexDigit (c.toNat % 16)]) ∨
      (c ≠ '\"' ∧ c ≠ '\\' ∧ isControl c = false ∧ renderChar c = [c]) := by
  by_cases quote : c = '\"'
  · subst quote
    exact .inl ⟨'\"', rfl, rfl⟩
  by_cases backslash : c = '\\'
  · subst backslash
    exact .inl ⟨'\\', rfl, rfl⟩
  by_cases backspace : c = '\x08'
  · subst backspace
    exact .inl ⟨'b', rfl, rfl⟩
  by_cases formFeed : c = '\x0c'
  · subst formFeed
    exact .inl ⟨'f', rfl, rfl⟩
  by_cases lineFeed : c = '\n'
  · subst lineFeed
    exact .inl ⟨'n', rfl, rfl⟩
  by_cases carriageReturn : c = '\r'
  · subst carriageReturn
    exact .inl ⟨'r', rfl, rfl⟩
  by_cases tab : c = '\t'
  · subst tab
    exact .inl ⟨'t', rfl, rfl⟩
  -- Any other character is written by its code, or as it is.
  have plain : renderChar c = if c.toNat < 0x20 then
      ['\\', 'u', '0', '0', lowerHexDigit (c.toNat / 16), lowerHexDigit (c.toNat % 16)]
      else [c] := by
    rw [renderChar, if_neg quote, if_neg backslash, if_neg backspace, if_neg formFeed,
      if_neg lineFeed, if_neg carriageReturn, if_neg tab]
  by_cases control : c.toNat < 0x20
  · rw [if_pos control] at plain
    exact .inr (.inl ⟨control, plain⟩)
  · rw [if_neg control] at plain
    exact .inr (.inr ⟨quote, backslash, by simpa [isControl] using control, plain⟩)

theorem length_le_length_flatMap_renderChar (text : List Char) :
    text.length ≤ (text.flatMap renderChar).length := by
  induction text with
  | nil => rfl
  | cons c text inductionHypothesis =>
    have positive : 0 < (renderChar c).length := by
      rcases renderChar_cases c with ⟨letter, -, rendered⟩ | ⟨-, rendered⟩ | ⟨-, -, -, rendered⟩ <;>
        rw [rendered] <;> exact Nat.succ_pos _
    rw [List.flatMap_cons, List.length_append, List.length_cons]
    omega

theorem toList_renderString (text : String) :
    (renderString text).toList = '\"' :: (text.toList.flatMap renderChar ++ ['\"']) :=
  String.toList_ofList

namespace Cursor.Before

variable {cursor : Cursor} {rest : List Char}

theorem stringStep {c : Char} (here : cursor.Before (renderChar c ++ rest)) (fuel : Nat)
    (newestFirst : List Char) :
    ∃ next, stringRest (fuel + 1) newestFirst cursor = stringRest fuel (c :: newestFirst) next ∧
      next.Before rest := by
  rcases renderChar_cases c with ⟨letter, short, rendered⟩ | ⟨control, rendered⟩ |
    ⟨notQuote, notBackslash, notControl, rendered⟩
  · rw [rendered] at here
    refine ⟨cursor.advance.advance, ?_, here.advance.advance⟩
    rw [stringRest, here.rest_eq]
    simp [here.advance.escape short]
  · rw [rendered] at here
    obtain ⟨after, read, before⟩ := here.advance.escapeCode control
    refine ⟨after, ?_, before⟩
    rw [stringRest, here.rest_eq]
    simp [read]
  · rw [rendered] at here
    refine ⟨cursor.advance, ?_, here.advance⟩
    rw [stringRest, here.rest_eq]
    simp [notQuote, notBackslash, notControl]

theorem stringRest (text : List Char) {fuel : Nat} (enough : text.length < fuel)
    {newestFirst : List Char} (here : cursor.Before (text.flatMap renderChar ++ '\"' :: rest)) :
    ∃ after, Cursor.stringRest fuel newestFirst cursor =
        .ok (String.ofList (newestFirst.reverse ++ text), after) ∧ after.Before rest := by
  induction text generalizing cursor fuel newestFirst with
  | nil =>
    obtain ⟨fuel, rfl⟩ := Nat.exists_eq_add_of_lt enough
    refine ⟨cursor.advance, ?_, here.advance⟩
    rw [List.length_nil, Cursor.stringRest, here.rest_eq]
    simp
  | cons c text inductionHypothesis =>
    obtain ⟨fuel, rfl⟩ := Nat.exists_eq_add_of_lt enough
    rw [List.flatMap_cons, List.append_assoc] at here
    obtain ⟨next, step, before⟩ := here.stringStep _ newestFirst
    have shorter : text.length < (c :: text).length + fuel := by
      rw [List.length_cons]
      omega
    obtain ⟨after, read, last⟩ := inductionHypothesis shorter before
    refine ⟨after, ?_, last⟩
    rw [step, read]
    simp

theorem string {text : String} (here : cursor.Before ((renderString text).toList ++ rest)) :
    ∃ after, cursor.string = .ok (text, after) ∧ after.Before rest := by
  rw [toList_renderString, List.cons_append, List.append_assoc] at here
  have enough : text.toList.length < cursor.bound + 1 := by
    have fits := here.fits
    have longer := length_le_length_flatMap_renderChar text.toList
    rw [List.length_cons, List.length_append] at fits
    omega
  obtain ⟨after, read, before⟩ := here.advance.stringRest text.toList enough
  refine ⟨after, ?_, before⟩
  rw [Cursor.string, read]
  simp

theorem colon (here : cursor.Before (':' :: rest)) :
    ∃ after, cursor.colon = .ok after ∧ after.Before rest := by
  have next := here.skipNoBlanks (by decide)
  refine ⟨cursor.skipBlanks.advance, ?_, next.advance⟩
  rw [Cursor.colon, next.rest_eq]
  rfl

end Cursor.Before

/-! ## Values -/

/-- A text that is read as a value, after any blanks and before anything that does not go on with a
numeral. -/
structure ReadsAs {α : Type} (decode : Decoder α) (text : List Char) (value : α) : Prop where
  opens : ∃ c rest, text = c :: rest ∧ isSpace c = false ∧ c ≠ ']'
  reads : ∀ {cursor : Cursor} {blanks following : List Char},
    cursor.Before (blanks ++ (text ++ following)) → (∀ c ∈ blanks, isSpace c) →
      EndsNumeral following →
        ∃ after, decode cursor = .ok (value, after) ∧ after.Before following

namespace ReadsAs

variable {α : Type} {decode : Decoder α} {value : α}

theorem readsHere {text : List Char} (reads : ReadsAs decode text value) {cursor : Cursor}
    {following : List Char} (here : cursor.Before (text ++ following))
    (ends : EndsNumeral following) :
    ∃ after, decode cursor = .ok (value, after) ∧ after.Before following := by
  have noBlanks : cursor.Before ([] ++ (text ++ following)) := here
  exact reads.reads noBlanks (by simp) ends

theorem readAll {text : String} (reads : ReadsAs decode text.toList value) :
    Json.readAll decode text = .ok value := by
  have start : (Cursor.start text.toList).Before (text.toList ++ []) := by
    rw [List.append_nil]
    exact Cursor.before_start _
  obtain ⟨after, read, last⟩ := reads.readsHere start (by simp [EndsNumeral])
  have empty : after.skipBlanks.rest = [] := by
    change after.rest.dropWhile isSpace = []
    rw [last.rest_eq]
    rfl
  exact readAll_eq_ok_iff.mpr ⟨after, read, empty⟩

theorem beyondBlanks {read : Char → Decoder α} {c : Char} {rest : List Char}
    (notBlank : isSpace c = false) (notClosing : c ≠ ']')
    (reads : ∀ {cursor : Cursor} {following : List Char},
      cursor.Before (c :: (rest ++ following)) → EndsNumeral following →
        ∃ after, read c cursor = .ok (value, after) ∧ after.Before following) :
    ReadsAs (Decoder.beyondBlanks read) (c :: rest) value where
  opens := ⟨c, rest, rfl, notBlank, notClosing⟩
  reads := by
    intro cursor blanks following here blank ends
    have next := here.skipBlanks blank notBlank
    obtain ⟨after, decoded, before⟩ := reads next ends
    refine ⟨after, ?_, before⟩
    rw [Decoder.beyondBlanks, next.rest_eq]
    exact decoded

theorem textAs (expected text : String) :
    ReadsAs (Decoder.textAs expected) (renderString text).toList text := by
  rw [Decoder.textAs, toList_renderString]
  have notBlank : isSpace '\"' = false := by decide
  refine beyondBlanks notBlank (by decide) ?_
  intro cursor following here ends
  rw [← List.cons_append, ← toList_renderString] at here
  exact here.string

theorem text (text : String) : ReadsAs Decoder.text (renderString text).toList text :=
  textAs "a string" text

theorem variant {named : List (String × α)} {name : String}
    (known : named.lookup name = some value) :
    ReadsAs (Decoder.variant named) (renderString name).toList value where
  opens := (ReadsAs.text name).opens
  reads := by
    intro cursor blanks following here blank ends
    have quoted : (renderString name).toList ++ following =
        '\"' :: (name.toList.flatMap renderChar ++ ['\"'] ++ following) := by
      rw [toList_renderString, List.cons_append]
    rw [quoted] at here
    have next := here.skipBlanks blank (by decide)
    have whole := next
    rw [← quoted] at whole
    obtain ⟨after, read, before⟩ := (textAs "variant identifier" name).readsHere whole ends
    refine ⟨after, ?_, before⟩
    rw [Decoder.variant, next.rest_eq]
    simp [Decoder.variantName, read, Except.bind, known]

theorem flag (isOn : Bool) :
    ReadsAs Decoder.flag (if isOn then "true" else "false").toList isOn := by
  cases isOn with
  | false =>
    have notBlank : isSpace 'f' = false := by decide
    refine beyondBlanks notBlank (by decide) ?_
    intro cursor following here ends
    obtain ⟨after, read, before⟩ := here.word "false".toList
    refine ⟨after, ?_, before⟩
    change (cursor.word "false".toList).map (false, ·) = _
    rw [read]
    rfl
  | true =>
    have notBlank : isSpace 't' = false := by decide
    refine beyondBlanks notBlank (by decide) ?_
    intro cursor following here ends
    obtain ⟨after, read, before⟩ := here.word "true".toList
    refine ⟨after, ?_, before⟩
    change (cursor.word "true".toList).map (true, ·) = _
    rw [read]
    rfl

theorem meaningful {meaning : String → Except String α} {text : String}
    (means : meaning text = .ok value) :
    ReadsAs (Decoder.meaningful meaning) (renderString text).toList value where
  opens := (ReadsAs.text text).opens
  reads := by
    intro cursor blanks following here blank ends
    obtain ⟨after, read, before⟩ := (ReadsAs.text text).reads here blank ends
    refine ⟨after, ?_, before⟩
    rw [Decoder.meaningful, read]
    simp [Except.bind, means]

end ReadsAs

/-! ## Lengths -/

theorem Decoder.mismatch_ne_ok {α : Type} (expected : String) (cursor : Cursor)
    (result : α × Cursor) : mismatch expected cursor ≠ .ok result := by
  have refused {β : Type} (first : Except Failure β) (stopped : β → Cursor) (cause : β → Cause) :
      first.bind (fun found => (stopped found).fail (cause found)) ≠ .ok result := by
    cases first <;> simp [Except.bind]
  unfold mismatch
  split
  · simp
  dsimp only
  split
  · apply refused
  split
  · apply refused
  split
  · apply refused
  split
  · apply refused
  split
  · apply refused
  split
  · simp
  split
  · simp
  · simp

theorem Decoder.beyondBlanks_eq_ok_iff {α : Type} {read : Char → Decoder α} {cursor : Cursor}
    {result : α × Cursor} :
    beyondBlanks read cursor = .ok result ↔
      ∃ c rest, cursor.skipBlanks.rest = c :: rest ∧ read c cursor.skipBlanks = .ok result := by
  rw [beyondBlanks]
  cases cursor.skipBlanks.rest with
  | nil => simp
  | cons c rest => simp

/-- A number is read from a numeral behind blanks that can be converted. -/
theorem Decoder.numeric_eq_ok_iff {α : Type} {expected : String}
    {convert : Numeral → Except Cause α} {cursor after : Cursor} {value : α} :
    numeric expected convert cursor = .ok (value, after) ↔
      ∃ c rest numeral, cursor.skipBlanks.rest = c :: rest ∧ (c == '-' || c.isDigit) ∧
        cursor.skipBlanks.signedNumeral = .ok (numeral, after) ∧ convert numeral = .ok value := by
  rw [numeric, beyondBlanks_eq_ok_iff]
  constructor
  · rintro ⟨c, rest, present, read⟩
    split at read
    · next starts =>
      obtain ⟨⟨numeral, last⟩, numeralRead, read⟩ := bind_eq_ok_iff.mp read
      dsimp only at read
      split at read
      · next converted =>
        obtain ⟨rfl, rfl⟩ := Prod.mk.inj (Except.ok.inj read)
        exact ⟨c, rest, numeral, present, starts, numeralRead, converted⟩
      · simp at read
    · exact absurd read (mismatch_ne_ok _ _ _)
  · rintro ⟨c, rest, numeral, present, starts, numeralRead, converted⟩
    refine ⟨c, rest, present, ?_⟩
    rw [if_pos starts, numeralRead]
    simp [Except.bind, converted]

/-- The digits that a length is written with tell it from all others. -/
def ReadsBack (length : Single) : Prop :=
  (readAll Decoder.single (Numeral.length length).render).toOption = some length

instance (length : Single) : Decidable (ReadsBack length) :=
  inferInstanceAs (Decidable (_ = _))

theorem not_isNumeralCharacter_of_isSpace {c : Char} (blank : isSpace c) :
    isNumeralCharacter c = false := by
  simp only [isSpace, Bool.or_eq_true, beq_iff_eq] at blank
  rcases blank with ((rfl | rfl) | rfl) | rfl <;> decide

theorem not_isSpace_of_isNumeralCharacter {c : Char} (numeral : isNumeralCharacter c) :
    isSpace c = false := by
  cases blank : isSpace c with
  | false => rfl
  | true =>
    rw [not_isNumeralCharacter_of_isSpace blank] at numeral
    contradiction

/-- There are no blanks in front of what numerals consist of. -/
theorem rest_skipBlanks_of_numeral {cursor : Cursor}
    (isNumeral : ∀ c ∈ cursor.rest, isNumeralCharacter c) :
    cursor.skipBlanks.rest = cursor.rest := by
  change cursor.rest.dropWhile isSpace = _
  cases rest_eq : cursor.rest with
  | nil => rfl
  | cons c rest =>
    have notBlank := not_isSpace_of_isNumeralCharacter (isNumeral c (by simp [rest_eq]))
    exact List.dropWhile_cons_of_neg (by simp [notBlank])

/-- All that is written for the length is a numeral. -/
theorem ReadsBack.signedNumeral {length : Single} (readsBack : ReadsBack length) :
    ∃ (c : Char) (rest : List Char) (short after : Cursor) (numeral : Numeral),
      (Numeral.length length).render.toList = c :: rest ∧ short.rest = c :: rest ∧
        (c == '-' || c.isDigit) ∧ short.signedNumeral = .ok (numeral, after) ∧
          numeral.toSingle = length ∧ after.rest = [] := by
  have isNumeral : IsNumeralText (Numeral.length length).render := .renderFinite .single length
  unfold ReadsBack at readsBack
  generalize (Numeral.length length).render = text at isNumeral readsBack ⊢
  have read : readAll Decoder.single text = .ok length := by
    cases read : readAll Decoder.single text with
    | error failure => simp [read, Except.toOption] at readsBack
    | ok found => simpa [read, Except.toOption] using readsBack
  obtain ⟨after, decoded, ended⟩ := readAll_eq_ok_iff.mp read
  obtain ⟨c, rest, numeral, present, starts, numeralRead, converted⟩ :=
    Decoder.numeric_eq_ok_iff.mp decoded
  have whole : (Cursor.start text.toList).skipBlanks.rest = text.toList :=
    rest_skipBlanks_of_numeral isNumeral
  -- What the numeral leaves would be no blanks, which are all that may be left.
  obtain ⟨passed, -, split⟩ := signedNumeral_spells numeralRead
  have left : ∀ d ∈ after.rest, isNumeralCharacter d := by
    intro d member
    refine isNumeral d ?_
    rw [← whole, split]
    exact List.mem_append_right passed member
  rw [rest_skipBlanks_of_numeral left] at ended
  exact ⟨c, rest, _, after, numeral, whole.symm.trans present, present, starts, numeralRead,
    Except.ok.inj converted, ended⟩

namespace ReadsAs

variable {α : Type}

/-- A numeral that is read from a text of its own is read before any text that does not go on with
it. -/
theorem numeric {expected : String} {convert : Numeral → Except Cause α} {value : α} {c : Char}
    {rest : List Char} {numeral : Numeral} {short after : Cursor} (starts : c == '-' || c.isDigit)
    (short_eq : short.rest = c :: rest) (read : short.signedNumeral = .ok (numeral, after))
    (atEnd : after.rest = []) (converted : convert numeral = .ok value) :
    ReadsAs (Decoder.numeric expected convert) (c :: rest) value := by
  have isNumeral : isNumeralCharacter c := by
    rcases Bool.or_eq_true_iff.mp starts with isMinus | isDigit
    · rw [eq_of_beq isMinus]
      rfl
    · exact isNumeralCharacter_of_isDigit c isDigit
  have notClosing : c ≠ ']' := by
    rintro rfl
    contradiction
  rw [Decoder.numeric]
  refine beyondBlanks (not_isSpace_of_isNumeralCharacter isNumeral) notClosing ?_
  intro cursor following here ends
  have same : Cursor.Extends following cursor.bound short cursor :=
    ⟨by rw [here.rest_eq, short_eq]; rfl, rfl⟩
  obtain ⟨longAfter, longRead, last⟩ := same.signedNumeral ends read
  have last_eq : longAfter.rest = following := by
    rw [last.rest_eq, atEnd, List.nil_append]
  refine ⟨longAfter, ?_, last_eq, ?_⟩
  · rw [if_pos starts, longRead]
    simp [Except.bind, converted]
  · have fits := here.fits
    rw [List.length_cons, List.length_append] at fits
    rw [last.bound_eq]
    omega

theorem single {length : Single} (readsBack : ReadsBack length) :
    ReadsAs Decoder.single (Numeral.length length).render.toList length := by
  obtain ⟨c, rest, short, after, numeral, text_eq, short_eq, starts, read, means, atEnd⟩ :=
    readsBack.signedNumeral
  rw [text_eq]
  exact numeric starts short_eq read atEnd (congrArg Except.ok means)

end ReadsAs

end Highlight.Json
