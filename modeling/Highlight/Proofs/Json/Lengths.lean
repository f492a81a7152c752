import Highlight.Proofs.Json.Naturals
import Highlight.Proofs.Number.Shortest

/-!
The texts of lengths are accepted. A finite length is written with digits that fit a word and with
an exponent that leads to no infinite number, so its numeral is never refused as too large, whatever
number it is then read as.
-/

set_option autoImplicit false

namespace Highlight.Json

/-! ## Powers of ten -/

/-- The greatest power of ten by which numbers of a word are scaled here. -/
def safeExponent : Int :=
  200

theorem scaleByTen?_isSome_of_neg (number : Double) {exponent : Int} (negative : exponent < 0) :
    (scaleByTen? number exponent).isSome := by
  fun_induction scaleByTen? number exponent with
  | case1 => omega
  | case2 => omega
  | case3 => omega
  | case4 => rfl
  | case5 => rfl
  | case6 number exponent _ _ _ _ inductionHypothesis => exact inductionHypothesis (by omega)

theorem ofNat_bounds {count exponent : Nat} (below : count < 2 ^ (exponent + 1))
    (small : exponent < 1023) :
    (Binary.ofNat count : Double).isFinite ∧
      |(Binary.ofNat count : Double).value| ≤ 2 ^ (exponent + 1) := by
  have number : (Binary.ofNat count : Double) = .ofMagnitude false (count : ℚ) := by
    simp [Binary.ofNat, Binary.ofMagnitude]
  have normal : Format.double.normalExponent ≤ (exponent : Int) := by
    simp [Format.normalExponent, Format.double]
  rw [number, ← zpow_natCast]
  refine Binary.ofMagnitude_bounds false normal ?_ ?_
  · rw [Nat.abs_cast]
    exact_mod_cast below
  · simp [Format.normalExponent, Format.double, Format.patternsPerBinade]
    omega

/-- A number of a word is scaled by a power of ten that is not too large. -/
theorem scaleByTen?_isSome {significand : Nat} (fits : significand ≤ maxWord) {exponent : Int}
    (safe : exponent ≤ safeExponent) : (scaleByTen? (.ofNat significand) exponent).isSome := by
  unfold safeExponent at safe
  rcases lt_or_ge exponent 0 with negative | nonnegative
  · exact scaleByTen?_isSome_of_neg _ negative
  obtain ⟨count, rfl⟩ := Int.eq_ofNat_of_zero_le nonnegative
  have word : significand < 2 ^ (63 + 1) := Nat.lt_succ_of_le fits
  have power : 10 ^ count < 2 ^ (699 + 1) :=
    (Nat.pow_le_pow_right (by decide) (by omega : count ≤ 200)).trans_lt (by decide +kernel)
  obtain ⟨wordFinite, word_le⟩ := ofNat_bounds word (by decide)
  obtain ⟨powerFinite, power_le⟩ := ofNat_bounds power (by decide)
  have finite : ((Binary.ofNat significand : Double).mul (powerOfTen count)).isFinite := by
    have normal : Format.double.normalExponent ≤ 1022 := by decide
    refine Binary.mul_isFinite wordFinite powerFinite normal ?_ (by decide)
    calc |(Binary.ofNat significand : Double).value * (powerOfTen count).value|
        = |(Binary.ofNat significand : Double).value| * |(powerOfTen count).value| := abs_mul _ _
      _ ≤ 2 ^ (63 + 1) * 2 ^ (699 + 1) := mul_le_mul word_le power_le (abs_nonneg _) (by positivity)
      _ < 2 ^ ((1022 : Int) + 1) := by
        rw [← pow_add, ← zpow_natCast]
        exact zpow_lt_zpow_right₀ (by norm_num) (by norm_num)
  rw [scaleByTen?, if_neg (by omega), if_pos nonnegative, Int.toNat_natCast]
  simp [Binary.not_isInfinite_of_isFinite finite]

/-! ## Digits -/

theorem exponentOf_of_fits {digits : List Char} {value taken : Nat}
    (fits : (Nat.ofDigitChars 10 digits value : Int) ≤ maxExponent) :
    Cursor.exponentOf value taken digits = .ok (Nat.ofDigitChars 10 digits value : Nat) := by
  induction digits generalizing value taken with
  | nil => rfl
  | cons c others inductionHypothesis =>
    have longer : 10 * value + (c.toNat - '0'.toNat) = value * 10 + digitValue c := by
      rw [Nat.mul_comm, digitValue]
    rw [Nat.ofDigitChars_cons, longer] at fits ⊢
    have first : ((value * 10 + digitValue c : Nat) : Int) ≤ maxExponent :=
      (Int.ofNat_le.mpr (le_ofDigitChars others _)).trans fits
    have step := @inductionHypothesis _ (taken + 1) fits
    push_cast at first step
    rw [Cursor.exponentOf, if_pos first, step]

theorem exponentOf_nonneg {digits : List Char} {value own : Int} {taken : Nat}
    (start : 0 ≤ value) (read : Cursor.exponentOf value taken digits = .ok own) : 0 ≤ own := by
  induction digits generalizing value taken with
  | nil =>
    obtain rfl := Except.ok.inj read
    exact start
  | cons c others inductionHypothesis =>
    rw [Cursor.exponentOf] at read
    split at read
    · exact inductionHypothesis (by positivity) read
    · contradiction

theorem ofDigitChars_lt_pow {digits : List Char} (areDigits : ∀ c ∈ digits, c.isDigit)
    (initial : Nat) :
    Nat.ofDigitChars 10 digits initial < (initial + 1) * 10 ^ digits.length := by
  induction digits generalizing initial with
  | nil => simp
  | cons c others inductionHypothesis =>
    obtain ⟨isDigit, othersAre⟩ := List.forall_mem_cons.mp areDigits
    have small : c.toNat - '0'.toNat ≤ 9 := by
      simp only [Char.isDigit, Bool.and_eq_true, decide_eq_true_eq] at isDigit
      have upper : c.toNat ≤ '9'.toNat := isDigit.2
      have nine : '9'.toNat = 57 := rfl
      have zero : '0'.toNat = 48 := rfl
      omega
    rw [Nat.ofDigitChars_cons, List.length_cons, Nat.pow_succ']
    calc Nat.ofDigitChars 10 others (10 * initial + (c.toNat - '0'.toNat))
        < (10 * initial + (c.toNat - '0'.toNat) + 1) * 10 ^ others.length :=
          inductionHypothesis othersAre _
      _ ≤ (initial + 1) * (10 * 10 ^ others.length) := by
        rw [← Nat.mul_assoc]
        exact Nat.mul_le_mul_right _ (by omega)

theorem ofDigitChars_zeros (count : Nat) (digits : List Char) :
    Nat.ofDigitChars 10 (List.replicate count '0' ++ digits) 0 = Nat.ofDigitChars 10 digits 0 := by
  induction count with
  | zero => rfl
  | succ count inductionHypothesis =>
    rw [List.replicate_succ, List.cons_append, Nat.ofDigitChars_cons]
    exact inductionHypothesis

namespace Cursor

variable {cursor : Cursor} {isNegative : Bool} {significand : Nat} {exponent : Int}

/-- A run of digits is read up to what is behind it. -/
theorem digits_of_rest {run following : List Char} (areDigits : ∀ c ∈ run, c.isDigit)
    (ends : ∀ c ∈ following.head?, c.isDigit = false) (here : cursor.rest = run ++ following) :
    cursor.digits = run ∧ (cursor.advanceBy run.length).rest = following := by
  constructor
  · rw [Cursor.digits, here, List.takeWhile_append_of_pos areDigits]
    cases following with
    | nil => simp
    | cons c following => simp [ends c rfl]
  · rw [rest_advanceBy, here, List.drop_left]

/-! ## Parts of a numeral -/

theorem fractional_accepts (fits : significand ≤ maxWord) (safe : exponent ≤ safeExponent) :
    ∃ numeral, cursor.fractional isNegative significand exponent = .ok (numeral, cursor) := by
  obtain ⟨scaled, scaled_eq⟩ := Option.isSome_iff_exists.mp (scaleByTen?_isSome fits safe)
  rw [fractional, scaled_eq]
  exact ⟨_, rfl⟩

end Cursor

/-- What a numeral ends with: nothing, or an exponent, which is negative or not. -/
abbrev Scale := Option (Bool × Nat)

namespace Scale

def text : Scale → List Char
  | none => []
  | some (isDown, size) => 'e' :: (if isDown then '-' else '+') :: (toString size).toList

/-- Behind digits that have an exponent of their own, the whole exponent is safe. -/
def Safe (exponent : Int) : Scale → Prop
  | none | some (true, _) => exponent ≤ safeExponent
  | some (false, size) => exponent + size ≤ safeExponent ∧ (size : Int) ≤ maxExponent

theorem safe_of_natAbs {own exponent : Int} (safe : own ≤ safeExponent)
    (sum : own + exponent ≤ safeExponent ∧ exponent ≤ maxExponent) :
    Scale.Safe own (some (decide (exponent < 0), exponent.natAbs)) := by
  obtain ⟨sum, small⟩ := sum
  by_cases down : exponent < 0
  · simpa only [down, decide_true, Safe] using safe
  · have size : (exponent.natAbs : Int) = exponent := by omega
    simpa only [down, decide_false, Safe, size] using ⟨sum, small⟩

theorem not_isDigit_of_head? (scale : Scale) : ∀ c ∈ scale.text.head?, c.isDigit = false := by
  intro c first
  cases scale with
  | none => contradiction
  | some marked =>
    obtain rfl := Option.some.inj first
    rfl

end Scale

/-- The digits behind the point with the point, if there are any. -/
def pointed (fraction : List Char) : List Char :=
  if fraction.isEmpty then [] else '.' :: fraction

namespace Cursor

variable {cursor : Cursor} {isNegative : Bool} {significand : Nat} {exponent : Int} {scale : Scale}

theorem exponentPart_accepts (fits : significand ≤ maxWord) {isDown : Bool} {size : Nat}
    (safe : Scale.Safe exponent (some (isDown, size)))
    (here : cursor.rest = Scale.text (some (isDown, size))) :
    ∃ numeral after, cursor.exponentPart isNegative significand exponent = .ok (numeral, after) ∧
      after.rest = [] := by
  have sign := rest_advance here
  have start : cursor.advance.advance.rest = (toString size).toList ++ [] := by
    rw [rest_advance sign, List.append_nil]
  obtain ⟨run, ended⟩ := digits_of_rest (fun c => isDigit_of_mem_toString) (by simp) start
  have signed : cursor.advance.nextIs (fun c => c == '+' || c == '-') = true := by
    cases isDown <;> simp [nextIs, sign]
  have down : cursor.advance.nextIs (· == '-') = isDown := by
    cases isDown <;> simp [nextIs, sign]
  have size_eq := ofDigitChars_toString size
  unfold exponentPart
  simp only [signed, down, ↓reduceIte, run]
  rw [if_neg (by simp [start]), if_neg (by simp)]
  cases isDown with
  | true =>
    split
    · next own read =>
      have nonneg := exponentOf_nonneg le_rfl read
      have ownSafe : max (exponent - own) (-maxExponent - 1) ≤ safeExponent := by
        have inner : exponent ≤ safeExponent := safe
        unfold safeExponent maxExponent at *
        omega
      obtain ⟨numeral, accepted⟩ := fractional_accepts fits ownSafe
      exact ⟨numeral, _, accepted, ended⟩
    · exact ⟨.fractional (.zero isNegative), _, by simp, ended⟩
  | false =>
    obtain ⟨sum, small⟩ := safe
    have read : exponentOf 0 0 (toString size).toList = .ok (size : Int) := by
      have read := @exponentOf_of_fits _ 0 0 (size_eq.symm ▸ small)
      rwa [size_eq] at read
    have ownSafe : min (exponent + size) maxExponent ≤ safeExponent := (min_le_left _ _).trans sum
    obtain ⟨numeral, accepted⟩ := fractional_accepts fits ownSafe
    rw [read]
    exact ⟨numeral, _, accepted, ended⟩

/-- What is behind the last digit is accepted, whether it is an exponent or nothing. -/
theorem scale_accepts (fits : significand ≤ maxWord) (safe : scale.Safe exponent)
    (here : cursor.rest = scale.text) :
    ∃ numeral after,
      (if cursor.nextIs isExponentMark then cursor.exponentPart isNegative significand exponent
        else cursor.fractional isNegative significand exponent) = .ok (numeral, after) ∧
      after.rest = [] := by
  cases scale with
  | none =>
    have noMark : cursor.nextIs isExponentMark = false := by
      simp [nextIs, here, Scale.text]
    obtain ⟨numeral, accepted⟩ := fractional_accepts fits safe
    rw [noMark]
    exact ⟨numeral, cursor, accepted, here⟩
  | some marked =>
    have mark : cursor.nextIs isExponentMark = true := by
      simp [nextIs, here, Scale.text, isExponentMark]
    rw [mark]
    exact exponentPart_accepts fits safe here

theorem fractionPart_accepts {fraction : List Char} (areDigits : ∀ c ∈ fraction, c.isDigit)
    (nonempty : fraction ≠ []) (fits : Nat.ofDigitChars 10 fraction significand ≤ maxWord)
    (safe : scale.Safe (exponent - fraction.length))
    (here : cursor.rest = '.' :: (fraction ++ scale.text)) :
    ∃ numeral after, cursor.fractionPart isNegative significand exponent = .ok (numeral, after) ∧
      after.rest = [] := by
  obtain ⟨run, ended⟩ := digits_of_rest areDigits scale.not_isDigit_of_head? (rest_advance here)
  unfold fractionPart
  simp only [run, appendDigits_of_fits fits]
  rw [if_neg (by simpa using nonempty)]
  exact scale_accepts fits safe ended

theorem afterInteger_accepts {fraction : List Char} (areDigits : ∀ c ∈ fraction, c.isDigit)
    (fits : Nat.ofDigitChars 10 fraction significand ≤ maxWord)
    (safe : scale.Safe (-fraction.length)) (here : cursor.rest = pointed fraction ++ scale.text) :
    ∃ numeral after, cursor.afterInteger isNegative significand 0 = .ok (numeral, after) ∧
      after.rest = [] := by
  unfold afterInteger
  cases fraction with
  | cons c others =>
    have point : cursor.nextIs (· == '.') = true := by
      simp [nextIs, here, pointed]
    rw [point, if_pos rfl]
    exact fractionPart_accepts areDigits (List.cons_ne_nil _ _) fits (by simpa using safe) here
  | nil =>
    have here : cursor.rest = scale.text := here
    cases scale with
    | none =>
      refine ⟨integer isNegative significand, cursor, ?_, here⟩
      simp [nextIs, here, Scale.text]
    | some marked =>
      have noPoint : cursor.nextIs (· == '.') = false := by
        simp [nextIs, here, Scale.text]
      have mark : cursor.nextIs isExponentMark = true := by
        simp [nextIs, here, Scale.text, isExponentMark]
      rw [noPoint, mark]
      exact exponentPart_accepts fits (by simpa using safe) here

end Cursor

/-- The parts of a numeral that is accepted: digits that fit a word and have no needless zero in
front, and an exponent that is safe behind them. -/
structure AcceptedParts (whole fraction : List Char) (scale : Scale) : Prop where
  whole_ne_nil : whole ≠ []
  wholeDigits : ∀ c ∈ whole, c.isDigit
  fractionDigits : ∀ c ∈ fraction, c.isDigit
  leading : whole = ['0'] ∨ whole.head? ≠ some '0'
  fits : Nat.ofDigitChars 10 (whole ++ fraction) 0 ≤ maxWord
  safe : scale.Safe (-fraction.length)

namespace AcceptedParts

variable {whole fraction : List Char} {scale : Scale} {cursor : Cursor}

theorem numeral (parts : AcceptedParts whole fraction scale) (isNegative : Bool)
    (here : cursor.rest = whole ++ (pointed fraction ++ scale.text)) :
    ∃ numeral after, cursor.numeral isNegative = .ok (numeral, after) ∧ after.rest = [] := by
  have fits := parts.fits
  rw [Nat.ofDigitChars_append] at fits
  have wholeFits : Nat.ofDigitChars 10 whole 0 ≤ maxWord := (le_ofDigitChars _ _).trans fits
  have ends : ∀ c ∈ (pointed fraction ++ scale.text).head?, c.isDigit = false := by
    cases fraction with
    | nil => exact scale.not_isDigit_of_head?
    | cons c others =>
      intro c first
      obtain rfl := Option.some.inj first
      rfl
  obtain ⟨run, ended⟩ := Cursor.digits_of_rest parts.wholeDigits ends here
  unfold Cursor.numeral
  cases whole with
  | nil => exact absurd rfl parts.whole_ne_nil
  | cons c others =>
    rw [here, List.cons_append]
    dsimp only
    -- A leading zero is all that stands before the point, and no digit may follow it.
    rcases parts.leading with isZero | notZero
    · obtain ⟨rfl, rfl⟩ := List.cons.inj isZero
      have next := Cursor.rest_advance here
      have noDigit : cursor.advance.nextIs Char.isDigit = false := by
        rw [Cursor.nextIs, next]
        cases following : (pointed fraction ++ scale.text).head? with
        | none => simp [following]
        | some d => simp [following, ends d following]
      rw [if_pos (by decide), noDigit]
      exact Cursor.afterInteger_accepts parts.fractionDigits fits parts.safe next
    · have notZeroDigit : ¬(c == '0') = true := by
        rintro isZero
        exact notZero (congrArg some (eq_of_beq isZero))
      rw [if_neg notZeroDigit, if_pos (parts.wholeDigits c List.mem_cons_self), run,
        appendDigits_of_fits wholeFits]
      exact Cursor.afterInteger_accepts parts.fractionDigits fits parts.safe ended

theorem signedNumeral (parts : AcceptedParts whole fraction scale) (isNegative : Bool) :
    let text := (if isNegative then ['-'] else []) ++ (whole ++ (pointed fraction ++ scale.text))
    ∃ c rest numeral after, text = c :: rest ∧ (c == '-' || c.isDigit) ∧
      (Cursor.start text).signedNumeral = .ok (numeral, after) ∧ after.rest = [] := by
  intro text
  cases isNegative with
  | true =>
    have behindSign : (Cursor.start text).advance.rest =
        whole ++ (pointed fraction ++ scale.text) := rfl
    obtain ⟨numeral, after, read, ended⟩ := parts.numeral true behindSign
    exact ⟨'-', _, numeral, after, rfl, rfl, read, ended⟩
  | false =>
    obtain ⟨c, others, whole_eq⟩ := List.exists_cons_of_ne_nil parts.whole_ne_nil
    have isDigit : c.isDigit := parts.wholeDigits c (whole_eq ▸ List.mem_cons_self)
    have text_eq : text = c :: (others ++ (pointed fraction ++ scale.text)) := by
      rw [← List.cons_append, ← whole_eq]
      rfl
    have here : (Cursor.start text).rest = whole ++ (pointed fraction ++ scale.text) := rfl
    obtain ⟨numeral, after, read, ended⟩ := parts.numeral false here
    have noSign : (Cursor.start text).nextIs (· == '-') = false := by
      have notMinus : c ≠ '-' := by
        rintro rfl
        contradiction
      simp [Cursor.nextIs, Cursor.start, text_eq, notMinus]
    refine ⟨c, _, numeral, after, text_eq, by simp [isDigit], ?_, ended⟩
    rw [Cursor.signedNumeral, noSign]
    exact read

/-! ## Written decimals -/

/-- The digits of a number with a point somewhere behind the first one. -/
theorem ofNat {number : Nat} (fits : number ≤ maxWord) {count : Nat} (positive : 0 < count)
    (safe : scale.Safe (-((toString number).toList.drop count).length)) :
    AcceptedParts ((toString number).toList.take count) ((toString number).toList.drop count)
      scale := by
  have nonempty := toList_toString_ne_nil number
  have areDigits : ∀ c ∈ (toString number).toList, c.isDigit := fun c => isDigit_of_mem_toString
  constructor
  case whole_ne_nil =>
    rw [Ne, List.take_eq_nil_iff, not_or]
    exact ⟨positive.ne', nonempty⟩
  case wholeDigits => exact fun c member => areDigits c (List.mem_of_mem_take member)
  case fractionDigits => exact fun c member => areDigits c (List.mem_of_mem_drop member)
  case leading =>
    rcases toList_toString_leading number with zero | notZero
    · rw [zero]
      exact .inl (List.take_of_length_le positive)
    · rw [List.head?_take, if_neg positive.ne']
      exact .inr notZero
  case fits => rwa [List.take_append_drop, ofDigitChars_toString]
  case safe => exact safe

/-- The digits of a number before the point, with zeros behind them. -/
theorem ofWhole {number : Nat} (zeros : Nat) (whole : number = 0 → zeros = 0)
    (short : (toString number).toList.length + zeros ≤ 18) :
    AcceptedParts ((toString number).toList ++ List.replicate zeros '0') ['0'] none := by
  have nonempty := toList_toString_ne_nil number
  have areDigits : ∀ c ∈ (toString number).toList ++ List.replicate zeros '0', c.isDigit := by
    intro c member
    rcases List.mem_append.mp member with own | zero
    · exact isDigit_of_mem_toString own
    · rw [List.eq_of_mem_replicate zero]
      rfl
  constructor
  case whole_ne_nil => simp
  case wholeDigits => exact areDigits
  case fractionDigits => exact List.forall_mem_singleton.mpr rfl
  case leading =>
    rcases Nat.eq_zero_or_pos number with rfl | positive
    · obtain rfl := whole rfl
      exact .inl rfl
    · right
      rw [List.head?_append, Option.or_of_isSome (List.isSome_head?.mpr nonempty)]
      exact head?_toString_ne_zero positive
  case fits =>
    generalize digits_eq : (toString number).toList ++ List.replicate zeros '0' = digits
      at areDigits
    have length_le : (digits ++ ['0']).length ≤ 19 := by
      rw [← digits_eq]
      simp only [List.length_append, List.length_replicate, List.length_singleton]
      omega
    have allDigits : ∀ c ∈ digits ++ ['0'], c.isDigit := by
      intro c member
      rcases List.mem_append.mp member with own | last
      · exact areDigits c own
      · rw [List.mem_singleton.mp last]
        rfl
    have below := ofDigitChars_lt_pow allDigits 0
    -- So few digits fit a word, whatever they are.
    have power : 10 ^ 19 ≤ maxWord + 1 := by decide
    have bound := Nat.pow_le_pow_right (show 0 < 10 by decide) length_le
    omega
  case safe =>
    unfold Scale.Safe safeExponent
    decide

/-- The digits of a number behind the point, with zeros in front of them. -/
theorem ofFraction {number : Nat} (fits : number ≤ maxWord) (zeros : Nat) :
    AcceptedParts ['0'] (List.replicate zeros '0' ++ (toString number).toList) none := by
  constructor
  case whole_ne_nil => simp
  case wholeDigits => exact List.forall_mem_singleton.mpr rfl
  case fractionDigits =>
    intro c member
    rcases List.mem_append.mp member with zero | own
    · rw [List.eq_of_mem_replicate zero]
      rfl
    · exact isDigit_of_mem_toString own
  case leading => exact .inl rfl
  case fits =>
    have zeros_eq : ['0'] ++ (List.replicate zeros '0' ++ (toString number).toList) =
        List.replicate (zeros + 1) '0' ++ (toString number).toList := rfl
    rwa [zeros_eq, ofDigitChars_zeros, ofDigitChars_toString]
  case safe =>
    unfold Scale.Safe safeExponent
    omega

end AcceptedParts

/-- The point is written only where there are digits behind it. -/
theorem toList_behindPoint (fraction : List Char) :
    (if (String.ofList fraction).isEmpty then "" else "." ++ String.ofList fraction).toList =
      pointed fraction := by
  cases fraction with
  | nil => rfl
  | cons c others => simp [pointed, String.isEmpty_iff]

theorem toList_exponentMark (exponent : Int) :
    (if 0 ≤ exponent then "e+" else "e-").toList =
      ['e', if decide (exponent < 0) then '-' else '+'] := by
  by_cases down : exponent < 0
  · rw [if_neg (by omega)]
    simp [down]
  · rw [if_pos (by omega)]
    simp [down]

/-- Every short decimal is written as a numeral that is accepted. -/
theorem exists_acceptedParts_of_render {style : DecimalStyle} (few : style.most ≤ 17)
    {decimal : Decimal} {greatestExponent : Int}
    (bounded : decimal.Bounded (10 ^ 17) greatestExponent)
    (safe : greatestExponent ≤ safeExponent) :
    ∃ whole fraction scale, AcceptedParts whole fraction scale ∧
      (style.render decimal).toList = whole ++ (pointed fraction ++ scale.text) := by
  have units_le := bounded.units_le
  have exponent_le := bounded.exponent_le.trans safe
  have fits : decimal.units ≤ maxWord := units_le.trans (by decide)
  have length_eq : decimal.digits.length = (toString decimal.units).toList.length :=
    String.length_toList.symm
  have digits_eq : decimal.digits = toString decimal.units := rfl
  have length_le : decimal.digits.length ≤ 18 := by
    rw [digits_eq, ← digitCount_eq_length_toString]
    exact (digitCount_mono units_le).trans (by decide +kernel)
  unfold DecimalStyle.render
  dsimp only
  split
  · next inRange =>
    -- The point stands behind all digits, among them, or before them.
    split
    · next whole =>
      have allZeros : decimal.units = 0 → decimal.exponent.toNat = 0 := fun isZero => by
        rw [bounded.zero isZero]
        rfl
      refine ⟨_, _, _, .ofWhole decimal.exponent.toNat allZeros (by omega), ?_⟩
      simp [digits_eq, DecimalStyle.zeros, pointed, Scale.text]
    next hasFraction =>
    split
    · next positive =>
      have someWhole : 0 < (decimal.exponent + decimal.digits.length).toNat := by omega
      refine ⟨_, _, none, .ofNat fits someWhole ?_, ?_⟩
      · unfold Scale.Safe safeExponent
        omega
      · have someDigits : decimal.digits.toList.drop
            (decimal.exponent + decimal.digits.length).toNat ≠ [] := by
          rw [Ne, List.drop_eq_nil_iff, String.length_toList]
          omega
        simp [← digits_eq, pointed, someDigits, Scale.text]
    · refine ⟨_, _, none, .ofFraction fits (-(decimal.exponent + decimal.digits.length)).toNat, ?_⟩
      simp [digits_eq, DecimalStyle.zeros, pointed, Scale.text]
  -- With an exponent, the point stands behind the first digit.
  · generalize exponent_eq : decimal.exponent + decimal.digits.length - 1 = exponent
    refine ⟨_, _, some (decide (exponent < 0), exponent.natAbs), .ofNat fits Nat.one_pos ?_, ?_⟩
    · have fraction :
          ((toString decimal.units).toList.drop 1).length = decimal.digits.length - 1 := by
        rw [List.length_drop, ← length_eq]
      rw [fraction]
      unfold safeExponent at exponent_le
      refine Scale.safe_of_natAbs ?_ ?_
      · unfold safeExponent
        omega
      · unfold safeExponent maxExponent
        omega
    · simp only [String.toList_append, toList_exponentMark, toList_behindPoint,
        String.toList_ofList, Scale.text, ← digits_eq, List.append_assoc]
      rfl

theorem abs_value_lt {length : Single} (finite : length.isFinite) :
    |length.value| < 10 ^ (38 + 1) := by
  rw [Binary.isFinite, decide_eq_true_eq] at finite
  rw [Binary.abs_value]
  refine (Binary.patternValue_strictMono finite).trans ?_
  have normal : Format.single.normalExponent ≤ 127 := by decide
  have pattern : Format.single.patternsPerBinade *
      ((127 - Format.single.normalExponent).toNat + 2) = Format.single.infinity := by decide
  rw [← pattern, Binary.patternValue_two_zpow .single normal]
  norm_num

/-- What is written for a finite number without its sign. -/
theorem exists_acceptedParts (length : Single) (finite : length.isFinite) :
    ∃ whole fraction scale, AcceptedParts whole fraction scale ∧
      (if length.isZero then "0.0"
        else DecimalStyle.single.render (shortestDecimal length)).toList =
          whole ++ (pointed fraction ++ scale.text) := by
  split
  · have zero : AcceptedParts ((toString 0).toList ++ List.replicate 0 '0') ['0'] none :=
      .ofWhole 0 (fun _ => rfl) (by decide)
    exact ⟨_, _, _, zero, rfl⟩
  · next nonzero =>
    rw [Bool.not_eq_true] at nonzero
    have bounded := shortestDecimal_bounded nonzero (abs_value_lt finite)
    exact exists_acceptedParts_of_render (by decide) bounded (by decide)

/-- Whatever number it is read as, the numeral of a finite length is accepted. -/
theorem ReadsAs.exists_single {length : Single} (finite : length.isFinite) :
    ∃ read, ReadsAs Decoder.single (Numeral.length length).render.toList read := by
  obtain ⟨whole, fraction, scale, parts, text_eq⟩ := exists_acceptedParts length finite
  have signed_eq : (Numeral.length length).render.toList =
      (if length.negative then ['-'] else []) ++ (whole ++ (pointed fraction ++ scale.text)) := by
    rw [Numeral.render, DecimalStyle.renderFinite]
    split
    · rw [String.toList_append, text_eq]
      rfl
    · exact text_eq
  obtain ⟨c, rest, numeral, after, text_eq, starts, read, ended⟩ :=
    parts.signedNumeral length.negative
  rw [signed_eq, text_eq]
  rw [text_eq] at read
  exact ⟨_, numeric starts rfl read ended rfl⟩

end Highlight.Json
