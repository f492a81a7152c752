import Highlight.Json.Cursor

/-!
Numerals of JSON. Digits that no longer fit a 64-bit word only count for the size of the number, and
the number is scaled by one correctly rounded power of ten.
-/

set_option autoImplicit false

namespace Highlight.Json

def maxWord : Nat :=
  0xFFFFFFFFFFFFFFFF

/-- The greatest exponent that is told apart from greater ones. -/
def maxExponent : Int :=
  0x7FFFFFFF

def digitValue (c : Char) : Nat :=
  c.toNat - '0'.toNat

/-- Appends digits to a number as long as it fits a word; also gives the digits left over. -/
def appendDigits : Nat → List Char → Nat × List Char
  | significand, [] => (significand, [])
  | significand, c :: others =>
    let longer := significand * 10 + digitValue c
    if longer ≤ maxWord then appendDigits longer others else (significand, c :: others)

def powerOfTen (exponent : Nat) : Double :=
  .ofNat (Nat.pow 10 exponent)

/-- A number times a power of ten; none when it is too large. Powers below the range of doubles are
divided out in steps. -/
def scaleByTen? (number : Double) (exponent : Int) : Option Double :=
  if 308 < exponent then if number.isZero then some number else none
  else if 0 ≤ exponent then
    some (number.mul (powerOfTen exponent.toNat)) |>.filter (!·.isInfinite)
  else if -308 ≤ exponent then some (number.div (powerOfTen (-exponent).toNat))
  else if number.isZero then some number
  else scaleByTen? (number.div (powerOfTen 308)) (exponent + 308)
termination_by (-exponent).toNat
decreasing_by omega

def integer (isNegative : Bool) (significand : Nat) : Numeral :=
  if !isNegative then .natural significand
  else if 0 < significand ∧ significand ≤ 0x8000000000000000 then .negative significand
  else .fractional (Binary.negate (.ofNat significand))

namespace Cursor

def digits (cursor : Cursor) : List Char :=
  cursor.rest.takeWhile Char.isDigit

def nextIs (cursor : Cursor) (isExpected : Char → Bool) : Bool :=
  cursor.rest.head?.any isExpected

def isExponentMark (c : Char) : Bool :=
  c == 'e' || c == 'E'

def fractional (isNegative : Bool) (significand : Nat) (exponent : Int) (cursor : Cursor) :
    Outcome Numeral :=
  match scaleByTen? (.ofNat significand) exponent with
  | some scaled => .ok (.fractional (if isNegative then scaled.negate else scaled), cursor)
  | none => cursor.fail .numberTooLarge

/-- The exponent that digits stand for, or how many of them are enough to exceed every exponent. -/
def exponentOf : Int → Nat → List Char → Except Nat Int
  | value, _, [] => .ok value
  | value, taken, c :: others =>
    let longer := value * 10 + digitValue c
    if longer ≤ maxExponent then exponentOf longer (taken + 1) others else .error (taken + 1)

/-- Reads an exponent from its letter on. -/
def exponentPart (isNegative : Bool) (significand : Nat) (exponent : Int) (cursor : Cursor) :
    Outcome Numeral :=
  let afterMark := cursor.advance
  let down := afterMark.nextIs (· == '-')
  let start := if afterMark.nextIs (fun c => c == '+' || c == '-') then afterMark.advance
    else afterMark
  let run := start.digits
  let next := start.advanceBy run.length
  if start.rest.isEmpty then start.fail .valueMissing
  else if run.isEmpty then start.failNext .numberInvalid
  else
    match exponentOf 0 0 run with
    | .ok own =>
      let total := if down then max (exponent - own) (-maxExponent - 1)
        else min (exponent + own) maxExponent
      next.fractional isNegative significand total
    | .error taken =>
      if significand ≠ 0 && !down then (start.advanceBy taken).fail .numberTooLarge
      else .ok (.fractional (.zero isNegative), next)

def fractionPart (isNegative : Bool) (significand : Nat) (exponent : Int) (cursor : Cursor) :
    Outcome Numeral :=
  let start := cursor.advance
  let run := start.digits
  let next := start.advanceBy run.length
  if run.isEmpty then
    start.failNext (if start.rest.isEmpty then .valueMissing else .numberInvalid)
  else
    let (longer, left) := appendDigits significand run
    let lower := exponent - (run.length - left.length : Nat)
    if next.nextIs isExponentMark then next.exponentPart isNegative longer lower
    else next.fractional isNegative longer lower

def afterInteger (isNegative : Bool) (significand dropped : Nat) (cursor : Cursor) :
    Outcome Numeral :=
  if cursor.nextIs (· == '.') then cursor.fractionPart isNegative significand dropped
  else if cursor.nextIs isExponentMark then cursor.exponentPart isNegative significand dropped
  else if dropped = 0 then .ok (integer isNegative significand, cursor)
  else cursor.fractional isNegative significand dropped

def numeral (isNegative : Bool) (cursor : Cursor) : Outcome Numeral :=
  match cursor.rest with
  | [] => cursor.fail .valueMissing
  | c :: _ =>
    if c == '0' then
      if cursor.advance.nextIs Char.isDigit then cursor.advance.failNext .numberInvalid
      else cursor.advance.afterInteger isNegative 0 0
    else if c.isDigit then
      let run := cursor.digits
      let (significand, left) := appendDigits 0 run
      (cursor.advanceBy run.length).afterInteger isNegative significand left.length
    else cursor.failNext .numberInvalid

def signedNumeral (cursor : Cursor) : Outcome Numeral :=
  if cursor.nextIs (· == '-') then cursor.advance.numeral true else cursor.numeral false

def skipDigits (cursor : Cursor) : Cursor :=
  cursor.advanceBy cursor.digits.length

def skipExponent (cursor : Cursor) : Except Failure Cursor :=
  let afterMark := cursor.advance
  let start := if afterMark.nextIs (fun c => c == '+' || c == '-') then afterMark.advance
    else afterMark
  if start.nextIs Char.isDigit then .ok start.skipDigits
  else start.failNext .numberInvalid

def skipNumeral (cursor : Cursor) : Except Failure Cursor :=
  let afterInteger (cursor : Cursor) : Except Failure Cursor :=
    if cursor.nextIs (· == '.') then
      let start := cursor.advance
      let next := start.skipDigits
      if !start.nextIs Char.isDigit then start.failNext .numberInvalid
      else if next.nextIs isExponentMark then next.skipExponent
      else .ok next
    else if cursor.nextIs isExponentMark then cursor.skipExponent
    else .ok cursor
  match cursor.rest with
  | [] => cursor.fail .numberInvalid
  | c :: _ =>
    if c == '0' then
      if cursor.advance.nextIs Char.isDigit then cursor.advance.failNext .numberInvalid
      else afterInteger cursor.advance
    else if c.isDigit then afterInteger cursor.skipDigits
    else cursor.failNext .numberInvalid

end Cursor

end Highlight.Json
