import Highlight.Number.Binary

/-!
Decimal texts of binary numbers: the fewest digits that still read back as the same number, and of
those the nearest to it.
-/

set_option autoImplicit false

namespace Highlight

def digitCount (number : Nat) : Nat :=
  if number < 10 then 1 else digitCount (number / 10) + 1

def decimalExponent (numerator denominator : Nat) : Int :=
  if denominator ≤ numerator then (digitCount (numerator / denominator) - 1 : Nat)
  else
    let count := digitCount (denominator / numerator)
    if numerator * Nat.pow 10 (count - 1) = denominator then -((count - 1 : Nat) : Int)
    else -(count : Int)

structure Decimal where
  units : Nat
  exponent : Int
  deriving DecidableEq, Repr

namespace Decimal

def value (decimal : Decimal) : Rat :=
  if 0 ≤ decimal.exponent then (decimal.units * Nat.pow 10 decimal.exponent.toNat : Nat)
  else mkRat decimal.units (Nat.pow 10 (-decimal.exponent).toNat)

def withoutZeros : Nat → Decimal → Decimal
  | 0, decimal => decimal
  | fuel + 1, decimal =>
    if decimal.units ≠ 0 ∧ decimal.units % 10 = 0 then
      withoutZeros fuel ⟨decimal.units / 10, decimal.exponent + 1⟩
    else decimal

def digits (decimal : Decimal) : String :=
  toString decimal.units

end Decimal

/-- The values that round to a number: the bounds, and whether they belong. -/
structure RoundingInterval where
  low : Rat
  high : Rat
  closed : Bool

namespace RoundingInterval

def of {format : Format} (number : Binary format) : RoundingInterval :=
  let (mantissa, exponent) := number.parts
  let below :=
    if mantissa = format.patternsPerBinade ∧ format.leastExponent < exponent then exponent - 2
    else exponent - 1
  let middle := scaled mantissa exponent
  ⟨middle - scaled 1 below, middle + scaled 1 (exponent - 1), mantissa % 2 == 0⟩

def contains (interval : RoundingInterval) (value : Rat) : Bool :=
  if interval.closed then interval.low ≤ value && value ≤ interval.high
  else interval.low < value && value < interval.high

end RoundingInterval

/-- The decimal with one number of digits that reads back as a magnitude: of the two around it the
nearer one, or the even one when both are as near. -/
def decimalOf? (interval : RoundingInterval) (magnitude : Rat) (exponent : Int) : Option Decimal :=
  let unit := Decimal.value ⟨1, exponent⟩
  let lower := (magnitude / unit).floor.toNat
  let below : Decimal := ⟨lower, exponent⟩
  let above : Decimal := ⟨lower + 1, exponent⟩
  let toBelow := magnitude - below.value
  let toAbove := above.value - magnitude
  let belowFirst := toBelow < toAbove || (toBelow == toAbove && lower % 2 == 0)
  let choices := if belowFirst then [below, above] else [above, below]
  choices.find? fun choice => choice.units != 0 && interval.contains choice.value

/-- The shortest decimal of a positive finite number, nearest to it among those as short. -/
def shortestDecimal {format : Format} (number : Binary format) : Decimal :=
  let magnitude := scaled number.parts.1 number.parts.2
  let top := decimalExponent magnitude.num.natAbs magnitude.den
  let found := (List.range 17).findSome? fun (more : Nat) =>
    decimalOf? (.of number) magnitude (top - more)
  (found.getD ⟨0, 0⟩).withoutZeros 20

/-- From which to which power of ten a number is written without an exponent. -/
structure DecimalStyle where
  least : Int
  most : Int

namespace DecimalStyle

def single : DecimalStyle :=
  ⟨-6, 12⟩

def double : DecimalStyle :=
  ⟨-5, 15⟩

def zeros (count : Nat) : String :=
  String.ofList (List.replicate count '0')

/-- The text of a positive decimal. There is a digit on both sides of the point, and an exponent has
its sign. -/
def render (style : DecimalStyle) (decimal : Decimal) : String :=
  let digits := decimal.digits
  let point := decimal.exponent + digits.length
  if style.least < point ∧ point ≤ style.most + 1 then
    if 0 ≤ decimal.exponent then digits ++ zeros decimal.exponent.toNat ++ ".0"
    else if 0 < point then
      String.ofList (digits.toList.take point.toNat) ++ "." ++
        String.ofList (digits.toList.drop point.toNat)
    else "0." ++ zeros (-point).toNat ++ digits
  else
    let exponent := point - 1
    let fraction := String.ofList (digits.toList.drop 1)
    String.ofList (digits.toList.take 1) ++ (if fraction.isEmpty then "" else "." ++ fraction) ++
      (if 0 ≤ exponent then "e+" else "e-") ++ toString exponent.natAbs

def renderFinite {format : Format} (style : DecimalStyle) (number : Binary format) : String :=
  let text := if number.isZero then "0.0" else style.render (shortestDecimal number)
  if number.negative then "-" ++ text else text

end DecimalStyle

end Highlight
