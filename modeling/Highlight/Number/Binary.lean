/-!
Binary floating-point numbers. An operation rounds its exact result to the nearest number of the
format, and of two equally near ones to the one with the even pattern.
-/

set_option autoImplicit false

namespace Highlight

/-- Numbers with so many binary digits, of which the least positive one is a power of two. Larger
patterns stand for larger magnitudes, up to infinity; patterns beyond it stand for no number. -/
structure Format where
  precision : Nat
  leastExponent : Int
  infinity : Nat
  deriving DecidableEq, Repr

namespace Format

def single : Format :=
  ⟨24, -149, 0x7F800000⟩

def double : Format :=
  ⟨53, -1074, 0x7FF0000000000000⟩

def patternsPerBinade (format : Format) : Nat :=
  Nat.pow 2 (format.precision - 1)

end Format

def greater (first second : Rat) : Rat :=
  if first ≤ second then second else first

def lesser (first second : Rat) : Rat :=
  if first ≤ second then first else second

def scaled (mantissa : Nat) (exponent : Int) : Rat :=
  if 0 ≤ exponent then (mantissa * Nat.pow 2 exponent.toNat : Nat)
  else mkRat mantissa (Nat.pow 2 (-exponent).toNat)

/-- The greatest power of two at most a positive fraction. -/
def binaryExponent (numerator denominator : Nat) : Int :=
  let exponent := (numerator.log2 : Int) - denominator.log2
  let reached :=
    if 0 ≤ exponent then denominator * Nat.pow 2 exponent.toNat ≤ numerator
    else denominator ≤ numerator * Nat.pow 2 (-exponent).toNat
  if reached then exponent else exponent - 1

/-- The nearest natural number to a fraction, the even one of two. -/
def nearestQuotient (numerator denominator : Nat) : Nat :=
  let quotient := numerator / denominator
  let twice := 2 * (numerator % denominator)
  if denominator < twice ∨ (twice = denominator ∧ quotient % 2 = 1) then quotient + 1
  else quotient

def Format.nearest (format : Format) (numerator denominator : Nat) : Nat :=
  if numerator = 0 then 0
  else
    let exponent :=
      max format.leastExponent (binaryExponent numerator denominator - (format.precision - 1 : Nat))
    let mantissa :=
      if 0 ≤ exponent then nearestQuotient numerator (denominator * Nat.pow 2 exponent.toNat)
      else nearestQuotient (numerator * Nat.pow 2 (-exponent).toNat) denominator
    min format.infinity
      ((exponent - format.leastExponent).toNat * format.patternsPerBinade + mantissa)

structure Binary (format : Format) where
  negative : Bool
  pattern : Nat
  deriving DecidableEq, Repr, Inhabited

namespace Binary

variable {format : Format}

def isNaN (number : Binary format) : Bool :=
  format.infinity < number.pattern

def isInfinite (number : Binary format) : Bool :=
  number.pattern == format.infinity

def isFinite (number : Binary format) : Bool :=
  number.pattern < format.infinity

def isZero (number : Binary format) : Bool :=
  number.pattern == 0

def nan : Binary format :=
  ⟨false, format.infinity + 1⟩

def infinite (negative : Bool) : Binary format :=
  ⟨negative, format.infinity⟩

def zero (negative : Bool) : Binary format :=
  ⟨negative, 0⟩

def parts (number : Binary format) : Nat × Int :=
  let perBinade := format.patternsPerBinade
  if number.pattern < perBinade then (number.pattern, format.leastExponent)
  else
    (number.pattern % perBinade + perBinade,
      format.leastExponent + (number.pattern / perBinade : Nat) - 1)

def value (number : Binary format) : Rat :=
  let (mantissa, exponent) := number.parts
  if number.negative then -scaled mantissa exponent else scaled mantissa exponent

def ofMagnitude (negative : Bool) (magnitude : Rat) : Binary format :=
  ⟨negative, format.nearest magnitude.num.natAbs magnitude.den⟩

/-- The number nearest to a value, where zero takes the given sign. -/
def ofRat (zeroNegative : Bool) (value : Rat) : Binary format :=
  ofMagnitude (if value = 0 then zeroNegative else value < 0) value

def ofNat (count : Nat) : Binary format :=
  ⟨false, format.nearest count 1⟩

def negate (number : Binary format) : Binary format :=
  { number with negative := !number.negative }

def convert (target : Format) (number : Binary format) : Binary target :=
  if number.isNaN then nan
  else if number.isInfinite then infinite number.negative
  else ofMagnitude number.negative number.value

/-- Where a number stands among the others: zero of either sign in the middle. -/
def rank (number : Binary format) : Int :=
  if number.negative then -(number.pattern : Int) else number.pattern

/-- Is the first number less? Nothing is less than what is no number, nor the other way round. -/
def less (first second : Binary format) : Bool :=
  !first.isNaN && !second.isNaN && decide (first.rank < second.rank)

def same (first second : Binary format) : Bool :=
  !first.isNaN && !second.isNaN && first.rank == second.rank

/-- The greater number; what is no number gives way to the other. -/
def max (first second : Binary format) : Binary format :=
  if first.isNaN then second
  else if first.less second then second
  else first

def min (first second : Binary format) : Binary format :=
  if first.isNaN then second
  else if second.less first then second
  else first

/-- Is the first number at most the second? Nothing can be said of what is no number. -/
def atMost (first second : Binary format) : Bool :=
  first.less second || first.same second

def magnitude (number : Binary format) : Binary format :=
  { number with negative := false }

def clamp (number low high : Binary format) : Binary format :=
  if number.less low then low else if high.less number then high else number

/-- The number moved into the range between two bounds. There is no such range when the first bound
is above the second one, or either is no number. -/
def clamp? (number low high : Binary format) : Option (Binary format) :=
  if low.atMost high then some (number.clamp low high) else none

def add (first second : Binary format) : Binary format :=
  if first.isNaN || second.isNaN then nan
  else if first.isInfinite then
    if second.isInfinite && first.negative != second.negative then nan else first
  else if second.isInfinite then second
  else ofRat (first.negative && second.negative) (first.value + second.value)

def sub (first second : Binary format) : Binary format :=
  add first second.negate

def mul (first second : Binary format) : Binary format :=
  let negative := first.negative != second.negative
  if first.isNaN || second.isNaN then nan
  else if first.isInfinite || second.isInfinite then
    if first.isZero || second.isZero then nan else infinite negative
  else ofMagnitude negative (first.value * second.value)

def div (first second : Binary format) : Binary format :=
  let negative := first.negative != second.negative
  if first.isNaN || second.isNaN then nan
  else if first.isInfinite then if second.isInfinite then nan else infinite negative
  else if second.isInfinite then zero negative
  else if second.isZero then if first.isZero then nan else infinite negative
  else ofMagnitude negative (first.value / second.value)

def truncate (number : Binary format) : Binary format :=
  if number.isFinite then ofMagnitude number.negative number.magnitude.value.floor else number

/-- The nearest whole number, of two the one further from zero. -/
def round (number : Binary format) : Binary format :=
  if number.isFinite then
    ofMagnitude number.negative (number.magnitude.value + mkRat 1 2).floor
  else number

def roundTo (steps : Nat) (number : Binary format) : Binary format :=
  (number.mul (ofNat steps)).round.div (ofNat steps)

/-- The greatest natural number up to a limit that is not above the number, or zero. -/
def floorUpTo (limit : Nat) (number : Binary format) : Nat :=
  if number.isNaN || number.negative then 0
  else if number.isInfinite then limit
  else Nat.min limit number.value.floor.toNat

/-- The least natural number that is not below the number, cut off at a limit. -/
def ceilUpTo (limit : Nat) (number : Binary format) : Nat :=
  if number.isNaN || number.negative then 0
  else if number.isInfinite then limit
  else Nat.min limit number.value.ceil.toNat

end Binary

abbrev Single := Binary .single

abbrev Double := Binary .double

/-- The number with a pattern whose highest bit of 32 is the sign. -/
def Single.ofBits (bits : Nat) : Single :=
  ⟨0x80000000 ≤ bits, bits % 0x80000000⟩

def Binary.toBits (number : Single) : Nat :=
  if number.negative then number.pattern + 0x80000000 else number.pattern

end Highlight
