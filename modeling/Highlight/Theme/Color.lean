import Highlight.Json.Decoder
import Highlight.Number.Binary
import Highlight.Text.Hexadecimal
import Highlight.Text.Measure

/-!
Colors with a written form in hexadecimal digits, and what is painted for them.
-/

set_option autoImplicit false

namespace Highlight

structure Color where
  red : UInt8
  green : UInt8
  blue : UInt8
  alpha : UInt8
  deriving DecidableEq, Repr, Inhabited

namespace Color

open Text

def opaqueColor (red green blue : UInt8) : Color :=
  ⟨red, green, blue, 255⟩

def withAlpha (color : Color) (alpha : UInt8) : Color :=
  { color with alpha := alpha }

/-- The byte that one or two characters stand for: hexadecimal digits, of which the first of two may
be replaced by a plus sign. -/
def byte? : List Char → Option UInt8
  | [digit] => (hexDigit? digit).map (·.toUInt8)
  | [high, low] => do
    let units ← hexDigit? low
    let sixteens ← if high = '+' then some 0 else hexDigit? high
    return (sixteens * 16 + units).toUInt8
  | _ => none

def doubled (digit : UInt8) : UInt8 :=
  digit * 17

def ofDigits? : List Char → Option Color
  | [r, g, b] => do
    return opaqueColor (doubled (← byte? [r])) (doubled (← byte? [g])) (doubled (← byte? [b]))
  | [r₁, r₂, g₁, g₂, b₁, b₂] => do
    return opaqueColor (← byte? [r₁, r₂]) (← byte? [g₁, g₂]) (← byte? [b₁, b₂])
  | [r₁, r₂, g₁, g₂, b₁, b₂, a₁, a₂] => do
    return ⟨← byte? [r₁, r₂], ← byte? [g₁, g₂], ← byte? [b₁, b₂], ← byte? [a₁, a₂]⟩
  | _ => none

def ofHex? (text : String) : Option Color :=
  match text.toList with
  | '#' :: digits => ofDigits? digits
  | _ => none

/-- The written form, in upper case. The opacity is left out where it is full. -/
def toHex (color : Color) : String :=
  String.ofList
    ('#' :: (upperHexByte color.red ++ upperHexByte color.green ++ upperHexByte color.blue ++
      if color.alpha = 255 then [] else upperHexByte color.alpha))

def parse (text : String) : Except String Color :=
  match ofHex? (String.ofList (trim text.toList)) with
  | some color => .ok color
  | none => .error ("invalid hex color: " ++ text)

def decoder : Json.Decoder Color :=
  .meaningful parse

def toJson (color : Color) : Json :=
  .string color.toHex

end Color

/-- A color as it is painted: each channel is scaled by the opacity. -/
structure PaintedColor where
  red : UInt8
  green : UInt8
  blue : UInt8
  alpha : UInt8
  deriving DecidableEq, Repr, Inhabited

namespace PaintedColor

open Text

/-- A channel times an opacity, rounded to the nearest byte in single precision. -/
def scaledChannel (channel alpha : UInt8) : UInt8 :=
  let opacity : Single := (Binary.ofNat alpha.toNat).div (Binary.ofNat 255)
  let half : Single := Binary.ofRat false (1 / 2)
  (Binary.floorUpTo 255 (((Binary.ofNat channel.toNat).mul opacity).add half)).toUInt8

def transparent : PaintedColor :=
  ⟨0, 0, 0, 0⟩

def of (color : Color) : PaintedColor :=
  if color.alpha = 0 then transparent
  else if color.alpha = 255 then ⟨color.red, color.green, color.blue, 255⟩
  else
    ⟨scaledChannel color.red color.alpha, scaledChannel color.green color.alpha,
      scaledChannel color.blue color.alpha, color.alpha⟩

def toHex (color : PaintedColor) : String :=
  String.ofList
    ('#' :: (upperHexByte color.red ++ upperHexByte color.green ++ upperHexByte color.blue ++
      upperHexByte color.alpha))

end PaintedColor

end Highlight
