import Highlight.Number.Binary
import Highlight.Text.Lines

/-!
Letters of one width, and where the characters of a text stand when it is set in them. Characters
stand at whole points, but each one takes up its exact width.
-/

set_option autoImplicit false

namespace Highlight

structure Letters where
  advance : Single
  tabAdvance : Single
  /-- From the top of the highest letter to the bottom of the lowest one. -/
  height : Single
  deriving DecidableEq, Repr

/-- Where a character stands in its line, and how much room it takes up. -/
structure Glyph where
  start : Single
  advance : Single
  deriving DecidableEq, Repr

structure PlacedLine where
  glyphs : List Glyph
  deriving DecidableEq, Repr

structure Size where
  width : Single
  height : Single
  deriving DecidableEq, Repr, Inhabited

namespace Letters

/-! The design of the letters, in units of which 2048 make up their size. -/

def unitsPerSize : Nat :=
  2048

def ascent : Nat :=
  1901

def descent : Nat :=
  483

def unitsOfWidth : Nat :=
  1233

def tabColumns : Nat :=
  4

/-- The parts of a point to which places and sizes are rounded. -/
def gridSteps : Nat :=
  32

def unitAt (size : Single) : Single :=
  let total := ascent + descent
  (size.mul (.ofRat false (mkRat total unitsPerSize))).div (.ofNat total)

def ofSize (size : Single) : Letters :=
  let length (units : Nat) : Single := (Binary.ofNat units).mul (unitAt size)
  { advance := length unitsOfWidth
    tabAdvance := length (tabColumns * unitsOfWidth)
    height := ((length ascent).roundTo gridSteps).add ((length descent).roundTo gridSteps) }

/-- Carriage returns, and marks that only steer how the text around them is set. -/
def isInvisible (c : Char) : Bool :=
  let code := c.toNat
  c = '\r' || (0x200B ≤ code && code ≤ 0x200F) || (0x202A ≤ code && code ≤ 0x202E) ||
    (0x2060 ≤ code && code ≤ 0x206F) || code = 0xFEFF

/-- The whole point at which a character stands when the ones before it end at a place. -/
def wholePoint (place : Single) : Single :=
  let whole := place.truncate
  if (place.sub whole).less (.ofRat false (mkRat 7 8)) then whole else whole.add (.ofNat 1)

section

variable (letters : Letters)

def cellWidth : Single :=
  letters.advance.roundTo gridSteps

def rowHeight : Single :=
  letters.height.round

def rowsHeight (count : Nat) : Single :=
  letters.rowHeight.mul (.ofNat count)

def glyph (place : Single) (c : Char) : Glyph :=
  if isInvisible c then ⟨place.truncate, .zero false⟩
  else ⟨wholePoint place, if c = '\t' then letters.tabAdvance else letters.advance⟩

def glyphs : Single → List Char → List Glyph
  | _, [] => []
  | place, c :: rest =>
    let glyph := letters.glyph place c
    glyph :: glyphs (place.add glyph.advance) rest

def setLine (line : List Char) : PlacedLine :=
  ⟨letters.glyphs (.zero false) line⟩

end

end Letters

namespace Glyph

def stop (glyph : Glyph) : Single :=
  glyph.start.add glyph.advance

def middle (glyph : Glyph) : Single :=
  (glyph.start.add glyph.stop).div (.ofNat 2)

end Glyph

namespace PlacedLine

variable (line : PlacedLine)

def width : Single :=
  match line.glyphs.getLast? with
  | some glyph => glyph.stop
  | none => .zero false

/-- Where the caret stands before a character, or at the end of the line. -/
def placeOf (column : Nat) : Single :=
  match line.glyphs[column]? with
  | some glyph => glyph.start
  | none => line.width

/-- The number of characters before the caret when it stands nearest to a place. -/
def columnAt (place : Single) : Nat :=
  line.glyphs.findIdx fun glyph => place.less glyph.middle

end PlacedLine

namespace Letters

def sizeOf (letters : Letters) (text : List Char) : Size :=
  let lines := Text.cut '\n' text
  let widest := (lines.map fun line => (letters.setLine line).width).foldl Binary.max (.zero false)
  ⟨widest.roundTo gridSteps, (letters.rowsHeight lines.length).roundTo gridSteps⟩

end Letters

end Highlight
