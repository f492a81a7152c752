import Highlight.Number.Decimal

/-!
Where lines and their numbers are. The gutter, the highlighted text and the input share one width of
the gutter, one padding and one scroll offset. Lengths may be measured in any numbers that support
the operations of `Measure`.
-/

set_option autoImplicit false

namespace Highlight

/-- Numbers in which lengths are measured. -/
class Measure (Length : Type) where
  ofNat : Nat → Length
  add : Length → Length → Length
  sub : Length → Length → Length
  mul : Length → Length → Length
  div : Length → Length → Length
  max : Length → Length → Length
  isFinite : Length → Bool
  /-- Is the length greater than zero, or unbounded? -/
  isPositive : Length → Bool
  /-- The greatest natural number not above a length, as far as rows can be numbered. -/
  floor : Length → Nat
  /-- The least natural number not below a length, as far as rows can be numbered. -/
  ceil : Length → Nat

def maxRows : Nat :=
  0xFFFFFFFFFFFFFFFF

instance : Measure Single where
  ofNat := Binary.ofNat
  add := Binary.add
  sub := Binary.sub
  mul := Binary.mul
  div := Binary.div
  max := Binary.max
  isFinite := Binary.isFinite
  isPositive length := (Binary.zero false).less length
  floor := Binary.floorUpTo maxRows
  ceil := Binary.ceilUpTo maxRows

section

variable {Length : Type} [Measure Length]

structure GutterLayout (Length : Type) where
  digits : Nat
  gutterWidth : Length
  contentPadding : Length
  deriving DecidableEq, Repr

def textInset : Length :=
  Measure.ofNat 6

def gutterPadding : Nat :=
  8

def leastGutterWidth : Length :=
  Measure.ofNat 20

/-- The layout for a number of lines and a width of characters. Without line numbers there is no
gutter, but the digits are still counted. -/
def GutterLayout.compute (lineCount : Nat) (charWidth : Length) (showNumbers : Bool) :
    GutterLayout Length :=
  let digits := digitCount (Nat.max lineCount 1)
  let width :=
    if showNumbers then
      Measure.max
        (Measure.add (Measure.mul (Measure.ofNat digits) charWidth)
          (Measure.ofNat (2 * gutterPadding)))
        leastGutterWidth
    else Measure.ofNat 0
  ⟨digits, width, if showNumbers then Measure.add width textInset else textInset⟩

/-- Rows from `first` to just before `stop`. -/
structure RowRange where
  first : Nat
  stop : Nat
  deriving DecidableEq, Repr

/-- The rows that a viewport of some height shows when it is scrolled. All rows are, when the
lengths make no sense. -/
def visibleRows (scroll viewport rowHeight : Length) (lineCount : Nat) : RowRange :=
  if !Measure.isPositive rowHeight || !Measure.isFinite scroll || !Measure.isFinite viewport then
    ⟨0, lineCount⟩
  else
    let top := Measure.max scroll (Measure.ofNat 0)
    let height := Measure.max viewport (Measure.ofNat 0)
    let first := Measure.floor (Measure.div top rowHeight)
    let last := Measure.ceil (Measure.div (Measure.add top height) rowHeight)
    ⟨min first lineCount, min (last + 1) lineCount⟩

def rowTop (row : Nat) (rowHeight inset scroll : Length) : Length :=
  Measure.sub (Measure.add inset (Measure.mul (Measure.ofNat row) rowHeight)) scroll

end

structure ScrollOffset where
  x : Single
  y : Single
  deriving DecidableEq, Repr

namespace ScrollOffset

def zero : ScrollOffset :=
  ⟨.zero false, .zero false⟩

def same (first second : ScrollOffset) : Bool :=
  first.x.same second.x && first.y.same second.y

end ScrollOffset

/-- The offset that the input reported last, and whether it moved then. The highlighted text follows
it both ways, the gutter only vertically. -/
structure ScrollState where
  offset : ScrollOffset
  moving : Bool
  deriving DecidableEq, Repr

namespace ScrollState

def start : ScrollState :=
  ⟨.zero, false⟩

def observe (state : ScrollState) (offset : ScrollOffset) : ScrollState :=
  ⟨offset, !offset.same state.offset⟩

def gutterOffset (state : ScrollState) : Single :=
  state.offset.y

end ScrollState

end Highlight
