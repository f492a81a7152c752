import Highlight.Layout.Caption
import Highlight.Theme.Appearance
import Highlight.Window.ScrollArea

/-!
How much room a surface takes up, and how much its text.
-/

set_option autoImplicit false

namespace Highlight

structure HeightBounds where
  least : Single
  greatest : Single
  deriving DecidableEq, Repr, Inhabited

namespace HeightBounds

/-- The bounds for two wanted heights. The least one is not negative, and the greatest one is not
less than it; a wanted height that is no number counts as the least one possible. -/
def of (least greatest : Single) : HeightBounds :=
  let least := least.max (.zero false)
  ⟨least, greatest.max least⟩

def standard : HeightBounds :=
  of (.ofNat 120) (.ofNat 600)

def fit? (bounds : HeightBounds) (height : Single) : Option Single :=
  height.clamp? bounds.least bounds.greatest

end HeightBounds

structure Room where
  left : Single
  top : Single
  size : Size
  deriving DecidableEq, Repr

namespace Room

def margin : Single :=
  .ofNat 8

/-- The lowest place at which something of the surface is to be seen. -/
def floor (room : Room) : Single :=
  (room.top.add room.size.height).add margin

end Room

namespace Extent

def border : Single :=
  .ofNat 1

/-- The height that is wanted for what is shown in the place of a text. -/
def coverHeight : Single :=
  .ofNat 72

/-- The height that the border and the bar of a box take up. -/
def chrome : Single :=
  (border.add border).add ScrollArea.barWidth

/-- The height of the whole box: all there is, or what the content needs within the bounds. Bounds
that are out of order leave it without a height. -/
def boxHeight? (available : Single) (fillsHeight : Bool) (bounds : HeightBounds)
    (contentHeight : Single) : Option Single :=
  if fillsHeight then some available else bounds.fit? (contentHeight.add chrome)

/-- The height of the whole box, where a box without a height has no room at all. -/
def boxHeight (available : Single) (fillsHeight : Bool) (bounds : HeightBounds)
    (contentHeight : Single) : Single :=
  (boxHeight? available fillsHeight bounds contentHeight).getD (.zero false)

/-- What is inside the border of a box. A viewport does not get smaller than it can be used. -/
def inside (length : Single) : Single :=
  (length.sub (border.add border)).max ScrollArea.leastSize

def sideMargin : Single :=
  .ofNat 4

/-- The empty space above and below the text. -/
def endMargin : Single :=
  .ofNat 2

def margins : Size :=
  ⟨sideMargin.add sideMargin, endMargin.add endMargin⟩

def leastRows : Nat :=
  4

def leastTextWidth : Single :=
  .ofNat 24

def caretMargin : Single :=
  .ofRat false (mkRat 3 2)

def textRoom (letters : Letters) (viewport : Size) (padding : Single) (text : Size) : Size :=
  let beside := viewport.width.sub padding
  let least := (beside.max letters.cellWidth).min ((beside.sub margins.width).max leastTextWidth)
  ⟨(text.width.max least).add margins.width,
    ((text.height.max ((Binary.ofNat leastRows).mul letters.height)).add margins.height).max
      viewport.height⟩

def textPlace (room : Rect) : Rect :=
  ⟨room.across.narrow sideMargin, room.down.narrow endMargin⟩

def caretPlace (letters : Letters) (text : Rect) (left top : Single) : Rect :=
  let bottom := (top.add letters.rowHeight).max (top.add letters.height)
  let across := (Stretch.widen caretMargin ⟨left, left⟩).moveBy text.across.start
  let down := (Stretch.widen caretMargin ⟨top, bottom⟩).moveBy text.down.start
  ⟨across.widen sideMargin, down.widen endMargin⟩

/-- The size of a page after a text in its place has grown. A page does not get smaller while it is
being shown. -/
def grown (page : Size) (place : Rect) (text : Size) : Size :=
  ⟨page.width.max (page.width.add (text.width.sub place.across.length)),
    page.height.max (page.height.add (text.height.sub place.down.length))⟩

end Extent

end Highlight
