import Highlight.Document.Basic
import Highlight.Json.Outline
import Highlight.Json.Printer
import Highlight.Surface.Painting
import Highlight.Window.ScrollArea

/-!
An outline in the place of a text, in one frame: where its rows are, which of their texts are to be
seen, and which groups are opened and closed.
-/

set_option autoImplicit false

namespace Highlight

namespace Json

def leafKind : Json → TokenKind
  | .null => .null
  | .bool _ => .boolean
  | .number _ => .number
  | .string _ => .string
  | .array _ | .object _ => .bracket

end Json

structure OutlineLook where
  appearance : Appearance
  view : AreaView
  events : List InputEvent

/-- How far the visit of the rows of an outline has come. -/
structure OutlineVisit where
  window : Window
  openness : Openness
  top : Single
  /-- How far the rows reach to the right. -/
  right : Single
  /-- How far the rows reach down. -/
  bottom : Single
  texts : List ColoredText

namespace OutlineRow

def indent : Single :=
  .ofNat 18

def markWidth : Single :=
  .ofNat 18

/-- The empty space around the title of a group, on both sides taken together. -/
def titlePadding : Single :=
  .ofNat 8

def leastTitleWidth : Single :=
  .ofNat 40

def leastHeight : Single :=
  .ofNat 18

def gap : Single :=
  .ofNat 6

def textGap : Single :=
  .ofNat 8

def leafLabel (label : String) : String :=
  label ++ ":"

def inset (rowHeight textHeight : Single) : Single :=
  (rowHeight.sub textHeight).div (.ofNat 2)

def groups (rows : List OutlineRow) : List (OutlinePath × String) :=
  rows.filterMap fun
    | group path title => some (path, title)
    | _ => none

end OutlineRow

namespace OutlineLook

variable (look : OutlineLook)

def sizeOf (text : String) : Size :=
  look.appearance.letters.sizeOf text.toList

def leftOf (path : OutlinePath) : Single :=
  look.view.left.add (OutlineRow.indent.mul (.ofNat path.length))

/-- A text of some kind, if it is to be seen where it is. -/
def painted (place : Rect) (text : String) (kind : TokenKind) : List ColoredText :=
  if place.overlaps look.view.clip then
    [⟨text, look.appearance.tokenColor .syntactic kind⟩]
  else []

end OutlineLook

namespace OutlineVisit

def start (look : OutlineLook) (window : Window) (openness : Openness) : OutlineVisit :=
  ⟨window, openness, look.view.top, look.view.left, look.view.top, []⟩

variable (look : OutlineLook) (visit : OutlineVisit)

/-- Goes on below a row that reaches to the right and down. -/
def below (right bottom : Single) (texts : List ColoredText) : OutlineVisit :=
  { visit with
    top := bottom.add OutlineRow.gap
    right := visit.right.max right
    bottom := visit.bottom.max bottom
    texts := visit.texts ++ texts }

/-- Visits a group, which is opened or closed when it is pressed. -/
def group (path : OutlinePath) (title : String) : OutlineVisit :=
  let size := look.sizeOf title
  let place := Rect.ofCorner (look.leftOf path) visit.top
    (((OutlineRow.markWidth.add size.width).add OutlineRow.titlePadding).max
      OutlineRow.leastTitleWidth)
    ((size.height.add OutlineRow.titlePadding).max OutlineRow.leastHeight)
  let window := visit.window.meet (.group path) place true
  let isPressed := window.isActivated (.group path) look.events
  { visit.below place.across.stop place.down.stop (look.painted place title .key) with
    window := window.demandIf isPressed
    openness := if isPressed then visit.openness.toggle path else visit.openness }

def leaf (path : OutlinePath) (label : String) (value : Json) : OutlineVisit :=
  let label := OutlineRow.leafLabel label
  let left := look.leftOf path
  let labelSize := look.sizeOf label
  let valueSize := look.sizeOf value.compact
  let height := labelSize.height.max OutlineRow.leastHeight
  let place (left : Single) (size : Size) : Rect :=
    .ofCorner left (visit.top.add (OutlineRow.inset height size.height)) size.width size.height
  let valueLeft := (left.add labelSize.width).add OutlineRow.textGap
  visit.below (valueLeft.add valueSize.width) (visit.top.add (height.max valueSize.height))
    (look.painted (place left labelSize) label .key ++
      look.painted (place valueLeft valueSize) value.compact value.leafKind)

def row : OutlineRow → OutlineVisit
  | .group path title => visit.group look path title
  | .leaf path label value => visit.leaf look path label value
  | .nothing => visit.below visit.right visit.top []

def rows (rows : List OutlineRow) : OutlineVisit :=
  rows.foldl (row look) visit

def page : Size :=
  ⟨visit.right.sub look.view.left, visit.bottom.sub look.view.top⟩

end OutlineVisit

end Highlight
