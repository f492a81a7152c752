import Highlight.Layout
import Highlight.Layout.Letters
import Highlight.Window.Basic

/-!
Scroll areas: a page behind a viewport. A page that is larger than its viewport can be scrolled, has
bars for it, and can have the focus. The way to a part of the page that is to be in view takes a few
frames.
-/

set_option autoImplicit false

namespace Highlight

structure Glide where
  goal : Single
  /-- How many seconds the way takes. -/
  duration : Single
  /-- The frame in which it began. -/
  begun : Nat
  deriving DecidableEq, Repr

namespace Glide

def speed : Single :=
  .ofNat 1000

def leastDuration : Single :=
  .ofRat false (mkRat 1 10)

def greatestDuration : Single :=
  .ofRat false (mkRat 3 10)

def durationOf (distance : Single) : Single :=
  (distance.magnitude.div speed).clamp leastDuration greatestDuration

/-- The part of the way that is made in a part of the time: slowly at both ends. -/
def ease (part : Single) : Single :=
  let part := part.clamp (.zero false) (.ofNat 1)
  let square := part.mul part
  (((Binary.ofNat 3).mul square).sub (((Binary.ofNat 2).mul square).mul part)).clamp
    (.zero false) (.ofNat 1)

variable (glide : Glide)

def part (frames : Nat) : Single :=
  ease ((Binary.ofRat false (mkRat frames Clock.framesPerSecond)).div glide.duration)

/-- The offset in a frame, and whether it is not yet the goal. -/
def offsetIn (frame : Nat) (offset : Single) : Single × Bool :=
  let before := glide.part (frame - 1 - glide.begun)
  let now := glide.part (frame - glide.begun)
  let one : Single := .ofNat 1
  if now.less one then
    let part := (now.sub before).div (one.sub before)
    (((one.sub part).mul offset).add (part.mul glide.goal), true)
  else (glide.goal, false)

end Glide

structure AxisScroll where
  offset : Single
  glide : Option Glide
  /-- Was the page longer than the viewport in the last frame? -/
  overflows : Bool
  deriving DecidableEq, Repr

namespace AxisScroll

def start : AxisScroll :=
  ⟨.zero false, none, false⟩

variable (scroll : AxisScroll)

def advance (frame : Nat) : AxisScroll :=
  match scroll.glide with
  | none => scroll
  | some glide =>
    if (scroll.offset.sub glide.goal).magnitude.less (.ofNat 1) then
      { scroll with offset := glide.goal, glide := none }
    else
      let (offset, isOnItsWay) := glide.offsetIn frame scroll.offset
      { scroll with offset := offset, glide := if isOnItsWay then some glide else none }

/-- How far the offset has to change so that a stretch of the page comes into view. A stretch that
reaches beyond both ends of the view is left as it is. -/
def distanceTo (view wanted : Stretch) : Single :=
  let above := view.start.sub wanted.start
  let below := wanted.stop.sub view.stop
  if wanted.start.less view.start && wanted.stop.less view.stop then
    (above.min (view.stop.sub wanted.stop)).negate
  else if view.stop.less wanted.stop && view.start.less wanted.start then
    below.min (wanted.start.sub view.start)
  else .zero false

/-- Sets out for a stretch of the page that is to be in view. A way that is being made gets another
goal. -/
def reveal (frame : Nat) (view : Stretch) (wanted : Option Stretch) : AxisScroll :=
  let distance := (wanted.map (distanceTo view)).getD (.zero false)
  if distance.isZero then scroll
  else
    let goal := scroll.offset.add distance
    { scroll with
      glide :=
        match scroll.glide with
        | some glide => some { glide with goal := goal }
        | none => some ⟨goal, Glide.durationOf distance, frame⟩ }

def confine (viewport content : Single) : AxisScroll :=
  { scroll with
    offset := (scroll.offset.min (content.sub viewport)).max (.zero false)
    overflows := viewport.less content }

end AxisScroll

structure ScrollArea where
  across : AxisScroll
  down : AxisScroll
  /-- Where the viewport was in the last frame; none when there has been no frame yet. -/
  viewport : Option Rect
  deriving DecidableEq, Repr

/-- What the content of an area needs to know in a frame. -/
structure AreaView where
  size : Size
  viewport : Rect
  left : Single
  top : Single
  clip : Rect
  deriving DecidableEq, Repr

namespace ScrollArea

def start : ScrollArea :=
  ⟨.start, .start, none⟩

instance : Inhabited ScrollArea :=
  ⟨start⟩

/-- How far beyond the viewport something is still to be seen. -/
def slack : Single :=
  .ofNat 3

def barWidth : Single :=
  .ofNat 10

def leastSize : Single :=
  .ofNat 64

variable (area : ScrollArea)

def offset : ScrollOffset :=
  ⟨area.across.offset, area.down.offset⟩

def withOffset (offset : ScrollOffset) : ScrollArea :=
  { area with
    across := { area.across with offset := offset.x }
    down := { area.down with offset := offset.y } }

def overflows : Bool :=
  area.across.overflows || area.down.overflows

def isMoving : Bool :=
  area.across.glide.isSome || area.down.glide.isSome

def advance (frame : Nat) : ScrollArea :=
  { area with across := area.across.advance frame, down := area.down.advance frame }

def view (size : Size) (left top limit : Single) : AreaView :=
  let viewport := Rect.ofCorner left top size.width size.height
  let clip : Rect := ⟨viewport.across.widen slack, viewport.down.widen slack⟩
  { size := size
    viewport := viewport
    left := (left.sub area.across.offset).round
    top := (top.sub area.down.offset).round
    clip := { clip with down := ⟨clip.down.start, clip.down.stop.min limit⟩ } }

def reveal (frame : Nat) (clip : Rect) (wanted : Option Rect) : ScrollArea :=
  { area with
    across := area.across.reveal frame clip.across (wanted.map (·.across))
    down := area.down.reveal frame clip.down (wanted.map (·.down)) }

def confine (view : AreaView) (content : Size) : ScrollArea :=
  ⟨area.across.confine view.size.width content.width,
    area.down.confine view.size.height content.height, some view.viewport⟩

def barPlace (viewport : Rect) : Axis → Rect
  | .horizontal => ⟨viewport.across, ⟨viewport.down.stop.sub barWidth, viewport.down.stop⟩⟩
  | .vertical => ⟨⟨viewport.across.stop.sub barWidth, viewport.across.stop⟩, viewport.down⟩

/-- The axes along which there are bars in a frame: those along which the page overflowed in the
last frame, or in the first frame of an area those along which it does now. -/
def barAxes (now : ScrollArea) : List Axis :=
  let judged := if area.viewport.isSome then area else now
  (if judged.across.overflows then [.horizontal] else []) ++
    (if judged.down.overflows then [.vertical] else [])

end ScrollArea

namespace Window

variable (window : Window)

/-- The beginning of a frame of an area: what it is like then, and its page, which can have the
focus when it overflows. -/
def enterArea (name : String) (area : ScrollArea) : Window × ScrollArea :=
  let advanced := area.advance window.clock.frames
  let window := window.demandIf advanced.isMoving
  match area.viewport with
  | some viewport =>
    if area.overflows then (window.meet (.page name) viewport true, advanced)
    else (window, advanced)
  | none => (window, advanced)

def leaveArea (name : String) (area : ScrollArea) (view : AreaView) (content : Size)
    (wanted : Option Rect) : Window × ScrollArea :=
  let aimed := area.reveal window.clock.frames view.clip wanted
  let confined := aimed.confine view content
  let isUneven :=
    confined.across.overflows != area.across.overflows ||
      confined.down.overflows != area.down.overflows
  let met := (area.barAxes confined).foldl
    (fun (window : Window) axis =>
      window.meet (.bar name axis) (ScrollArea.barPlace view.viewport axis) true)
    window
  (met.demandIf (isUneven || aimed != area), confined)

end Window

end Highlight
