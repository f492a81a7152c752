import Highlight.Number.Binary

/-!
Where things are in a window.
-/

set_option autoImplicit false

namespace Highlight

inductive Axis where
  | horizontal
  | vertical
  deriving DecidableEq, Repr

/-- What lies between two places along an axis. -/
structure Stretch where
  start : Single
  stop : Single
  deriving DecidableEq, Repr

namespace Stretch

def length (stretch : Stretch) : Single :=
  stretch.stop.sub stretch.start

def widen (margin : Single) (stretch : Stretch) : Stretch :=
  ⟨stretch.start.sub margin, stretch.stop.add margin⟩

def narrow (margin : Single) (stretch : Stretch) : Stretch :=
  ⟨stretch.start.add margin, stretch.stop.sub margin⟩

def moveBy (distance : Single) (stretch : Stretch) : Stretch :=
  ⟨stretch.start.add distance, stretch.stop.add distance⟩

/-- Have the stretches a place in common? -/
def meets (first second : Stretch) : Bool :=
  first.start.atMost second.stop && second.start.atMost first.stop

/-- Have the stretches more than their ends in common? -/
def overlaps (first second : Stretch) : Bool :=
  first.start.less second.stop && second.start.less first.stop

end Stretch

structure Rect where
  across : Stretch
  down : Stretch
  deriving DecidableEq, Repr

namespace Rect

def ofCorner (left top width height : Single) : Rect :=
  ⟨⟨left, left.add width⟩, ⟨top, top.add height⟩⟩

def meets (first second : Rect) : Bool :=
  first.across.meets second.across && first.down.meets second.down

def overlaps (first second : Rect) : Bool :=
  first.across.overlaps second.across && first.down.overlaps second.down

end Rect

end Highlight
