import Highlight.Input

/-!
The focus: which of several targets gets what is done at the keyboard. In each frame the targets
that can have the focus are visited in their order; the tab key passes it on along that order, the
arrow keys move it to what lies in their direction, and the escape key takes it away. A target can
keep the tab key and the arrow keys for itself.
-/

set_option autoImplicit false

namespace Highlight

inductive Direction where
  | left
  | right
  | up
  | down
  deriving DecidableEq, Repr

inductive FocusMove where
  | forward
  | backward
  | toward (direction : Direction)
  deriving DecidableEq, Repr

namespace FocusMove

def ofPress? (press : Press) : Option FocusMove :=
  match press.key with
  | .tab => some (if press.shift then backward else forward)
  | .left => some (toward .left)
  | .right => some (toward .right)
  | .up => some (toward .up)
  | .down => some (toward .down)
  | _ => none

end FocusMove

structure Holder where
  target : Target
  /-- Does it keep the keys for itself that would move the focus? -/
  keepsKeys : Bool
  deriving DecidableEq, Repr

structure Focus where
  holder : Option Holder
  /-- Who had the focus before this frame. -/
  before : Option Target
  /-- Who gets the focus in the next frame. -/
  next : Option Target
  /-- The move that is still to be made in this frame. -/
  move : Option FocusMove
  /-- Does the next target to be visited get the focus? -/
  isPassedOn : Bool
  /-- The target that was visited last. -/
  last : Option Target
  /-- The targets that have been visited in any frame, as far as they are still there. -/
  visited : List Target
  deriving DecidableEq, Repr

structure Placed where
  target : Target
  place : Rect
  deriving DecidableEq, Repr

namespace Direction

/-- How far a step to the right, and then down, leads in a direction. -/
def ahead (direction : Direction) (toRight toBottom : Rat) : Rat :=
  match direction with
  | left => -toRight
  | right => toRight
  | up => -toBottom
  | down => toBottom

/-- How far it is from one stretch to another along their axis. Stretches of which the shorter one
lies at least half beside the other are at the same place. -/
def gap (origin goal : Stretch) : Rat :=
  let start := greater origin.start.value goal.start.value
  let stop := lesser origin.stop.value goal.stop.value
  let shorter :=
    lesser (origin.stop.value - origin.start.value) (goal.stop.value - goal.start.value)
  if shorter ≤ 2 * (stop - start) then 0
  else (goal.start.value + goal.stop.value - origin.start.value - origin.stop.value) / 2

/-- What it costs to move from one place to another; none if the other does not lie in the
direction. It grows with the distance and with the angle. -/
def cost? (direction : Direction) (origin goal : Rect) : Option Rat :=
  let toRight := gap origin.across goal.across
  let toBottom := gap origin.down goal.down
  let ahead := direction.ahead toRight toBottom
  let squared := toRight * toRight + toBottom * toBottom
  if 0 < ahead && squared ≤ 2 * ahead * ahead then
    some (squared * squared * squared / (ahead * ahead * ahead * ahead))
  else none

/-- Of two choices the cheaper one, or the second one when they cost the same. -/
def cheaper (first : Option (Target × Rat)) (second : Target × Rat) : Option (Target × Rat) :=
  match first with
  | some (target, cost) => if cost < second.2 then some (target, cost) else some second
  | none => some second

def nearest? (direction : Direction) (origin : Rect) (choices : List Placed) : Option Target :=
  let costs := choices.filterMap fun choice =>
    (direction.cost? origin choice.place).map fun cost => (choice.target, cost)
  (costs.foldl cheaper none).map (·.1)

end Direction

namespace Focus

def start : Focus :=
  ⟨none, none, none, none, false, none, []⟩

variable (focus : Focus)

def isAt (target : Target) : Bool :=
  focus.holder.any (·.target == target)

def give (target : Target) : Focus :=
  { focus with holder := some ⟨target, false⟩ }

def takeAway : Focus :=
  { focus with holder := none }

def offer (target : Target) : Focus :=
  if focus.holder.isNone then focus.give target else focus

def receive (isKept : Bool) (press : Press) : Focus :=
  match press.key, FocusMove.ofPress? press with
  | .escape, _ => { focus with holder := none, move := none }
  | _, some move => if isKept then focus else { focus with move := some move }
  | _, none => focus

def begin (events : List InputEvent) : Focus :=
  let given :=
    match focus.next with
    | some target => focus.give target
    | none => focus
  let begun := { given with before := focus.holder.map (·.target), next := none, move := none }
  let isKept := given.holder.any (·.keepsKeys)
  (events.filterMap (·.press?)).foldl (receive · isKept) begun

def pass (target : Target) : Focus :=
  if focus.isPassedOn && focus.before != some target then
    { focus.give target with isPassedOn := false }
  else
    match focus.holder, focus.move with
    | some holder, some .forward =>
      if holder.target = target then { focus with holder := none, isPassedOn := true, move := none }
      else focus
    | some holder, some .backward =>
      if holder.target = target then { focus with next := focus.last, move := none } else focus
    | none, some .forward =>
      if focus.isPassedOn then focus else { focus.give target with move := none }
    | none, some .backward =>
      if focus.isPassedOn then focus
      else { focus with holder := focus.last.map (⟨·, false⟩), move := none }
    | _, _ => focus

def visit (target : Target) : Focus :=
  { focus.pass target with
    last := some target
    visited :=
      if focus.visited.contains target then focus.visited else focus.visited ++ [target] }

/-- Visits a target that cannot have the focus at present. -/
def refuse (target : Target) : Focus :=
  if focus.isAt target then focus.takeAway else focus

/-- Lets a target keep the keys for itself if it has the focus and had it before this frame. -/
def keepKeys (target : Target) : Focus :=
  if focus.isAt target && focus.before = some target then
    { focus with holder := some ⟨target, true⟩ }
  else focus

def moveToward (direction : Direction) (placed : List Placed) : Focus :=
  match focus.holder with
  | none => focus
  | some holder =>
    let known := focus.visited.filter fun target => placed.any (·.target == target)
    let choices := placed.filter fun choice => known.contains choice.target
    let goal := (choices.find? (·.target == holder.target)).bind fun origin =>
      direction.nearest? origin.place (choices.filter (·.target != holder.target))
    let moved := { focus with visited := known }
    match goal with
    | some target => moved.give target
    | none => moved

/-- Takes the focus away from a target that is not there any more. One that has just got it may
still appear. -/
def dropLost (placed : List Placed) : Focus :=
  match focus.holder with
  | some holder =>
    if focus.before = some holder.target && !placed.any (·.target == holder.target) then
      focus.takeAway
    else focus
  | none => focus

def finish (placed : List Placed) : Focus :=
  let moved :=
    match focus.move with
    | some (.toward direction) => focus.moveToward direction placed
    | _ => focus
  moved.dropLost placed

end Focus

end Highlight
