import Highlight.Window.Clock
import Highlight.Window.Focus

/-!
A window: who has the focus, whether another frame is due, and where things are in this frame.
-/

set_option autoImplicit false

namespace Highlight

structure Window where
  focus : Focus
  clock : Clock
  /-- The targets that have been met in this frame. -/
  placed : List Placed
  deriving DecidableEq, Repr

namespace Window

def start : Window :=
  ⟨.start, .start, []⟩

variable (window : Window)

def begin (events : List InputEvent) : Window :=
  ⟨window.focus.begin events, window.clock.tick, []⟩

def meet (target : Target) (place : Rect) (isEnabled : Bool) : Window :=
  { window with
    focus := if isEnabled then window.focus.visit target else window.focus.refuse target
    placed := window.placed ++ [⟨target, place⟩] }

def offerIf (takesFocus : Bool) (target : Target) : Window :=
  if takesFocus then { window with focus := window.focus.offer target } else window

def demandIf (reason : Bool) : Window :=
  { window with clock := window.clock.demandIf reason }

/-- Is a target clicked, or pressed with a key while it has the focus? -/
def isActivated (target : Target) (events : List InputEvent) : Bool :=
  events.contains (.clicked (some target)) ||
    (window.focus.isAt target &&
      events.any fun event => event.isPressOf .space || event.isPressOf .enter)

def finish (events : List InputEvent) : Window :=
  { window with
    focus := window.focus.finish window.placed
    clock := window.clock.demandIf !events.isEmpty }

def blur : Window :=
  { window with focus := window.focus.takeAway }

end Window

end Highlight
