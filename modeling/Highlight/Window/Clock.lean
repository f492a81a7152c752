/-!
Whether another frame is due. A frame that asks for another one is followed by two more at once.
-/

set_option autoImplicit false

namespace Highlight

structure Clock where
  frames : Nat
  /-- Does the next frame have to be followed by another? -/
  isOwed : Bool
  /-- Does another frame follow this one at once? -/
  isDue : Bool
  deriving DecidableEq, Repr

namespace Clock

def start : Clock :=
  ⟨0, false, false⟩

def tick (clock : Clock) : Clock :=
  ⟨clock.frames + 1, false, clock.isOwed⟩

def demand (clock : Clock) : Clock :=
  { clock with isOwed := true, isDue := true }

def demandIf (clock : Clock) (reason : Bool) : Clock :=
  if reason then clock.demand else clock

def framesPerSecond : Nat :=
  4

/-- How often frames follow one another at once, at most. -/
def mostRepeats : Nat :=
  4

end Clock

end Highlight
