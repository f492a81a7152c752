/-!
Sets of characters, each given by the sorted list of code points at which membership changes.
-/

set_option autoImplicit false

namespace Highlight.Text

/-- A set of characters. A code point belongs to it when the number of edges at or below it is
odd. -/
structure CharSet where
  edges : Array Nat

namespace CharSet

/-- How many of the first `high` edges are at or below a code point, when the first `low` are known
to be and the edges ascend. -/
def edgesUpTo (edges : Array Nat) (code low high : Nat) : Nat :=
  if low < high then
    let middle := (low + high) / 2
    if edges.getD middle 0 ≤ code then edgesUpTo edges code (middle + 1) high
    else edgesUpTo edges code low middle
  else low
termination_by high - low

def contains (set : CharSet) (c : Char) : Bool :=
  edgesUpTo set.edges c.toNat 0 set.edges.size % 2 == 1

end CharSet

end Highlight.Text
