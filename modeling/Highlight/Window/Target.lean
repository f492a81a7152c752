import Highlight.Json.Outline
import Highlight.Window.Place

/-!
What can have the focus, and what can be clicked.
-/

set_option autoImplicit false

namespace Highlight

inductive Menu where
  | language
  | theme
  deriving DecidableEq, Repr

inductive Switch where
  | readOnly
  | lineNumbers
  | fillHeight
  | outline
  deriving DecidableEq, Repr

inductive Target where
  | menu (menu : Menu)
  /-- The page of an open menu that has more items than fit. -/
  | menuPage (menu : Menu)
  | menuItem (menu : Menu) (index : Nat)
  /-- The bar beside an open menu that has more items than fit. -/
  | menuBar (menu : Menu)
  | box (switch : Switch)
  | text (surface : String)
  /-- The page of a surface on which not everything fits. -/
  | page (surface : String)
  | bar (surface : String) (axis : Axis)
  | group (path : OutlinePath)
  deriving DecidableEq, Repr

end Highlight
