import Highlight.Json.Basic

/-!
The outline of a JSON value: one row for each part of it, those of a list or an object below a row
for the whole, which can be closed to hide them.
-/

set_option autoImplicit false

namespace Highlight

inductive OutlineStep where
  | member (name : String)
  | item (index : Nat)
  deriving DecidableEq, Repr

/-- The steps from the whole value to a part, the last one first. -/
abbrev OutlinePath := List OutlineStep

inductive OutlineRow where
  /-- A list or an object, with the number of its parts in its title. -/
  | group (path : OutlinePath) (title : String)
  | leaf (path : OutlinePath) (label : String) (value : Json)
  /-- The place below an open group that has no parts. -/
  | nothing
  deriving Inhabited

namespace OutlineRow

def title (label opening closing : String) (size : Nat) : String :=
  label ++ " " ++ opening ++ toString size ++ closing

def below (isOpen : Bool) (parts : List OutlineRow) : List OutlineRow :=
  if !isOpen then []
  else if parts.isEmpty then [nothing]
  else parts

end OutlineRow

namespace Json

mutual

def outline (isOpen : OutlinePath → Bool) (path : OutlinePath) (label : String) :
    Json → List OutlineRow
  | .object members =>
    .group path (OutlineRow.title label "\x7b" "\x7d" members.length) ::
      OutlineRow.below (isOpen path) (outlineMembers isOpen path members)
  | .array items =>
    .group path (OutlineRow.title label "[" "]" items.length) ::
      OutlineRow.below (isOpen path) (outlineItems isOpen path 0 items)
  | .null => [.leaf path label .null]
  | .bool value => [.leaf path label (.bool value)]
  | .number value => [.leaf path label (.number value)]
  | .string value => [.leaf path label (.string value)]

def outlineItems (isOpen : OutlinePath → Bool) (path : OutlinePath) (index : Nat) :
    List Json → List OutlineRow
  | [] => []
  | item :: items =>
    outline isOpen (.item index :: path) (toString index) item ++
      outlineItems isOpen path (index + 1) items

def outlineMembers (isOpen : OutlinePath → Bool) (path : OutlinePath) :
    List (String × Json) → List OutlineRow
  | [] => []
  | (name, value) :: members =>
    outline isOpen (.member name :: path) name value ++ outlineMembers isOpen path members

end

end Json

/-- Which groups of an outline are open: the upper ones, except that those that were toggled are the
other way round. -/
structure Openness where
  toggled : List OutlinePath
  deriving DecidableEq, Repr

namespace Openness

def standard : Openness :=
  ⟨[]⟩

def openLevels : Nat :=
  2

def isOpen (openness : Openness) (path : OutlinePath) : Bool :=
  decide (path.length < openLevels) != openness.toggled.contains path

def toggle (openness : Openness) (path : OutlinePath) : Openness :=
  if openness.toggled.contains path then ⟨openness.toggled.filter (· != path)⟩
  else ⟨path :: openness.toggled⟩

def rows (openness : Openness) (value : Json) : List OutlineRow :=
  value.outline openness.isOpen [] "root"

end Openness

end Highlight
