/-!
Changes of a text at character offsets, and where an offset is in the text.
-/

set_option autoImplicit false

namespace Highlight

/-- A stretch of a text between two character offsets, of which the first is where the caret is. -/
structure Selection where
  caret : Nat
  anchor : Nat
  deriving DecidableEq, Repr, Inhabited

namespace Selection

def collapsed (offset : Nat) : Selection :=
  ⟨offset, offset⟩

def first (selection : Selection) : Nat :=
  min selection.caret selection.anchor

def last (selection : Selection) : Nat :=
  max selection.caret selection.anchor

def isEmpty (selection : Selection) : Bool :=
  selection.caret == selection.anchor

def within (size : Nat) (selection : Selection) : Selection :=
  ⟨min selection.caret size, min selection.anchor size⟩

end Selection

structure Splice where
  value : String
  caret : Nat
  deriving DecidableEq, Repr

/-- Puts a text in the place of a selection and the caret after it. Offsets past the end count as
the end. -/
def replaceSelection (value : String) (selection : Selection) (inserted : String) : Splice :=
  let text := value.toList
  let before := text.take selection.first
  ⟨String.ofList (before ++ inserted.toList ++ text.drop selection.last),
    before.length + inserted.length⟩

def indentation : String :=
  "  "

def insertIndent (value : String) (selection : Selection) : Splice :=
  replaceSelection value selection indentation

/-- A place in a text for people: line and column, both counted from one. -/
structure Position where
  line : Nat
  column : Nat
  deriving DecidableEq, Repr

namespace Position

def after (position : Position) (c : Char) : Position :=
  if c = '\n' then ⟨position.line + 1, 1⟩ else ⟨position.line, position.column + 1⟩

/-- The position of a character offset; one past the end is the end. -/
def ofOffset (value : String) (offset : Nat) : Position :=
  (value.toList.take offset).foldl after ⟨1, 1⟩

end Position

end Highlight
