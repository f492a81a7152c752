import Highlight.Json.Basic
import Highlight.Text.Classes

/-!
Reading JSON from left to right. A cursor is a place in the text; a failure names the line and the
column at which the reading stopped, unless only the enclosing value can tell.
-/

set_option autoImplicit false

namespace Highlight.Json

/-- A line, counted from one, and the bytes of it that have been read. -/
structure Mark where
  line : Nat
  column : Nat
  deriving DecidableEq, Repr, Inhabited

namespace Mark

def start : Mark :=
  ⟨1, 0⟩

def past (mark : Mark) (c : Char) : Mark :=
  if c = '\n' then ⟨mark.line + 1, 0⟩ else ⟨mark.line, mark.column + c.utf8Size⟩

/-- The mark some bytes further on in a text, at most at its end. -/
def afterBytes (mark : Mark) : Nat → List Char → Mark
  | 0, _ => mark
  | _ + 1, [] => mark
  | count + 1, c :: rest =>
    if c = '\n' then afterBytes ⟨mark.line + 1, 0⟩ count rest
    else if c.utf8Size ≤ count + 1 then
      afterBytes (mark.past c) (count + 1 - c.utf8Size) rest
    else ⟨mark.line, mark.column + (count + 1)⟩

end Mark

/-- A place in a text, and a number of characters that the text does not exceed. -/
structure Cursor where
  mark : Mark
  rest : List Char
  bound : Nat
  deriving Inhabited

namespace Cursor

def start (text : List Char) : Cursor :=
  ⟨.start, text, text.length⟩

def advance (cursor : Cursor) : Cursor :=
  match cursor.rest with
  | [] => cursor
  | c :: rest => { cursor with mark := cursor.mark.past c, rest := rest }

/-- The place after characters that each take up one byte and are no line feeds. -/
def advanceBy (count : Nat) (cursor : Cursor) : Cursor :=
  { cursor with
    mark := ⟨cursor.mark.line, cursor.mark.column + count⟩
    rest := cursor.rest.drop count }

def isSpace (c : Char) : Bool :=
  c == ' ' || c == '\n' || c == '\t' || c == '\r'

def skipBlanks (cursor : Cursor) : Cursor :=
  let blanks := cursor.rest.takeWhile isSpace
  { cursor with
    mark := blanks.foldl Mark.past cursor.mark
    rest := cursor.rest.dropWhile isSpace }

def afterByte (cursor : Cursor) : Mark :=
  cursor.mark.afterBytes 1 cursor.rest

def endMark (cursor : Cursor) : Mark :=
  cursor.rest.foldl Mark.past cursor.mark

end Cursor

/-- A failure with its place, or one that the enclosing value places where its reading ends. -/
inductive Failure where
  | placed (cause : Cause) (mark : Mark)
  | unplaced (cause : Cause) (stopped : Cursor)
  deriving Inhabited

namespace Failure

def cause : Failure → Cause
  | placed cause _ => cause
  | unplaced cause _ => cause

def message : Failure → String
  | placed cause mark =>
    cause.message ++ " at line " ++ toString mark.line ++ " column " ++ toString mark.column
  | unplaced cause _ => cause.message

end Failure

abbrev Outcome (α : Type) := Except Failure (α × Cursor)

namespace Cursor

def fail {α : Type} (cursor : Cursor) (cause : Cause) : Except Failure α :=
  .error (.placed cause cursor.mark)

/-- Fails because of the next character. -/
def failNext {α : Type} (cursor : Cursor) (cause : Cause) : Except Failure α :=
  .error (.placed cause cursor.afterByte)

def word : List Char → Cursor → Except Failure Cursor
  | [], cursor => .ok cursor
  | expected :: others, cursor =>
    match cursor.rest with
    | [] => cursor.fail .valueMissing
    | c :: _ => if c == expected then word others cursor.advance else cursor.failNext .wordExpected

end Cursor

end Highlight.Json
