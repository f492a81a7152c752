import Highlight.Document.Edit
import Highlight.Input
import Highlight.Layout.Letters

/-!
A text that is edited at the keyboard. What is typed takes the place of the selection; in a text
that is locked the caret goes where it would go otherwise, and the text stays.
-/

set_option autoImplicit false

namespace Highlight

/-- A selection, and the place in its line that moves up and down keep to while nothing else
happens. -/
structure CaretState where
  selection : Selection
  place : Option Single
  deriving DecidableEq, Repr

namespace CaretState

def collapsed (offset : Nat) : CaretState :=
  ⟨.collapsed offset, none⟩

def within (size : Nat) (state : CaretState) : CaretState :=
  { state with selection := state.selection.within size }

end CaretState

structure TextField where
  value : String
  caret : CaretState
  locked : Bool
  letters : Letters
  deriving DecidableEq, Repr

namespace TextField

def moveTo (field : TextField) (offset : Nat) : TextField :=
  { field with caret := .collapsed offset }

def remove (field : TextField) (first last : Nat) : TextField :=
  if field.locked then field
  else { field with value := (replaceSelection field.value ⟨first, last⟩ "").value }

def removeSelection (field : TextField) : TextField :=
  let selection := field.caret.selection
  (field.remove selection.first selection.last).moveTo selection.first

def insert (field : TextField) (text : String) : TextField :=
  if field.locked then field.removeSelection
  else
    let splice := replaceSelection field.value field.caret.selection text
    { field with value := splice.value }.moveTo splice.caret

def deleteBackward (field : TextField) : TextField :=
  let selection := field.caret.selection
  if selection.isEmpty then
    (field.remove (selection.caret - 1) selection.caret).moveTo (selection.caret - 1)
  else field.removeSelection

def deleteForward (field : TextField) : TextField :=
  let selection := field.caret.selection
  if selection.isEmpty then
    (field.remove selection.caret (selection.caret + 1)).moveTo selection.caret
  else field.removeSelection

def lineStart (value : List Char) (offset : Nat) : Nat :=
  offset - ((value.take offset).reverse.takeWhile (· != '\n')).length

def lineStop (value : List Char) (offset : Nat) : Nat :=
  offset + ((value.drop offset).takeWhile (· != '\n')).length

def indentationWidth : Nat :=
  4

/-- How much is taken out of the start of a line: one tab, or four blanks, of which some may be
missing only at the end of the text. -/
def outdentWidth (line : List Char) : Nat :=
  if line.head? = some '\t' then 1
  else if (line.take indentationWidth).all (· == ' ') then indentationWidth
  else 0

/-- Takes out the selection and one step of indentation. The caret moves back by that step unless it
is at the start of its line. -/
def outdent (field : TextField) : TextField :=
  let field := field.removeSelection
  let caret := field.caret.selection.caret
  let start := lineStart field.value.toList caret
  let width := outdentWidth (field.value.toList.drop start)
  (field.remove start (start + width)).moveTo (if caret = start then caret else caret - width)

/-- The end of the selection that moves goes to an offset; the other end goes with it unless the
selection is being extended. -/
def moveCaret (field : TextField) (extend : Bool) (offset : Nat) (place : Option Single) :
    TextField :=
  let anchor := if extend then field.caret.selection.anchor else offset
  { field with caret := ⟨⟨offset, anchor⟩, place⟩ }

/-- Moves by one character, or to an end of the selection. -/
def moveSideways (field : TextField) (extend forward : Bool) : TextField :=
  let selection := field.caret.selection
  if !extend && !selection.isEmpty then
    field.moveTo (if forward then selection.last else selection.first)
  else if forward then
    field.moveCaret extend (min (selection.caret + 1) field.value.length) none
  else field.moveCaret extend (selection.caret - 1) none

def lineAt (field : TextField) (start : Nat) : PlacedLine :=
  field.letters.setLine ((field.value.toList.drop start).takeWhile (· != '\n'))

def caretPlace (field : TextField) : Single :=
  let caret := field.caret.selection.caret
  let start := lineStart field.value.toList caret
  (field.lineAt start).placeOf (caret - start)

def keptPlace (field : TextField) : Single :=
  field.caret.place.getD field.caretPlace

def moveToLine (field : TextField) (extend : Bool) (start : Nat) : TextField :=
  let place := field.keptPlace
  field.moveCaret extend (start + (field.lineAt start).columnAt place) (some place)

/-- Moves to the same place of the line above, or from the first line to the start of the text. -/
def moveUp (field : TextField) (extend : Bool) : TextField :=
  let value := field.value.toList
  let start := lineStart value field.caret.selection.caret
  if start = 0 then field.moveCaret extend 0 none
  else field.moveToLine extend (lineStart value (start - 1))

def moveDown (field : TextField) (extend : Bool) : TextField :=
  let value := field.value.toList
  let stop := lineStop value field.caret.selection.caret
  if value.length ≤ stop then field.moveCaret extend value.length none
  else field.moveToLine extend (stop + 1)

def moved? (field : TextField) (press : Press) : Option TextField :=
  let extend := press.shift
  let caret := field.caret.selection.caret
  match press.key with
  | .left => some (field.moveSideways extend false)
  | .right => some (field.moveSideways extend true)
  | .up => some (field.moveUp extend)
  | .down => some (field.moveDown extend)
  | .home => some (field.moveCaret extend (lineStart field.value.toList caret) none)
  | .lineEnd => some (field.moveCaret extend (lineStop field.value.toList caret) none)
  | _ => none

def edited? (field : TextField) (press : Press) : Option TextField :=
  match press.key with
  | .tab => some (if press.shift then field.outdent else field.insert "\t")
  | .enter => some (field.insert "\n")
  | .backspace => some field.deleteBackward
  | .delete => some field.deleteForward
  | _ => none

/-- Is there something to insert? Line ends that are typed are left to the key for them. -/
def isTypable (text : String) : Bool :=
  text != "" && text != "\n" && text != "\r"

/-- The field after an event, and whether the event counts as a change of the text. -/
def receive (field : TextField) (event : InputEvent) : TextField × Bool :=
  match event with
  | .released _ | .clicked _ => (field, false)
  | .typed text => if isTypable text then (field.insert text, true) else (field, false)
  | .pasted text => if text != "" then (field.insert text, true) else (field, false)
  | .pressed press =>
    match field.moved? press with
    | some moved => (moved, false)
    | none =>
      match field.edited? press with
      | some edited => (edited, true)
      | none => (field, false)

def receiveAll (field : TextField) (events : List InputEvent) : TextField × Bool :=
  events.foldl
    (fun (field, changed) event =>
      let (field, changes) := field.receive event
      (field, changed || changes))
    (field, false)

end TextField

end Highlight
