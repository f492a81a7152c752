import Highlight.Window.Target

/-!
What people do: at the keyboard, and to what can be clicked.
-/

set_option autoImplicit false

namespace Highlight

/-- A key. Those without a meaning are told apart by their names only. -/
inductive Key where
  | tab
  | enter
  | backspace
  | delete
  | left
  | right
  | up
  | down
  | home
  | lineEnd
  | escape
  | space
  | other (name : String)
  deriving DecidableEq, Repr, Inhabited

namespace Key

/-- The keys that have a meaning, each with the name under which it is reported and other names for
it. -/
def named : List (Key × String × List String) :=
  [(tab, "Tab", []), (enter, "Enter", ["Return"]), (backspace, "Backspace", []),
    (delete, "Delete", []), (left, "Left", ["ArrowLeft", "⏴"]),
    (right, "Right", ["ArrowRight", "⏵"]), (up, "Up", ["ArrowUp", "⏶"]),
    (down, "Down", ["ArrowDown", "⏷"]), (home, "Home", []), (lineEnd, "End", []),
    (escape, "Escape", ["Esc"]), (space, "Space", [" "])]

/-- Further keys that have more than one name: the name under which each is reported, and the
others. -/
def furtherNames : List (String × List String) :=
  [("Insert", ["Help"]), ("Colon", [":"]), ("Comma", [","]), ("Minus", ["-", "−"]),
    ("Period", ["."]), ("Plus", ["+"]), ("Equals", ["=", "Equal", "NumpadEqual"]),
    ("Semicolon", [";"]), ("Backslash", ["\\"]), ("Slash", ["/"]), ("Pipe", ["|"]),
    ("Questionmark", ["?"]), ("Exclamationmark", ["!"]), ("OpenBracket", ["["]),
    ("CloseBracket", ["]"]), ("OpenCurlyBracket", ["\x7b"]), ("CloseCurlyBracket", ["\x7d"]),
    ("Backtick", ["\x60"]), ("Quote", ["\x27"])] ++
    (List.range 10).map fun digit =>
      (toString digit, ["Digit" ++ toString digit, "Numpad" ++ toString digit])

/-- The name under which a key without a meaning is reported: a letter in upper case, and the first
of several names. -/
def reportedName (name : String) : String :=
  match furtherNames.find? fun (_, others) => others.contains name with
  | some (own, _) => own
  | none => if name.length = 1 then name.map Char.toUpper else name

def ofName (name : String) : Key :=
  match named.find? fun (_, own, others) => own == name || others.contains name with
  | some (key, _) => key
  | none => other (reportedName name)

def name (key : Key) : String :=
  match key with
  | other name => name
  | key => ((named.lookup key).map (·.1)).getD ""

end Key

structure Modifiers where
  alt : Bool
  control : Bool
  shift : Bool
  /-- The command key on the keyboards that have one. -/
  macCommand : Bool
  /-- The key that goes with commands: the command key on the keyboards that have one, and the
  control key on others. -/
  command : Bool
  isCommand : macCommand → command
  deriving DecidableEq, Repr

namespace Modifiers

def ofShift (shift : Bool) : Modifiers :=
  ⟨false, false, shift, false, false, id⟩

def none : Modifiers :=
  ofShift false

/-- Is none of the modifier keys held down? The command key is not asked for by itself. -/
def areNone (modifiers : Modifiers) : Bool :=
  !modifiers.alt && !modifiers.shift && !modifiers.control && !modifiers.command

end Modifiers

/-- A key that was pressed, with the modifier keys that were held down. Others than shift come with
the tab key only: with most keys they make commands, which are left out here. -/
structure Press where
  key : Key
  modifiers : Modifiers
  isNoCommand : key ≠ .tab → modifiers = .ofShift modifiers.shift
  deriving DecidableEq, Repr

namespace Press

def ofShift (key : Key) (shift : Bool) : Press :=
  ⟨key, .ofShift shift, fun _ => rfl⟩

def plain (key : Key) : Press :=
  ofShift key false

def shift (press : Press) : Bool :=
  press.modifiers.shift

end Press

inductive InputEvent where
  | typed (text : String)
  | pasted (text : String)
  | pressed (press : Press)
  | released (press : Press)
  /-- A click on a target, or on something that is none. -/
  | clicked (target : Option Target)
  deriving DecidableEq, Repr

namespace InputEvent

def press? : InputEvent → Option Press
  | pressed press => some press
  | typed _ | pasted _ | released _ | clicked _ => none

def isPlain (key : Key) (event : InputEvent) : Bool :=
  event.press?.any fun press => press.key == key && press.modifiers.areNone

/-- Was this key pressed, alone or with others? -/
def isPressOf (key : Key) (event : InputEvent) : Bool :=
  event.press?.any (·.key == key)

/-- The frames that something done takes. A key goes down in one and up in another, and modifier
keys do so before and after it. -/
def frames : InputEvent → List (List InputEvent)
  | pressed press =>
    let own := [[pressed press], [released press]]
    if press.modifiers.areNone then own else [[]] ++ own ++ [[]]
  | event => [[event]]

end InputEvent

end Highlight
