import Highlight.Document.FlaggedLines
import Highlight.Json.Reader
import Highlight.Language
import Highlight.Text.Classes

/-!
What an editor knows of a value: whether it is the JSON that it should be. Only values in JSON are
looked at, and only those that are not blank.
-/

set_option autoImplicit false

namespace Highlight

inductive Validation where
  /-- There is nothing to be said of the value. -/
  | unchecked
  | valid (value : Json)
  | invalid (failure : Json.Failure)
  deriving Inhabited

def isBlankText (value : String) : Bool :=
  value.toList.all Text.isBlank

namespace Validation

def of (language : Language) (value : String) : Validation :=
  if language != .json || isBlankText value then unchecked
  else
    match Json.parse value with
    | .ok json => valid json
    | .error failure => invalid failure

/-- The line of a failure; one that is not at any line counts as being at the first. -/
def lineOf : Json.Failure → Nat
  | .placed _ mark => max mark.line 1
  | .unplaced _ _ => 1

def flagged : Validation → FlaggedLines
  | invalid failure => FlaggedLines.empty.insert (lineOf failure)
  | unchecked | valid _ => .empty

def message? : Validation → Option String
  | invalid failure => some ("Invalid JSON: " ++ failure.message)
  | unchecked | valid _ => none

def json? : Validation → Option Json
  | valid json => some json
  | unchecked | invalid _ => none

end Validation

end Highlight
