import Highlight.Json.Numerals
import Highlight.Json.Strings

/-!
Passing over JSON values that are not wanted. They have to be well formed but may be nested to any
depth.
-/

set_option autoImplicit false

namespace Highlight.Json

inductive Enclosure where
  | list
  | object
  deriving DecidableEq, Repr

namespace Enclosure

def closing : Enclosure → Char
  | list => ']'
  | object => '}'

def unclosed : Enclosure → Cause
  | list => .listUnclosed
  | object => .objectUnclosed

def separatorExpected : Enclosure → Cause
  | list => .listSeparatorExpected
  | object => .objectSeparatorExpected

end Enclosure

inductive Expectation where
  /-- A value, or its name first when an object encloses it. -/
  | item
  /-- The end of what encloses the place, or an item: without a separator only the first one. -/
  | rest (separated : Bool)
  deriving DecidableEq, Repr

namespace Cursor

def skipName (cursor : Cursor) : Except Failure Cursor := do
  let next := cursor.skipBlanks
  match next.rest with
  | [] => next.failNext .objectUnclosed
  | c :: _ =>
    if c == '\"' then
      let after := (← next.skipString).skipBlanks
      match after.rest with
      | [] => after.failNext .objectUnclosed
      | c :: _ => if c == ':' then return after.advance else after.failNext .colonExpected
    else next.failNext .keyExpected

def skipScalar (cursor : Cursor) : Except Failure Cursor :=
  match cursor.rest with
  | [] => cursor.failNext .valueMissing
  | c :: _ =>
    if c == 'n' then word "null".toList cursor
    else if c == 't' then word "true".toList cursor
    else if c == 'f' then word "false".toList cursor
    else if c == '-' then cursor.advance.skipNumeral
    else if c.isDigit then cursor.skipNumeral
    else if c == '\"' then cursor.skipString
    else cursor.failNext .valueExpected

/-- Passes over the rest of a value within enclosures, the innermost first. The number limits the
steps. -/
def skipSteps : Nat → Expectation → List Enclosure → Cursor → Except Failure Cursor
  | 0, _, _, cursor => cursor.fail .valueMissing
  | fuel + 1, .item, enclosures, cursor => do
    let start ← if enclosures.head? = some .object then cursor.skipName else pure cursor
    let next := start.skipBlanks
    if next.nextIs (· == '[') then skipSteps fuel (.rest false) (.list :: enclosures) next.advance
    else if next.nextIs (· == '{') then
      skipSteps fuel (.rest false) (.object :: enclosures) next.advance
    else skipSteps fuel (.rest true) enclosures (← next.skipScalar)
  | _ + 1, .rest _, [], cursor => .ok cursor
  | fuel + 1, .rest separated, enclosure :: outer, cursor =>
    let next := cursor.skipBlanks
    match next.rest with
    | [] => next.failNext enclosure.unclosed
    | c :: _ =>
      if separated && c == ',' then skipSteps fuel .item (enclosure :: outer) next.advance
      else if c == enclosure.closing then skipSteps fuel (.rest true) outer next.advance
      else if separated then next.failNext enclosure.separatorExpected
      else skipSteps fuel .item (enclosure :: outer) next

def skipValue (cursor : Cursor) : Except Failure Cursor :=
  skipSteps (2 * cursor.bound + 3) .item [] cursor

end Cursor

end Highlight.Json
