import Highlight.Json.Numerals
import Highlight.Json.Strings

/-!
Reading lists, objects and whole values of JSON.
-/

set_option autoImplicit false

namespace Highlight.Json

namespace Cursor

/-- Reads the items of a list up to its closing bracket, which is left unread. The number limits the
items. -/
def items {Item : Type} (read : Cursor → Outcome Item) :
    Nat → List Item → Cursor → Outcome (List Item)
  | 0, _, cursor => cursor.fail .listUnclosed
  | fuel + 1, newestFirst, cursor =>
    let next := cursor.skipBlanks
    let readItem (start : Cursor) : Outcome (List Item) :=
      match read start with
      | .ok (item, after) => items read fuel (item :: newestFirst) after
      | .error failure => .error failure
    match next.rest with
    | [] => next.failNext .listUnclosed
    | c :: _ =>
      if c == ']' then .ok (newestFirst.reverse, next)
      else if newestFirst.isEmpty then readItem next
      else if c == ',' then
        let start := next.advance.skipBlanks
        match start.rest with
        | [] => start.failNext .valueMissing
        | c :: _ => if c == ']' then start.failNext .trailingComma else readItem start
      else next.failNext .listSeparatorExpected

def colon (cursor : Cursor) : Except Failure Cursor :=
  let next := cursor.skipBlanks
  match next.rest with
  | [] => next.failNext .objectUnclosed
  | c :: _ => if c == ':' then .ok next.advance else next.failNext .colonExpected

/-- Reads the members of an object up to its closing brace, which is left unread. Each name is
handed to a reader of what follows it, together with what the members before it have led to. The
number limits the members. -/
def members {State : Type} (read : State → String → Cursor → Outcome State) :
    Nat → Bool → State → Cursor → Outcome State
  | 0, _, _, cursor => cursor.fail .objectUnclosed
  | fuel + 1, isFirst, state, cursor =>
    let next := cursor.skipBlanks
    let readMember (start : Cursor) : Outcome State :=
      match start.string with
      | .error failure => .error failure
      | .ok (name, afterName) =>
        match read state name afterName with
        | .error failure => .error failure
        | .ok (newState, after) => members read fuel false newState after
    match next.rest with
    | [] => next.failNext .objectUnclosed
    | c :: _ =>
      if c == '}' then .ok (state, next)
      else if isFirst then
        if c == '\"' then readMember next else next.failNext .keyExpected
      else if c == ',' then
        let start := next.advance.skipBlanks
        match start.rest with
        | [] => start.failNext .valueMissing
        | c :: _ =>
          if c == '\"' then readMember start
          else if c == '}' then start.failNext .trailingComma
          else start.failNext .keyExpected
      else next.failNext .objectSeparatorExpected

/-- Where the reading of a list ends, and why it does not end well if it does not. -/
def endOfList (cursor : Cursor) : Cursor × Option Failure :=
  let next := cursor.skipBlanks
  match next.rest with
  | [] => (next, some (.placed .listUnclosed next.mark))
  | c :: _ =>
    if c == ']' then (next.advance, none)
    else if c == ',' then
      let after := next.advance.skipBlanks
      let cause := if after.nextIs (· == ']') then .trailingComma else .trailingCharacters
      (after, some (.placed cause after.afterByte))
    else (next, some (.placed .trailingCharacters next.afterByte))

def endOfObject (cursor : Cursor) : Cursor × Option Failure :=
  let next := cursor.skipBlanks
  match next.rest with
  | [] => (next, some (.placed .objectUnclosed next.mark))
  | c :: _ =>
    if c == '}' then (next.advance, none)
    else if c == ',' then (next, some (.placed .trailingComma next.afterByte))
    else (next, some (.placed .trailingCharacters next.afterByte))

/-- Reads between an opening bracket and what ends it. A failure without a place gets the one where
the reading ends. -/
def enclosed {α : Type} (ending : Cursor → Cursor × Option Failure) (read : Cursor → Outcome α)
    (cursor : Cursor) : Outcome α :=
  match read cursor.advance with
  | .ok (value, next) =>
    match ending next with
    | (after, none) => .ok (value, after)
    | (_, some failure) => .error failure
  | .error (.unplaced cause stopped) => .error (.placed cause (ending stopped).1.mark)
  | .error (.placed cause mark) => .error (.placed cause mark)

def list {Item : Type} (read : Cursor → Outcome Item) : Cursor → Outcome (List Item) :=
  enclosed endOfList fun cursor => items read (cursor.bound + 1) [] cursor

def sortedMember (read : Cursor → Outcome Json) (known : List (String × Json)) (name : String)
    (afterName : Cursor) : Except Failure (List (String × Json) × Cursor) := do
  let (value, after) ← read (← afterName.colon)
  return (insertMember name value known, after)

def object (read : Cursor → Outcome Json) : Cursor → Outcome (List (String × Json)) :=
  enclosed endOfObject fun cursor =>
    members (sortedMember read) (cursor.bound + 1) true [] cursor

/-- Reads a value; lists and objects may enclose one another only so many times. -/
def value : Nat → Cursor → Except Failure (Json × Cursor)
  | levels, cursor =>
    let next := cursor.skipBlanks
    match next.rest with
    | [] => next.failNext .valueMissing
    | c :: _ =>
      if c == 'n' then do return (.null, ← word "null".toList next)
      else if c == 't' then do return (.bool true, ← word "true".toList next)
      else if c == 'f' then do return (.bool false, ← word "false".toList next)
      else if c == '-' || c.isDigit then do
        let (numeral, after) ← next.signedNumeral
        return (.number numeral, after)
      else if c == '\"' then do
        let (text, after) ← next.string
        return (.string text, after)
      else if c == '[' then
        match levels with
        | 0 => next.failNext .nestingTooDeep
        | inner + 1 => do
          let (items, after) ← list (value inner) next
          return (.array items, after)
      else if c == '{' then
        match levels with
        | 0 => next.failNext .nestingTooDeep
        | inner + 1 => do
          let (members, after) ← object (value inner) next
          return (.object members, after)
      else next.failNext .valueExpected

end Cursor

def readAll {α : Type} (read : Cursor → Outcome α) (text : String) : Except Failure α := do
  let (value, after) ← read (.start text.toList)
  let last := after.skipBlanks
  if last.rest.isEmpty then return value else last.failNext .trailingCharacters

def maxLevels : Nat :=
  127

def parse (text : String) : Except Failure Json :=
  readAll (Cursor.value maxLevels) text

end Highlight.Json
