import Highlight.Json.Reader
import Highlight.Json.Skipping
import Highlight.Text.Shown

/-!
Reading JSON of a wanted shape: texts, flags, lengths, line numbers, names out of a list, lists, and
records with named fields. What does not fit is refused where it is read, so the first fault in the
text is the one that is reported.
-/

set_option autoImplicit false

namespace Highlight.Json

abbrev Decoder (α : Type) := Cursor → Outcome α

namespace Numeral

def description : Numeral → String
  | .natural count => "integer `" ++ toString count ++ "`"
  | .negative magnitude => "integer `-" ++ toString magnitude ++ "`"
  | numeral => "floating point `" ++ numeral.render ++ "`"

end Numeral

namespace Decoder

/-- Refuses the value that starts here, which is read first unless it encloses others. -/
def mismatch {α : Type} (expected : String) (cursor : Cursor) : Outcome α :=
  let refuse (found : String) (after : Cursor) : Outcome α :=
    after.fail (.wrongType found expected)
  match cursor.rest with
  | [] => cursor.failNext .valueExpected
  | c :: _ =>
    if c == 'n' then (cursor.word "null".toList).bind (refuse "null")
    else if c == 't' then (cursor.word "true".toList).bind (refuse "boolean `true`")
    else if c == 'f' then (cursor.word "false".toList).bind (refuse "boolean `false`")
    else if c == '-' || c.isDigit then
      cursor.signedNumeral.bind fun (numeral, after) => refuse (Numeral.description numeral) after
    else if c == '\"' then
      cursor.string.bind fun (text, after) => refuse ("string " ++ Text.shown text) after
    else if c == '[' then refuse "sequence" cursor
    else if c == '{' then refuse "map" cursor
    else cursor.failNext .valueExpected

/-- Reads from the first character that is no blank, if there is one. -/
def beyondBlanks {α : Type} (read : Char → Cursor → Outcome α) : Decoder α := fun cursor =>
  let next := cursor.skipBlanks
  match next.rest with
  | [] => next.failNext .valueMissing
  | c :: _ => read c next

def textAs (expected : String) : Decoder String :=
  beyondBlanks fun c cursor => if c == '\"' then cursor.string else mismatch expected cursor

def text : Decoder String :=
  textAs "a string"

def flag : Decoder Bool :=
  beyondBlanks fun c cursor =>
    if c == 't' then (cursor.word "true".toList).map (true, ·)
    else if c == 'f' then (cursor.word "false".toList).map (false, ·)
    else mismatch "a boolean" cursor

def numeric {α : Type} (expected : String) (convert : Numeral → Except Cause α) : Decoder α :=
  beyondBlanks fun c cursor =>
    if c == '-' || c.isDigit then
      cursor.signedNumeral.bind fun (numeral, after) =>
        match convert numeral with
        | .ok converted => .ok (converted, after)
        | .error cause => after.fail cause
    else mismatch expected cursor

def single : Decoder Single :=
  numeric "f32" fun numeral => .ok numeral.toSingle

def index : Decoder Nat :=
  numeric "usize" fun numeral =>
    match numeral with
    | .natural count => .ok count
    | .negative _ => .error (.wrongValue (Numeral.description numeral) "usize")
    | .fractional _ | .length _ => .error (.wrongType (Numeral.description numeral) "usize")

def listOf {α : Type} (item : Decoder α) : Decoder (List α) :=
  beyondBlanks fun c cursor =>
    if c == '[' then cursor.list item else mismatch "a sequence" cursor

def variantName {α : Type} (named : List (String × α)) : Decoder α := fun cursor =>
  (textAs "variant identifier" cursor).bind fun (name, after) =>
    match named.lookup name with
    | some variant => .ok (variant, after)
    | none => after.fail (.unknownVariant name (named.map (·.1)))

def unit : Decoder Unit :=
  beyondBlanks fun c cursor =>
    if c == 'n' then (cursor.word "null".toList).map ((), ·) else mismatch "unit" cursor

def variantEnd (afterName : Cursor) : Except Failure Cursor := do
  let ((), afterValue) ← unit (← afterName.colon)
  let last := afterValue.skipBlanks
  match last.rest with
  | [] => last.fail .objectUnclosed
  | c :: _ => if c == '}' then return last.advance else last.fail .valueExpected

def enclosedVariant {α : Type} (named : List (String × α)) : Decoder α := fun cursor =>
  let next := cursor.skipBlanks
  match next.rest with
  | [] => next.failNext .objectUnclosed
  | c :: _ =>
    if c == '\"' then
      (variantName named next).bind fun (found, afterName) =>
        (variantEnd afterName).map (found, ·)
    else if c == '}' then next.failNext .valueExpected
    else next.failNext .keyExpected

/-- Reads one of some named variants: its name, or an object with the name and null. -/
def variant {α : Type} (named : List (String × α)) : Decoder α := fun cursor =>
  let next := cursor.skipBlanks
  match next.rest with
  | [] => next.failNext .valueMissing
  | c :: _ =>
    if c == '\"' then variantName named next
    else if c == '{' then enclosedVariant named next.advance
    else next.failNext .valueExpected

structure Field (Record : Type) where
  name : String
  isRequired : Bool
  decode : Record → Decoder Record

namespace Field

variable {Record α : Type}

def optional (name : String) (decode : Decoder α) (set : Record → α → Record) : Field Record :=
  ⟨name, false, fun record cursor => (decode cursor).map fun (read, after) =>
    (set record read, after)⟩

def required (name : String) (decode : Decoder α) (set : Record → α → Record) : Field Record :=
  { optional name decode set with isRequired := true }

end Field

section

variable {Record : Type}

/-- Reads one member of a record. A name that comes twice is refused, and a name that is no field's
is passed over with its value. -/
def member (fields : List (Field Record)) (state : Record × List String) (name : String)
    (afterName : Cursor) : Except Failure ((Record × List String) × Cursor) := do
  match fields.find? (·.name == name) with
  | none => return (state, ← (← afterName.colon).skipValue)
  | some field =>
    if state.2.contains name then .error (.unplaced (.duplicateField name) afterName)
    else
      let (record, after) ← field.decode state.1 (← afterName.colon)
      return ((record, name :: state.2), after)

def named (fields : List (Field Record)) (initial : Record) (cursor : Cursor) :
    Except Failure (Record × Cursor) := do
  let ((record, seen), after) ←
    cursor.members (member fields) (cursor.bound + 1) true (initial, [])
  match fields.find? fun field => field.isRequired && !seen.contains field.name with
  | some field => .error (.unplaced (.missingField field.name) after)
  | none => return (record, after)

/-- Reads the values of fields in their order, as far as the list goes; `position` of them have been
read before. -/
def ordered (expected : String) : Nat → List (Field Record) → Record → Cursor → Outcome Record
  | _, [], record, cursor => .ok (record, cursor)
  | position, field :: fields, record, cursor =>
    let next := cursor.skipBlanks
    let readField (start : Cursor) : Outcome Record :=
      match field.decode record start with
      | .ok (newRecord, after) => ordered expected (position + 1) fields newRecord after
      | .error failure => .error failure
    match next.rest with
    | [] => next.failNext .listUnclosed
    | c :: _ =>
      if c == ']' then
        if field.isRequired then .error (.unplaced (.wrongLength position expected) next)
        else ordered expected (position + 1) fields record next
      else if position = 0 then readField next
      else if c == ',' then
        let start := next.advance.skipBlanks
        match start.rest with
        | [] => start.failNext .valueMissing
        | c :: _ => if c == ']' then start.failNext .trailingComma else readField start
      else next.failNext .listSeparatorExpected

/-- Reads a record from an object with its fields by name, or from a list with them in order. -/
def record (description : String) (fields : List (Field Record)) (initial : Record) :
    Decoder Record :=
  let elements := if fields.length = 1 then " with 1 element"
    else " with " ++ toString fields.length ++ " elements"
  beyondBlanks fun c cursor =>
    if c == '[' then
      Cursor.enclosed Cursor.endOfList (ordered (description ++ elements) 0 fields initial) cursor
    else if c == '{' then
      Cursor.enclosed Cursor.endOfObject (named fields initial) cursor
    else mismatch description cursor

end

def leadingNumber? (text : List Char) : Option Nat × List Char :=
  let run := text.takeWhile Char.isDigit
  let number := run.foldl (fun total c => total * 10 + digitValue c) 0
  (if run.isEmpty || maxWord < number then none else some number, text.dropWhile Char.isDigit)

def splitAtLast? (wanted : List Char) : List Char → Option (List Char × List Char)
  | [] => none
  | c :: rest =>
    match splitAtLast? wanted rest with
    | some (before, after) => some (c :: before, after)
    | none =>
      if wanted.isPrefixOf (c :: rest) then some ([], (c :: rest).drop wanted.length) else none

/-- A reason that ends by naming a place itself, cut into the rest and the place. -/
def ownPlace? (reason : String) : Option (String × Mark) := do
  let (before, place) ← splitAtLast? " at line ".toList reason.toList
  let (line, afterLine) := leadingNumber? place
  let separator := " column ".toList
  if separator.isPrefixOf afterLine then
    let (column, last) := leadingNumber? (afterLine.drop separator.length)
    if last.isEmpty then return (String.ofList before, ⟨← line, ← column⟩) else none
  else none

/-- The failure of a value that means nothing, where the reading has come to. A reason that names a
place itself has it already. -/
def refusal (reason : String) (stopped : Cursor) : Failure :=
  match ownPlace? reason with
  | some (rest, mark) =>
    if mark.line = 0 then .unplaced (.refused rest) stopped else .placed (.refused rest) mark
  | none => .unplaced (.refused reason) stopped

def meaningful {α : Type} (meaning : String → Except String α) : Decoder α := fun cursor =>
  (text cursor).bind fun (read, after) =>
    match meaning read with
    | .ok meant => .ok (meant, after)
    | .error reason => .error (refusal reason after)

end Decoder

end Highlight.Json
