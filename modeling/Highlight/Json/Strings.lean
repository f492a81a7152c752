import Highlight.Json.Cursor
import Highlight.Text.Hexadecimal
import Highlight.Text.Measure

/-!
Strings of JSON, from the opening quote to the closing one.
-/

set_option autoImplicit false

namespace Highlight.Json

open Text (hexDigit?)

def hexQuad? : List Char → Option Nat
  | a :: b :: c :: d :: _ => do
    return (((← hexDigit? a) * 16 + (← hexDigit? b)) * 16 + (← hexDigit? c)) * 16 + (← hexDigit? d)
  | _ => none

namespace Cursor

def hexQuad (cursor : Cursor) : Outcome Nat :=
  match hexQuad? cursor.rest with
  | some code => .ok (code, cursor.advanceBy 4)
  | none =>
    if Text.byteSize (cursor.rest.take 4) < 4 then
      .error (.placed .stringUnclosed cursor.endMark)
    else .error (.placed .escapeInvalid (cursor.mark.afterBytes 4 cursor.rest))

/-- Reads a character that has to follow the first half of a surrogate pair. -/
def pairMark (expected : Char) (cursor : Cursor) : Except Failure Cursor :=
  match cursor.rest with
  | [] => cursor.fail .stringUnclosed
  | c :: _ => if c == expected then .ok cursor.advance else cursor.failNext .escapeUnfinished

def isLowSurrogate (code : Nat) : Bool :=
  0xDC00 ≤ code && code ≤ 0xDFFF

def isHighSurrogate (code : Nat) : Bool :=
  0xD800 ≤ code && code ≤ 0xDBFF

/-- Reads a character given by its code units in hexadecimal, after the letter that says so. -/
def codeUnits (cursor : Cursor) : Except Failure (Char × Cursor) := do
  let (code, next) ← cursor.hexQuad
  if isLowSurrogate code then next.fail .surrogateAlone
  else if isHighSurrogate code then
    let (low, next) ← (← pairMark 'u' (← pairMark '\\' next)).hexQuad
    if isLowSurrogate low then
      return (Char.ofNat ((code - 0xD800) * 0x400 + (low - 0xDC00) + 0x10000), next)
    else next.fail .surrogateAlone
  else return (Char.ofNat code, next)

def shortEscape? : Char → Option Char
  | '\"' => some '\"'
  | '\\' => some '\\'
  | '/' => some '/'
  | 'b' => some '\x08'
  | 'f' => some '\x0c'
  | 'n' => some '\n'
  | 'r' => some '\r'
  | 't' => some '\t'
  | _ => none

def escape (cursor : Cursor) : Outcome Char :=
  match cursor.rest with
  | [] => cursor.fail .stringUnclosed
  | letter :: _ =>
    match shortEscape? letter with
    | some c => .ok (c, cursor.advance)
    | none => if letter == 'u' then cursor.advance.codeUnits else cursor.failNext .escapeInvalid

def isControl (c : Char) : Bool :=
  c.toNat < 0x20

/-- Reads the rest of a string; the number limits its characters. -/
def stringRest : Nat → List Char → Cursor → Outcome String
  | 0, _, cursor => cursor.fail .stringUnclosed
  | fuel + 1, newestFirst, cursor =>
    match cursor.rest with
    | [] => cursor.fail .stringUnclosed
    | c :: _ =>
      if c == '\"' then .ok (String.ofList newestFirst.reverse, cursor.advance)
      else if c == '\\' then
        match cursor.advance.escape with
        | .ok (escaped, next) => stringRest fuel (escaped :: newestFirst) next
        | .error failure => .error failure
      else if isControl c then cursor.failNext .controlCharacter
      else stringRest fuel (c :: newestFirst) cursor.advance

def string (cursor : Cursor) : Outcome String :=
  stringRest (cursor.bound + 1) [] cursor.advance

def skipEscape (cursor : Cursor) : Except Failure Cursor :=
  match cursor.rest with
  | [] => cursor.fail .stringUnclosed
  | letter :: _ =>
    if (shortEscape? letter).isSome then .ok cursor.advance
    else if letter == 'u' then cursor.advance.hexQuad.map (·.2)
    else cursor.failNext .escapeInvalid

/-- Passes over the rest of a string whose value is not wanted; surrogates need not be paired. -/
def skipStringRest : Nat → Cursor → Except Failure Cursor
  | 0, cursor => cursor.fail .stringUnclosed
  | fuel + 1, cursor =>
    match cursor.rest with
    | [] => cursor.fail .stringUnclosed
    | c :: _ =>
      if c == '\"' then .ok cursor.advance
      else if c == '\\' then
        match cursor.advance.skipEscape with
        | .ok next => skipStringRest fuel next
        | .error failure => .error failure
      else if isControl c then cursor.fail .controlCharacter
      else skipStringRest fuel cursor.advance

def skipString (cursor : Cursor) : Except Failure Cursor :=
  skipStringRest (cursor.bound + 1) cursor.advance

end Cursor

end Highlight.Json
