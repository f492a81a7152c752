import Highlight.Text.Lines
import Highlight.Token.Scan

/-!
Lines of comma-separated records. Every comma separates, also inside quotes.
-/

set_option autoImplicit false

namespace Highlight.Grammar.Record

open Text

def exponent : Lexeme :=
  .oneOf ['e', 'E'] ++ .optional (.oneOf ['+', '-']) ++
    .run Char.isDigit

/-- A decimal number with ASCII digits on at least one side of the point. -/
def number : Lexeme :=
  .optional (.oneOf ['+', '-']) ++
    ((.run Char.isDigit ++ .optional (.char '.' ++ .many Char.isDigit)) <|>
      (.char '.' ++ .run Char.isDigit)) ++
    .optional exponent

/-- Does the text open and close with this quote, in two places? -/
def enclosedBy (quote : Char) (text : List Char) : Bool :=
  text.length ≥ 2 && text.head? == some quote && text.getLast? == some quote

def fieldKind? (core : List Char) : Option TokenKind :=
  if enclosedBy '\"' core || enclosedBy '\'' core then some .string
  else if number.spans core then some .number
  else none

def fieldSpans : Nat → List (List Char) → List Span
  | _, [] => []
  | offset, field :: fields =>
    let start := offset + byteSize (field.takeWhile isBlank)
    let core := trim field
    let stop := offset + byteSize field
    let own := (fieldKind? core).toList.map fun kind => ⟨kind, start, start + byteSize core⟩
    let comma := if fields.isEmpty then [] else [⟨.punctuation, stop, stop + 1⟩]
    own ++ comma ++ fieldSpans (stop + 1) fields

def spans (line : List Char) : List Span :=
  fieldSpans 0 (cut ',' line)

end Highlight.Grammar.Record
