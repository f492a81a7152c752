import Highlight.Token.Scan

/-!
Lines of environment files: a name, an equals sign and a value, with a comment after it.
-/

set_option autoImplicit false

namespace Highlight.Grammar.Assignment

open Text

def name : Lexeme :=
  .one (fun c => c.isAlpha || c == '_') ++
    .many (fun c => c.isAlphanum || c == '_' || c == '.' || c == '-')

def binding : List Rule :=
  [.token .key name, .skip (.many isBlank), .token .punctuation (.char '='),
    .skip (.ahead fun value => value.all (· != '\n'))]

def head : Rule :=
  .firstOf
    [.sequence (.skip (.many isBlank) :: .token .keyword (.literal "export") ::
        .skip (.run isBlank) :: binding),
      .sequence (.skip (.many isBlank) :: binding)]

/-- The text before the first number sign that has a blank before it. -/
def beforeComment : Bool → List Char → List Char
  | _, [] => []
  | afterBlank, c :: rest =>
    if c == '#' && afterBlank then [] else c :: beforeComment (isBlank c) rest

/-- Length up to and including the closing quote. A backslash takes the character after it along,
but only in double quotes. -/
def closedLength? (quote : Char) : Bool → Nat → List Char → Option Nat
  | _, _, [] => none
  | escaped, taken, c :: rest =>
    if escaped then closedLength? quote false (taken + 1) rest
    else if c == quote then some (taken + 1)
    else closedLength? quote (c == '\\' && quote == '\"') (taken + 1) rest

/-- How many characters of a text without leading blanks make up the value. A quote that nothing
closes takes the whole text. -/
def valueLength (body : List Char) : Nat :=
  match body with
  | c :: rest =>
    if c == '\"' || c == '\'' then (closedLength? c false 1 rest).getD body.length
    else (trimEnd (beforeComment false body)).length
  | [] => 0

def tailSpans (offset : Nat) (tail : List Char) : List Span :=
  let gap := tail.takeWhile (· != '#')
  if gap.length < tail.length && gap.all isBlank then
    [⟨.comment, offset + byteSize gap, offset + byteSize tail⟩]
  else []

def valueSpans (offset : Nat) (value : List Char) : List Span :=
  let start := offset + byteSize (value.takeWhile isBlank)
  let body := trimStart value
  let length := valueLength body
  let stop := start + byteSize (body.take length)
  ⟨.string, start, stop⟩ :: tailSpans stop (body.drop length)

def spans (line : List Char) : List Span :=
  if (trimStart line).head? = some '#' then [⟨.comment, 0, byteSize line⟩]
  else
    match head (.start line) with
    | none => []
    | some pieces =>
      let place := (Place.start line).forward (Piece.total pieces)
      Piece.spansFrom (.start line) pieces ++ valueSpans place.offset place.rest

end Highlight.Grammar.Assignment
