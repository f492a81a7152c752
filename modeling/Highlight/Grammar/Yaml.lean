import Highlight.Token.Scan

/-!
Lines of YAML: a list dash, a key with its colon, a value and a comment, each of which may be
missing.
-/

set_option autoImplicit false

namespace Highlight.Grammar.Yaml

open Text

def sign : Lexeme :=
  .optional (.oneOf ['-', '+'])

def exponent : Lexeme :=
  .oneOf ['e', 'E'] ++ sign ++ .run isDecimal

/-- The written forms of a number without its sign. -/
def numberForms : List Lexeme :=
  [.one isDecimal ++ .many (fun c => isDecimal c || c == '_') ++
      .optional (.char '.' ++ .many isDecimal) ++ .optional exponent,
    .char '.' ++ .run isDecimal ++ .optional exponent,
    .literal "0x" ++ .run (fun c => isHexDigit c || c == '_'),
    .literal "0o" ++ .run (fun c => ('0' ≤ c && c ≤ '7') || c == '_'),
    .anyOf [".inf", ".Inf", ".INF"],
    .anyOf [".nan", ".NaN", ".NAN"]]

def isNumber (text : List Char) : Bool :=
  numberForms.any fun form => (sign ++ form).spans text

def booleans : List String :=
  ["true", "false", "yes", "no", "on", "off"]

def nulls : List String :=
  ["null", "Null", "NULL", "~"]

def scalarKind? (text : List Char) : Option TokenKind :=
  let word := String.ofList text
  if booleans.contains (asciiLower word) then some .boolean
  else if nulls.contains word then some .null
  else if isNumber text then some .number
  else none

def quoted : Lexeme :=
  .escapedQuote '\"' <|> .doubledQuote '\''

def blockIndicator : Lexeme :=
  .oneOf ['|', '>'] ++ sign ++ .optional (.one isDecimal) ++ sign

def wholeKind? (value : List Char) : Option TokenKind :=
  (scalarKind? value) <|>
    (if quoted.spans value then some .string
      else if blockIndicator.spans value then some .punctuation
      else none)

/-- The kind of a node property by its first character, and how many characters follow that. -/
def property? (first : Char) (rest : List Char) : Option (TokenKind × Nat) :=
  if first == '&' || first == '*' then
    let count := (rest.takeWhile fun c => !isBlank c && isNoneOf [',', '[', ']', '{', '}'] c).length
    if count = 0 then none else some (.variable, count)
  else if first == '!' then some (.tag, (rest.takeWhile (!isBlank ·)).length)
  else none

def flowRules : List Rule :=
  [.token .bracket (.oneOf ['[', ']', '{', '}']),
    .token .punctuation (.oneOf [',', ':']),
    .token .string quoted,
    .trimmed scalarKind?
      (.one (fun c => !isBlank c && isNoneOf ['[', ']', '{', '}', ',', ':', '\"', '\''] c) ++
        .many (isNoneOf ['[', ']', '{', '}', ',', ':']))]

/-- The spans of a value without outer blanks that starts at an offset. -/
def valueSpans (offset : Nat) : List Char → List Span
  | [] => []
  | first :: rest =>
    match wholeKind? (first :: rest) with
    | some kind => [⟨kind, offset, offset + byteSize (first :: rest)⟩]
    | none =>
      match property? first rest with
      | some (kind, count) =>
        let stop := offset + first.utf8Size + byteSize (rest.take count)
        let tail := rest.drop count
        ⟨kind, offset, stop⟩ ::
          valueSpans (stop + byteSize (tail.takeWhile isBlank)) (trimStart tail)
      | none =>
        if first == '[' || first == '{' then
          scanRules flowRules ⟨none, offset, first :: rest⟩
        else []
termination_by text => text.length
decreasing_by
  have bound := (List.dropWhile_suffix isBlank (l := rest.drop count)).length_le
  simp only [trimStart, List.length_drop, List.length_cons] at *
  omega

def keyless : List Char :=
  ['#', '\'', '\"', '[', ']', '{', '}', ',', ':', '&', '*', '!', '|', '>', '%', '@', '\x60', '-']

/-- A key without quotes: it ends before the blanks in front of the first colon. -/
def plainKey : Lexeme :=
  .one (fun c => !isBlank c && isNoneOf keyless c) ++
    ⟨fun rest =>
      let body := rest.takeWhile fun c => c != ':' && c != '#'
      some (body.reverse.dropWhile isIndent).length⟩

def key : Lexeme :=
  .escapedQuote '\"' <|> (.char '\'' ++ .through (· == '\'')) <|> plainKey

/-- Blanks that separate a mark from what follows, or the end of the line. -/
def gap : Rule :=
  .skip (.run isIndent <|> .atEnd)

def head : Rule :=
  .sequence
    [.skip (.many isIndent),
      .optional (.sequence [.token .punctuation (.char '-'), gap]),
      .optional (.sequence
        [.token .key key, .skip (.many isIndent), .token .punctuation (.char ':'), gap])]

/-- The text before the number sign that opens a comment: one that comes first or after a blank, and
not inside quotes that came so. -/
def beforeComment : Option Char → Bool → List Char → List Char
  | _, _, [] => []
  | some quote, _, c :: rest =>
    c :: beforeComment (if c == quote then none else some quote) (isBlank c) rest
  | none, afterBlank, c :: rest =>
    if afterBlank && c == '#' then []
    else
      c :: beforeComment (if afterBlank && (c == '\"' || c == '\'') then some c else none)
        (isBlank c) rest

def contentSpans (offset : Nat) (content : List Char) : List Span :=
  let value := beforeComment none true content
  let stop := offset + byteSize content
  valueSpans (offset + byteSize (value.takeWhile isBlank)) (trim value) ++
    (if value.length < content.length then [⟨.comment, offset + byteSize value, stop⟩] else [])

def spans (line : List Char) : List Span :=
  let indent := byteSize (line.takeWhile isBlank)
  let body := trim line
  if body.head? = some '#' then [⟨.comment, indent, byteSize line⟩]
  else if body = "---".toList ∨ body = "...".toList then [⟨.punctuation, indent, indent + 3⟩]
  else
    let pieces := (head (.start line)).getD []
    let place := (Place.start line).forward (Piece.total pieces)
    Piece.spansFrom (.start line) pieces ++ contentSpans place.offset place.rest

end Highlight.Grammar.Yaml
