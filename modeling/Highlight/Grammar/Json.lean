import Highlight.Token.Scan

/-!
Lines of JSON. A quoted text whose next character beyond blanks is a colon is a key.
-/

set_option autoImplicit false

namespace Highlight.Grammar.Json

open Text

def quoted : Lexeme :=
  .escapedQuote '\"'

def fraction : Lexeme :=
  .char '.' ++ .run isDecimal

def exponent : Lexeme :=
  .oneOf ['e', 'E'] ++ .optional (.oneOf ['+', '-']) ++
    .run isDecimal

def number : Lexeme :=
  .optional (.char '-') ++ .run isDecimal ++ .optional fraction ++ .optional exponent

def key : Rule :=
  .sequence [.token .key quoted, .skip (.many isBlank), .token .punctuation (.char ':')]

def rules : List Rule :=
  [key,
    .token .string quoted,
    .token .number number,
    .atWordStart (.token .boolean (.anyOf ["true", "false"] ++ .wordEnd)),
    .atWordStart (.token .null (.literal "null" ++ .wordEnd)),
    .token .bracket (.oneOf ['{', '}', '[', ']']),
    .token .punctuation (.oneOf [':', ','])]

def spans (line : List Char) : List Span :=
  scanRules rules (.start line)

end Highlight.Grammar.Json
