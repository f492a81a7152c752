import Highlight.Token.Scan

/-!
Lines of style sheets. A name followed by a colon and a blank is a property, so that the colon of
`a:hover` still opens a pseudo class; names that are nothing else are read whole, so that digits in
them are no numbers.
-/

set_option autoImplicit false

namespace Highlight.Grammar.Stylesheet

open Text

def continuesName (c : Char) : Bool :=
  isWord c || c == '-'

def property : Lexeme :=
  ⟨fun text => some (min 2 (text.takeWhile (· == '-')).length)⟩ ++ .one Char.isAlpha ++
    .many continuesName

def color : Lexeme :=
  .char '#' ++ .between 3 8 isHexDigit ++ .wordEnd

def number : Lexeme :=
  .optional (.char '-') ++
    ((.run isDecimal ++ .optional (.char '.') ++ .many isDecimal) <|>
      (.char '.' ++ .run isDecimal)) ++
    .optional (.char '%' <|> .run Char.isAlpha)

def selector : Lexeme :=
  .oneOf ['.', '#'] ++ .one (fun c => c.isAlpha || c == '_' || c == '-') ++
    .many continuesName

def pseudo : Lexeme :=
  .char ':' ++ .optional (.char ':') ++ .one (fun c => c.isAlpha || c == '-') ++ .many continuesName

def rules : List Rule :=
  [.token .comment (.blockComment "/*" "*/"),
    .token .string (.escapedQuote '\"' <|> .escapedQuote '\''),
    .token .keyword (.char '@' ++ .run continuesName),
    .sequence [.token .key property, .skip (.many isBlank), .token .punctuation (.char ':'),
      .skip (.one isBlank <|> .atEnd)],
    .token .number color,
    .token .number number,
    .token .keyword (.literal "!important" ++ .wordEnd),
    .token .tag selector,
    .token .attribute pseudo,
    .token .bracket (.oneOf ['{', '}', '(', ')', '[', ']']),
    .token .punctuation (.oneOf [';', ',', ':', '>', '+', '~']),
    .skip (.run continuesName)]

def spans (line : List Char) : List Span :=
  scanRules rules (.start line)

end Highlight.Grammar.Stylesheet
