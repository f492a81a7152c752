import Highlight.Token.Scan

/-!
Lines of program source, in one loose grammar for the C family and the scripting languages that look
like it. A number sign opens a comment only as the first character beyond the indentation, and not
where it introduces a directive.
-/

set_option autoImplicit false

namespace Highlight.Grammar.Program

open Text

def keywords : List String :=
  ["abstract", "and", "as", "async", "await", "break", "case", "catch", "class", "const",
    "continue", "crate", "def", "default", "defer", "del", "delete", "do", "dyn", "elif", "else",
    "enum", "except", "export", "extends", "extern", "final", "finally", "fn", "for", "from",
    "func", "function", "go", "if", "impl", "implements", "import", "in", "instanceof",
    "interface", "is", "lambda", "let", "loop", "match", "mod", "module", "mut", "namespace",
    "new", "not", "or", "override", "package", "pass", "private", "protected", "pub", "public",
    "raise", "readonly", "return", "sealed", "self", "static", "struct", "super", "switch",
    "this", "throw", "throws", "trait", "try", "type", "typeof", "unsafe", "use", "using", "val",
    "var", "virtual", "void", "when", "where", "while", "with", "yield"]

def booleans : List String :=
  ["true", "false", "True", "False"]

def nulls : List String :=
  ["null", "nil", "None", "undefined", "NULL", "nullptr"]

def wordKind? (word : List Char) : Option TokenKind :=
  let name := String.ofList word
  if keywords.contains name then some .keyword
  else if booleans.contains name then some .boolean
  else if nulls.contains name then some .null
  else none

def directives : List String :=
  ["include", "define", "undef", "ifdef", "ifndef", "if", "elif", "else", "endif", "pragma",
    "region", "endregion"]

/-- The name of a directive, with no word character after it. -/
def directiveName : Lexeme where
  length? text := directives.findSome? fun name => (.literal name ++ .wordEnd : Lexeme).length? text

def directive : Rule :=
  .atLineStart (.sequence [.skip (.many isIndent),
    .token .keyword (.char '#' ++ .many isIndent ++ directiveName)])

def hashComment : Rule :=
  .atLineStart (.sequence [.skip (.many isIndent), .token .comment (.char '#' ++ .restOfLine)])

def comment : Lexeme :=
  (.literal "//" ++ .restOfLine) <|> .blockComment "/*" "*/"

def quoted : Lexeme :=
  .escapedQuote '\"' <|> .escapedQuote '\x60' <|> .escapedQuote '\''

def hexadecimal : Lexeme :=
  .char '0' ++ .oneOf ['x', 'X'] ++ .run (fun c => isHexDigit c || c == '_')

def binary : Lexeme :=
  .char '0' ++ .oneOf ['b', 'B'] ++ .run (fun c => ['0', '1', '_'].contains c)

def exponent : Lexeme :=
  .oneOf ['e', 'E'] ++ .optional (.oneOf ['+', '-']) ++
    .run isDecimal

def decimal : Lexeme :=
  .one isDecimal ++ .many (fun c => isDecimal c || c == '_') ++
    .optional (.char '.' ++ .run isDecimal) ++ .optional exponent

/-- A number of any base with the letters and digits of its suffix. -/
def number : Lexeme :=
  (hexadecimal <|> binary <|> decimal) ++ .many Char.isAlphanum

def decorator : Lexeme :=
  .char '@' ++ .one (fun c => c.isAlpha || c == '_') ++ .many (fun c => isWord c || c == '.')

def word : Lexeme :=
  .one (fun c => c.isAlpha || c == '_' || c == '$') ++ .many (fun c => isWord c || c == '$')

def operator : Lexeme :=
  .anyOf ["=>", "->", "::", "===", "!==", "==", "!=", "<=", ">=", "&&", "||", "++", "--"] <|>
    .oneOf ['-', '+', '*', '/', '%', '=', '<', '>', '!', '&', '|', '^', '~', '?', ':']

def rules : List Rule :=
  [directive,
    hashComment,
    .token .comment comment,
    .token .string quoted,
    .token .number number,
    .token .attribute decorator,
    .classified wordKind? word,
    .token .bracket (.oneOf ['{', '}', '(', ')', '[', ']']),
    .token .operator operator,
    .token .punctuation (.oneOf [';', ',', '.'])]

def spans (line : List Char) : List Span :=
  scanRules rules (.start line)

end Highlight.Grammar.Program
