/-!
Tokens: stretches of a line, each with the kind that decides its color.
-/

set_option autoImplicit false

namespace Highlight

inductive TokenKind where
  | key
  | string
  | number
  | boolean
  | null
  | bracket
  | punctuation
  | operator
  | tag
  | attribute
  | keyword
  | comment
  | variable
  | heading
  | emphasis
  | link
  | code
  | text
  | digit
  | uppercase
  | lowercase
  | symbol
  deriving DecidableEq, Repr, Inhabited

namespace TokenKind

/-- Every kind, in the order in which palettes list them. -/
def all : List TokenKind :=
  [.key, .string, .number, .boolean, .null, .bracket, .punctuation, .operator, .tag, .attribute,
    .keyword, .comment, .variable, .heading, .emphasis, .link, .code, .text, .digit, .uppercase,
    .lowercase, .symbol]

def name : TokenKind → String
  | .key => "key"
  | .string => "string"
  | .number => "number"
  | .boolean => "boolean"
  | .null => "null"
  | .bracket => "bracket"
  | .punctuation => "punctuation"
  | .operator => "operator"
  | .tag => "tag"
  | .attribute => "attribute"
  | .keyword => "keyword"
  | .comment => "comment"
  | .variable => "variable"
  | .heading => "heading"
  | .emphasis => "emphasis"
  | .link => "link"
  | .code => "code"
  | .text => "text"
  | .digit => "digit"
  | .uppercase => "uppercase"
  | .lowercase => "lowercase"
  | .symbol => "symbol"

def ofName? (name : String) : Option TokenKind :=
  all.find? (·.name == name)

end TokenKind

structure Token where
  kind : TokenKind
  text : String
  deriving DecidableEq, Repr, Inhabited

def joinText (tokens : List Token) : String :=
  String.join (tokens.map (·.text))

end Highlight
