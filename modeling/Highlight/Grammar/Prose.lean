import Highlight.Token.Scan

/-!
Lines of Markdown: the marks of blocks at the start of a line, then the marks inside the text.
-/

set_option autoImplicit false

namespace Highlight.Grammar.Prose

open Text

def fence : Lexeme :=
  .many isIndent ++ .anyOf ["```", "~~~"]

def heading : Lexeme :=
  .between 0 3 isIndent ++ .between 1 6 (· == '#') ++ (.one isIndent <|> .atEnd)

/-- Is the text made of at least three of these marks, with blanks after each? -/
def isRuleOf (mark : Char) (text : List Char) : Bool :=
  text.head? == some mark && text.all (fun c => c == mark || isIndent c) && text.count mark ≥ 3

def sectionRule : Lexeme :=
  .between 0 3 isIndent ++ .ahead fun text => ['-', '*', '_'].any (isRuleOf · text)

def punctuation : List Char → Option TokenKind :=
  fun _ => some .punctuation

def quoteMark : Rule :=
  .trimmed punctuation (.char '>' ++ .many fun c => c == '>' || isIndent c)

def listMark : Rule :=
  .trimmed punctuation
    ((.one (fun c => c == '-' || c == '*' || c == '+') <|>
        (.between 1 9 isDecimal ++ .oneOf ['.', ')'])) ++
      (.run isIndent <|> .atEnd))

def taskMark : Rule :=
  .sequence
    [.token .punctuation (.char '[' ++ .one (fun c => c == ' ' || c == 'x' || c == 'X') ++
        .char ']'),
      .skip (.one isIndent <|> .atEnd)]

/-- The marks that open a block, each of which may be missing. -/
def blockMarks : Rule :=
  .sequence [.skip (.many isIndent), .optional quoteMark, .optional listMark, .optional taskMark]

def between (opening closing : String) (mark : Char) : Lexeme :=
  .literal opening ++ .run (· != mark) ++ .literal closing

/-- A text between single marks that opens with no blank. -/
def emphasis (mark : Char) : Lexeme :=
  .char mark ++ .one (fun c => c != mark && !isBlank c) ++ .many (· != mark) ++ .char mark

def link : Lexeme :=
  .optional (.char '!') ++ .char '[' ++ .through (· == ']') ++ .char '(' ++ .through (· == ')')

def address : Lexeme :=
  .literal "http" ++ .optional (.char 's') ++ .literal "://"

def autolink : Lexeme :=
  (.char '<' ++ address ++ .run (fun c => c != '>' && !isBlank c) ++ .char '>') <|>
    (address ++ .run fun c => !isBlank c && isNoneOf [')', '>', ']'] c)

def rules : List Rule :=
  [.token .code (between "`" "`" '\x60'),
    .token .emphasis (between "**" "**" '*' <|> between "__" "__" '_' <|> between "~~" "~~" '~'),
    .token .emphasis (emphasis '*'),
    .atWordStart (.token .emphasis (emphasis '_' ++ .wordEnd)),
    .token .link link,
    .token .link autolink]

def spans (line : List Char) : List Span :=
  let indent := byteSize (line.takeWhile isBlank)
  if (fence.length? line).isSome then [⟨.code, indent, byteSize line⟩]
  else if (heading.length? line).isSome then [⟨.heading, indent, byteSize line⟩]
  else if (sectionRule.length? line).isSome then
    [⟨.punctuation, indent, byteSize (trimEnd line)⟩]
  else
    let marks := (blockMarks (.start line)).getD []
    let place := (Place.start line).forward (Piece.total marks)
    Piece.spansFrom (.start line) marks ++ scanRules rules { place with before := none }

end Highlight.Grammar.Prose
