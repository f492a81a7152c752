import Highlight.Language
import Highlight.Theme.Basic
import Highlight.Token.Basic

/-!
The color of every kind of token, by what the token is or by its class of characters.
-/

set_option autoImplicit false

namespace Highlight.Theme

/-- The color of a kind by what a token is. Classes of characters take the nearest other kind's. -/
def syntacticColor (theme : Theme) : TokenKind → Color
  | .key => theme.syntaxColors.key
  | .string => theme.syntaxColors.string
  | .number | .digit => theme.syntaxColors.number
  | .boolean => theme.syntaxColors.boolean
  | .null => theme.syntaxColors.null
  | .bracket => theme.syntaxColors.bracket
  | .punctuation | .symbol => theme.syntaxColors.punctuation
  | .operator => theme.syntaxColors.operator
  | .tag => theme.syntaxColors.tag
  | .attribute => theme.syntaxColors.attributeName
  | .keyword => theme.syntaxColors.keyword
  | .comment => theme.syntaxColors.comment
  | .variable => theme.syntaxColors.variableName
  | .heading => theme.syntaxColors.heading
  | .emphasis => theme.syntaxColors.emphasis
  | .link => theme.syntaxColors.link
  | .code => theme.syntaxColors.code
  | .text | .uppercase | .lowercase => theme.syntaxColors.text

/-- The color of a kind by the class of its characters; any other kind is plain text. -/
def characterColor (theme : Theme) : TokenKind → Color
  | .digit => theme.characters.digit
  | .uppercase => theme.characters.uppercase
  | .lowercase => theme.characters.lowercase
  | .symbol => theme.characters.symbol
  | _ => theme.syntaxColors.text

def colorOf (theme : Theme) (presentation : Presentation) (kind : TokenKind) : Color :=
  match presentation with
  | .syntactic => theme.syntacticColor kind
  | .randomString => theme.characterColor kind

end Highlight.Theme
