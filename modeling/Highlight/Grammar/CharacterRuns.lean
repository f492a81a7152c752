import Highlight.Token.Scan

/-!
Generated secrets: longest runs of ASCII digits, of uppercase letters, of lowercase letters, and of
anything else.
-/

set_option autoImplicit false

namespace Highlight.Grammar.CharacterRuns

open Text

def isSymbol (c : Char) : Bool :=
  !c.isDigit && !isUppercase c && !isLowercase c

def rules : List Rule :=
  [.token .digit (.run Char.isDigit),
    .token .uppercase (.run isUppercase),
    .token .lowercase (.run isLowercase),
    .token .symbol (.run isSymbol)]

def spans (line : List Char) : List Span :=
  scanRules rules (.start line)

end Highlight.Grammar.CharacterRuns
