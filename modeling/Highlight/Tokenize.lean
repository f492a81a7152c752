import Highlight.Grammar.Assignment
import Highlight.Grammar.CharacterRuns
import Highlight.Grammar.Command
import Highlight.Grammar.Json
import Highlight.Grammar.Markup
import Highlight.Grammar.Program
import Highlight.Grammar.Prose
import Highlight.Grammar.Query
import Highlight.Grammar.Record
import Highlight.Grammar.Stylesheet
import Highlight.Grammar.Yaml
import Highlight.Language

/-!
The tokens of a line in each language. Lines are independent of one another.
-/

set_option autoImplicit false

namespace Highlight

def Language.spans : Language → List Char → List Span
  | .json => Grammar.Json.spans
  | .xml | .html | .svg => Grammar.Markup.spans
  | .css => Grammar.Stylesheet.spans
  | .sql => Grammar.Query.spans
  | .yaml => Grammar.Yaml.spans
  | .markdown => Grammar.Prose.spans
  | .env => Grammar.Assignment.spans
  | .csv => Grammar.Record.spans
  | .shell => Grammar.Command.spans
  | .code => Grammar.Program.spans
  | .plainText => fun _ => []
  | .randomString => Grammar.CharacterRuns.spans

def tokenize (language : Language) (line : String) : List Token :=
  coverLine line.toList (language.spans line.toList)

end Highlight
