import Highlight.Text.Lines
import Highlight.Tokenize

/-!
A document: a value in a language, cut into lines, each with its tokens.
-/

set_option autoImplicit false

namespace Highlight

/-- The lines of a value. There is one more of them than the value has line feeds. -/
def lines (value : String) : List String :=
  (Text.linesOf value.toList).map String.ofList

structure Document where
  value : String
  language : Language
  lines : List String
  tokens : List (List Token)
  deriving DecidableEq, Repr

namespace Document

def compute (value : String) (language : Language) : Document where
  value := value
  language := language
  lines := Highlight.lines value
  tokens := (Highlight.lines value).map (tokenize language)

def lineCount (document : Document) : Nat :=
  document.lines.length

end Document

/-- What listeners learn of a change besides the new value. -/
structure ChangeReport where
  value : String
  lines : List String
  lineCount : Nat
  deriving DecidableEq, Repr

def ChangeReport.of (value : String) : ChangeReport :=
  ⟨value, Highlight.lines value, (Highlight.lines value).length⟩

end Highlight
