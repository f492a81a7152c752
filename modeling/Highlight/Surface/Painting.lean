import Highlight.Document.Basic
import Highlight.Document.FlaggedLines
import Highlight.Layout
import Highlight.Theme.Appearance

/-!
What is painted for a document: its text in colors, tints behind the flagged lines, and line numbers
beside them.
-/

set_option autoImplicit false

namespace Highlight

structure ColoredText where
  text : String
  color : PaintedColor
  deriving DecidableEq, Repr

namespace Document

variable (document : Document) (appearance : Appearance)

def paintedBreak : ColoredText :=
  ⟨"\n", appearance.text⟩

def paintedLine (tokens : List Token) : List ColoredText :=
  tokens.map fun token =>
    ⟨token.text, appearance.tokenColor document.language.presentation token.kind⟩

def paintedText : List ColoredText :=
  [paintedBreak appearance].intercalate (document.tokens.map (document.paintedLine appearance))

end Document

/-- The number of a row. Rows are counted from zero, their numbers from one. -/
def lineLabel (row : Nat) : String :=
  toString (row + 1)

namespace FlaggedLines

variable (flagged : FlaggedLines) (appearance : Appearance)

def tints (lineCount : Nat) : List (Nat × PaintedColor) :=
  (flagged.rows lineCount).map fun row => (row, appearance.flaggedLineTint)

/-- What is painted beside a row. The number of a flagged row is painted twice, so that it stands
out. -/
def label (row : Nat) : List ColoredText :=
  if flagged.containsRow row then
    List.replicate 2 ⟨lineLabel row, appearance.flaggedLineNumber⟩
  else [⟨lineLabel row, appearance.lineNumber⟩]

def labels (rows : RowRange) : List ColoredText :=
  (List.range' rows.first (rows.stop - rows.first)).flatMap (flagged.label appearance)

end FlaggedLines

end Highlight
