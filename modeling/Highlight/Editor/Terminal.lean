import Highlight.Editor.Frame

/-!
What is to be seen of an editor, as a text for a terminal that knows the escape sequences for
colors.
-/

set_option autoImplicit false

namespace Highlight

def escapeSequence (parameters : String) : String :=
  "\x1b[" ++ parameters ++ "m"

namespace PaintedColor

def parameters (color : PaintedColor) : String :=
  String.intercalate ";"
    ("38" :: "2" :: [color.red, color.green, color.blue].map fun channel => toString channel.toNat)

end PaintedColor

namespace ColoredText

def forTerminal (part : ColoredText) : String :=
  if part.text = "\n" then part.text
  else escapeSequence part.color.parameters ++ part.text ++ escapeSequence "0"

end ColoredText

namespace EditorPainting

/-- The text in colors, or the outline with one text a line. -/
def contentForTerminal (painting : EditorPainting) : String :=
  match painting.outline, painting.surface.overlay with
  | some texts, _ => String.intercalate "\n" (texts.map (·.forTerminal))
  | none, some overlay => String.join (overlay.map (·.forTerminal))
  | none, none => ""

def forTerminal (painting : EditorPainting) : String :=
  String.intercalate "\n"
    [String.intercalate " | " painting.toolbar, painting.contentForTerminal,
      String.intercalate " | " painting.status, ""]

end EditorPainting

end Highlight
