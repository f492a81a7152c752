import Highlight.Layout.Letters
import Highlight.Theme.Palette

/-!
What a theme looks like at a size of letters: the colors that are painted, and the room that letters
take up.
-/

set_option autoImplicit false

namespace Highlight

structure Appearance where
  theme : Theme
  fontSize : Single
  deriving DecidableEq, Repr

namespace Appearance

def standardFontSize : Single :=
  .ofNat 14

def dark : Appearance :=
  ⟨.dark, standardFontSize⟩

def light : Appearance :=
  ⟨.light, standardFontSize⟩

def standard : Appearance :=
  dark

instance : Inhabited Appearance :=
  ⟨standard⟩

def letters (appearance : Appearance) : Letters :=
  .ofSize appearance.fontSize

def withFontSize (appearance : Appearance) (fontSize : Single) : Appearance :=
  { appearance with fontSize := fontSize }

def name (appearance : Appearance) : String :=
  appearance.theme.name

def isDark (appearance : Appearance) : Bool :=
  appearance.theme.isDark

section

variable (appearance : Appearance)

def background : PaintedColor :=
  .of appearance.theme.surface.background

def text : PaintedColor :=
  .of appearance.theme.surface.text

def caret : PaintedColor :=
  .of appearance.theme.surface.caret

def selection : PaintedColor :=
  .of appearance.theme.surface.selection

def placeholder : PaintedColor :=
  .of appearance.theme.surface.placeholder

def border : PaintedColor :=
  .of appearance.theme.surface.border

def gutterBackground : PaintedColor :=
  .of appearance.theme.surface.gutterBackground

def gutterSeparator : PaintedColor :=
  .of appearance.theme.surface.gutterSeparator

def lineNumber : PaintedColor :=
  .of appearance.theme.surface.lineNumber

def flaggedLineNumber : PaintedColor :=
  .of appearance.theme.surface.flaggedLineNumber

def flaggedLineTint : PaintedColor :=
  .of appearance.theme.surface.flaggedLineTint

def tokenColor (presentation : Presentation) (kind : TokenKind) : PaintedColor :=
  .of (appearance.theme.colorOf presentation kind)

end

end Appearance

end Highlight
