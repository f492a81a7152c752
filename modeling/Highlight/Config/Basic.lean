import Highlight.Language
import Highlight.Theme.Basic
import Highlight.Theme.Mode

/-!
Settings of the editor: what they are by default, which of them make sense, and the themes that they
always know.
-/

set_option autoImplicit false

namespace Highlight

structure Config where
  /-- The name of a theme, or one of the names that stand for a mode. -/
  currentTheme : String
  fontSize : Single
  showLineNumbers : Bool
  /-- Does the text take up all the height there is, rather than as much as its lines need? -/
  fillHeight : Bool
  minHeight : Single
  maxHeight : Single
  /-- The name of the language of texts whose language is not given. -/
  defaultLanguage : String
  themes : List Theme
  deriving DecidableEq, Repr, Inhabited

namespace Config

def standard : Config where
  currentTheme := ThemeMode.standard.name
  fontSize := .ofNat 14
  showLineNumbers := true
  fillHeight := false
  minHeight := .ofNat 120
  maxHeight := .ofNat 600
  defaultLanguage := Language.standard.id
  themes := [.dark, .light]

def findTheme? (config : Config) (name : String) : Option Theme :=
  config.themes.find? (·.name == name)

def themeNames (config : Config) : List String :=
  config.themes.map (·.name)

/-- The language of texts whose language is not given; a name that stands for none means plain
text. -/
def language (config : Config) : Language :=
  .ofNameOrPlain config.defaultLanguage

/-- Puts the dark theme first unless a theme has its name. -/
def withDark (config : Config) : Config :=
  if (config.findTheme? Theme.dark.name).isSome then config
  else { config with themes := .dark :: config.themes }

/-- Puts the light theme second unless a theme has its name. -/
def withLight (config : Config) : Config :=
  if (config.findTheme? Theme.light.name).isSome then config
  else { config with themes := config.themes.insertIdx (min config.themes.length 1) .light }

def withBuiltins (config : Config) : Config :=
  config.withDark.withLight

def leastFontSize : Single :=
  .ofNat 6

def greatestFontSize : Single :=
  .ofNat 72

def leastMinHeight : Single :=
  .ofNat 60

def finiteOr (fallback length : Single) : Single :=
  if length.isFinite then length else fallback

def sensibleFontSize (size : Single) : Single :=
  if size.isFinite then size.clamp leastFontSize greatestFontSize else standard.fontSize

def sensibleMinHeight (height : Single) : Single :=
  (finiteOr standard.minHeight height).max leastMinHeight

def sensibleMaxHeight (minHeight height : Single) : Single :=
  (finiteOr standard.maxHeight height).max minHeight

/-- Is the current theme a mode, or the name of a theme? -/
def knowsCurrentTheme (config : Config) : Bool :=
  ThemeMode.builtin.contains ⟨config.currentTheme⟩ || (config.findTheme? config.currentTheme).isSome

def sanitize (config : Config) : Config :=
  let minHeight := sensibleMinHeight config.minHeight
  { config with
    fontSize := sensibleFontSize config.fontSize
    minHeight := minHeight
    maxHeight := sensibleMaxHeight minHeight config.maxHeight
    currentTheme :=
      if config.knowsCurrentTheme then config.currentTheme else ThemeMode.standard.name
    defaultLanguage :=
      if (Language.ofName? config.defaultLanguage).isSome then config.defaultLanguage
      else Language.standard.id }

end Config

end Highlight
