import Highlight.Config.Basic
import Highlight.Editor.Validation
import Highlight.Json.Outline
import Highlight.Surface.Basic

/-!
An editor: a surface for one value between a toolbar and a status bar. A value in JSON is checked
after each change and can be shown as an outline instead of a text.
-/

set_option autoImplicit false

namespace Highlight

structure Startup where
  /-- The language, if it is not that of the settings. -/
  language : Option Language
  value : String
  isReadOnly : Bool
  fillsHeight : Bool
  hidesNumbers : Bool
  deriving DecidableEq, Repr

structure OpenMenu where
  menu : Menu
  frames : Nat
  deriving DecidableEq, Repr

structure Editor where
  value : String
  language : Language
  isReadOnly : Bool
  fillsHeight : Bool
  showsNumbers : Bool
  /-- Is JSON to be shown as an outline? -/
  prefersOutline : Bool
  validation : Validation
  /-- The number of lines, as the text reported it last. -/
  lineCount : Nat
  /-- Where the caret was when there was one last. -/
  caret : Option Nat
  changeCount : Nat
  lastKey : Option Key
  appearance : Appearance
  mode : ThemeMode
  themes : List Theme
  heights : HeightBounds
  memory : SurfaceMemory
  window : Window
  openMenu : Option OpenMenu
  openness : Openness

namespace Editor

/-- The preference of the system for light colors, of which nothing is known. -/
def systemIsLight : Bool :=
  false

section

variable (editor : Editor)

def revalidate : Editor :=
  { editor with validation := .of editor.language editor.value }

def setLanguage (language : Language) : Editor :=
  if editor.language = language then editor
  else { editor with language := language }.revalidate

/-- Changes the value behind the back of the text, of which nothing is concluded. -/
def setValue (value : String) : Editor :=
  { editor with value := value }

def findTheme? (name : String) : Option Theme :=
  editor.themes.find? (·.name == name)

/-- The mode that takes the place of a wanted one, and its theme, where the system prefers light
colors or does not. A mode without a theme is replaced by the one of the system, which has the dark
theme at least. -/
def resolveMode (prefersLight : Bool) (mode : ThemeMode) : ThemeMode × Theme :=
  match editor.findTheme? (mode.resolve prefersLight) with
  | some theme => (mode, theme)
  | none =>
    (.system, (editor.findTheme? (ThemeMode.system.resolve prefersLight)).getD .dark)

/-- Changes the theme but not the size of letters. -/
def setMode (mode : ThemeMode) : Editor :=
  let (mode, theme) := editor.resolveMode systemIsLight mode
  { editor with mode := mode, appearance := ⟨theme, editor.appearance.fontSize⟩ }

def outlined? : Option Json :=
  if editor.prefersOutline then editor.validation.json? else none

def outlineRows : List OutlineRow :=
  match editor.outlined? with
  | some json => editor.openness.rows json
  | none => []

def placeholder : String :=
  "Paste or type here…"

def room : Room :=
  ⟨.ofNat 8, .ofNat 39, ⟨.ofNat 1008, .ofNat 698⟩⟩

def settings : SurfaceSettings where
  language := editor.language
  isReadOnly := editor.isReadOnly
  placeholder := some placeholder
  flagged := editor.validation.flagged
  fillsHeight := editor.fillsHeight
  showsNumbers := editor.showsNumbers
  heights := editor.heights
  appearance := editor.appearance
  takesFocus := true
  room := room

def select (selection : Selection) : Editor :=
  { editor with memory := { editor.memory with caret := some ⟨selection, none⟩ } }

end

/-- A new editor, in which no mode has been chosen yet. -/
def ofConfig (config : Config) (startup : Startup) : Editor :=
  revalidate
    { value := startup.value
      language := startup.language.getD config.language
      isReadOnly := startup.isReadOnly
      fillsHeight := startup.fillsHeight || config.fillHeight
      showsNumbers := config.showLineNumbers && !startup.hidesNumbers
      prefersOutline := false
      validation := .unchecked
      lineCount := (lines startup.value).length
      caret := none
      changeCount := 0
      lastKey := none
      appearance := ⟨.dark, config.fontSize⟩
      mode := .dark
      themes := config.themes
      heights := .of config.minHeight config.maxHeight
      memory := .fresh
      window := .start
      openMenu := none
      openness := .standard }

def start (config : Config) (startup : Startup) : Editor :=
  (ofConfig config startup).setMode ⟨config.currentTheme⟩

end Editor

end Highlight
