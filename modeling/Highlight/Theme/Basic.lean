import Highlight.Theme.Color

/-!
Themes: named sets of colors in four sections, of which any color may be missing in a theme file.
There are two themes that are always known, a dark and a light one.
-/

set_option autoImplicit false

namespace Highlight

/-- A color of a section: its name in theme files, and how it is got and set. -/
structure ColorField (Section : Type) where
  name : String
  get : Section → Color
  set : Section → Color → Section

namespace ColorField

variable {Section : Type}

/-- Reads a section, in which colors that are missing are those of another one. -/
def sectionDecoder (description : String) (fields : List (ColorField Section))
    (fallback : Section) : Json.Decoder Section :=
  .record description
    (fields.map fun field => .optional field.name Color.decoder field.set) fallback

def sectionJson (fields : List (ColorField Section)) (colors : Section) : Json :=
  .object (fields.map fun field => (field.name, (field.get colors).toJson))

end ColorField

structure SurfaceColors where
  background : Color
  text : Color
  caret : Color
  selection : Color
  placeholder : Color
  border : Color
  gutterBackground : Color
  gutterSeparator : Color
  lineNumber : Color
  flaggedLineNumber : Color
  flaggedLineTint : Color
  deriving DecidableEq, Repr, Inhabited

namespace SurfaceColors

def dark : SurfaceColors where
  background := .opaqueColor 30 30 30
  text := .opaqueColor 212 212 212
  caret := .opaqueColor 255 255 255
  selection := ⟨50, 110, 200, 100⟩
  placeholder := .opaqueColor 110 110 110
  border := .opaqueColor 60 60 60
  gutterBackground := .opaqueColor 37 37 37
  gutterSeparator := .opaqueColor 60 60 60
  lineNumber := .opaqueColor 120 120 120
  flaggedLineNumber := .opaqueColor 241 76 76
  flaggedLineTint := ⟨241, 76, 76, 40⟩

def light : SurfaceColors where
  background := .opaqueColor 255 255 255
  text := .opaqueColor 30 30 30
  caret := .opaqueColor 0 0 0
  selection := ⟨100, 150, 230, 100⟩
  placeholder := .opaqueColor 160 160 160
  border := .opaqueColor 200 200 200
  gutterBackground := .opaqueColor 245 245 245
  gutterSeparator := .opaqueColor 220 220 220
  lineNumber := .opaqueColor 130 130 130
  flaggedLineNumber := .opaqueColor 205 49 49
  flaggedLineTint := ⟨205, 49, 49, 32⟩

def fields : List (ColorField SurfaceColors) :=
  [⟨"bg", (·.background), fun colors color => { colors with background := color }⟩,
    ⟨"text", (·.text), fun colors color => { colors with text := color }⟩,
    ⟨"caret", (·.caret), fun colors color => { colors with caret := color }⟩,
    ⟨"selection", (·.selection), fun colors color => { colors with selection := color }⟩,
    ⟨"placeholder", (·.placeholder), fun colors color => { colors with placeholder := color }⟩,
    ⟨"border", (·.border), fun colors color => { colors with border := color }⟩,
    ⟨"gutter_bg", (·.gutterBackground),
      fun colors color => { colors with gutterBackground := color }⟩,
    ⟨"gutter_separator", (·.gutterSeparator),
      fun colors color => { colors with gutterSeparator := color }⟩,
    ⟨"line_number", (·.lineNumber), fun colors color => { colors with lineNumber := color }⟩,
    ⟨"error_line_number", (·.flaggedLineNumber),
      fun colors color => { colors with flaggedLineNumber := color }⟩,
    ⟨"error_line_tint", (·.flaggedLineTint),
      fun colors color => { colors with flaggedLineTint := color }⟩]

def decoder : Json.Decoder SurfaceColors :=
  ColorField.sectionDecoder "struct SurfaceColors" fields dark

def toJson (colors : SurfaceColors) : Json :=
  ColorField.sectionJson fields colors

end SurfaceColors

/-- Colors of tokens by what they are. -/
structure SyntaxColors where
  key : Color
  string : Color
  number : Color
  boolean : Color
  null : Color
  bracket : Color
  punctuation : Color
  operator : Color
  tag : Color
  attributeName : Color
  keyword : Color
  comment : Color
  variableName : Color
  heading : Color
  emphasis : Color
  link : Color
  code : Color
  text : Color
  deriving DecidableEq, Repr, Inhabited

namespace SyntaxColors

def dark : SyntaxColors where
  key := .opaqueColor 156 220 254
  string := .opaqueColor 206 145 120
  number := .opaqueColor 181 206 168
  boolean := .opaqueColor 86 156 214
  null := .opaqueColor 86 156 214
  bracket := .opaqueColor 255 215 0
  punctuation := .opaqueColor 160 160 160
  operator := .opaqueColor 212 212 212
  tag := .opaqueColor 86 156 214
  attributeName := .opaqueColor 156 220 254
  keyword := .opaqueColor 197 134 192
  comment := .opaqueColor 106 153 85
  variableName := .opaqueColor 78 201 176
  heading := .opaqueColor 86 156 214
  emphasis := .opaqueColor 220 220 170
  link := .opaqueColor 78 148 206
  code := .opaqueColor 206 145 120
  text := .opaqueColor 212 212 212

def light : SyntaxColors where
  key := .opaqueColor 4 81 165
  string := .opaqueColor 163 21 21
  number := .opaqueColor 9 134 88
  boolean := .opaqueColor 0 0 255
  null := .opaqueColor 0 0 255
  bracket := .opaqueColor 175 0 219
  punctuation := .opaqueColor 90 90 90
  operator := .opaqueColor 30 30 30
  tag := .opaqueColor 128 0 0
  attributeName := .opaqueColor 229 0 0
  keyword := .opaqueColor 175 0 219
  comment := .opaqueColor 0 128 0
  variableName := .opaqueColor 0 16 128
  heading := .opaqueColor 0 0 128
  emphasis := .opaqueColor 121 94 38
  link := .opaqueColor 0 102 204
  code := .opaqueColor 163 21 21
  text := .opaqueColor 30 30 30

def fields : List (ColorField SyntaxColors) :=
  [⟨"key", (·.key), fun colors color => { colors with key := color }⟩,
    ⟨"string", (·.string), fun colors color => { colors with string := color }⟩,
    ⟨"number", (·.number), fun colors color => { colors with number := color }⟩,
    ⟨"boolean", (·.boolean), fun colors color => { colors with boolean := color }⟩,
    ⟨"null", (·.null), fun colors color => { colors with null := color }⟩,
    ⟨"bracket", (·.bracket), fun colors color => { colors with bracket := color }⟩,
    ⟨"punctuation", (·.punctuation), fun colors color => { colors with punctuation := color }⟩,
    ⟨"operator", (·.operator), fun colors color => { colors with operator := color }⟩,
    ⟨"tag", (·.tag), fun colors color => { colors with tag := color }⟩,
    ⟨"attribute", (·.attributeName), fun colors color => { colors with attributeName := color }⟩,
    ⟨"keyword", (·.keyword), fun colors color => { colors with keyword := color }⟩,
    ⟨"comment", (·.comment), fun colors color => { colors with comment := color }⟩,
    ⟨"variable", (·.variableName), fun colors color => { colors with variableName := color }⟩,
    ⟨"heading", (·.heading), fun colors color => { colors with heading := color }⟩,
    ⟨"emphasis", (·.emphasis), fun colors color => { colors with emphasis := color }⟩,
    ⟨"link", (·.link), fun colors color => { colors with link := color }⟩,
    ⟨"code", (·.code), fun colors color => { colors with code := color }⟩,
    ⟨"text", (·.text), fun colors color => { colors with text := color }⟩]

def decoder : Json.Decoder SyntaxColors :=
  ColorField.sectionDecoder "struct SyntaxColors" fields dark

def toJson (colors : SyntaxColors) : Json :=
  ColorField.sectionJson fields colors

end SyntaxColors

/-- Colors of tokens by the class of their characters. -/
structure CharacterColors where
  digit : Color
  uppercase : Color
  lowercase : Color
  symbol : Color
  deriving DecidableEq, Repr, Inhabited

namespace CharacterColors

def dark : CharacterColors where
  digit := .opaqueColor 181 206 168
  uppercase := .opaqueColor 86 156 214
  lowercase := .opaqueColor 212 212 212
  symbol := .opaqueColor 206 145 120

def light : CharacterColors where
  digit := .opaqueColor 9 134 88
  uppercase := .opaqueColor 0 0 255
  lowercase := .opaqueColor 30 30 30
  symbol := .opaqueColor 163 21 21

def fields : List (ColorField CharacterColors) :=
  [⟨"digit", (·.digit), fun colors color => { colors with digit := color }⟩,
    ⟨"uppercase", (·.uppercase), fun colors color => { colors with uppercase := color }⟩,
    ⟨"lowercase", (·.lowercase), fun colors color => { colors with lowercase := color }⟩,
    ⟨"symbol", (·.symbol), fun colors color => { colors with symbol := color }⟩]

def decoder : Json.Decoder CharacterColors :=
  ColorField.sectionDecoder "struct RandomStringColors" fields dark

def toJson (colors : CharacterColors) : Json :=
  ColorField.sectionJson fields colors

end CharacterColors

structure WindowColors where
  panelFill : Color
  faintBackground : Color
  extremeBackground : Color
  inactiveWidgetBackground : Color
  hoveredWidgetBackground : Color
  activeWidgetBackground : Color
  accent : Color
  deriving DecidableEq, Repr, Inhabited

namespace WindowColors

def dark : WindowColors where
  panelFill := .opaqueColor 43 43 43
  faintBackground := .opaqueColor 35 35 35
  extremeBackground := .opaqueColor 25 25 25
  inactiveWidgetBackground := .opaqueColor 50 50 50
  hoveredWidgetBackground := .opaqueColor 60 60 60
  activeWidgetBackground := .opaqueColor 70 70 70
  accent := .opaqueColor 80 180 200

def light : WindowColors where
  panelFill := .opaqueColor 240 240 240
  faintBackground := .opaqueColor 245 245 245
  extremeBackground := .opaqueColor 255 255 255
  inactiveWidgetBackground := .opaqueColor 220 220 220
  hoveredWidgetBackground := .opaqueColor 210 210 210
  activeWidgetBackground := .opaqueColor 200 200 200
  accent := .opaqueColor 50 120 200

def fields : List (ColorField WindowColors) :=
  [⟨"panel_fill", (·.panelFill), fun colors color => { colors with panelFill := color }⟩,
    ⟨"faint_bg", (·.faintBackground), fun colors color => { colors with faintBackground := color }⟩,
    ⟨"extreme_bg", (·.extremeBackground),
      fun colors color => { colors with extremeBackground := color }⟩,
    ⟨"widget_inactive_bg", (·.inactiveWidgetBackground),
      fun colors color => { colors with inactiveWidgetBackground := color }⟩,
    ⟨"widget_hovered_bg", (·.hoveredWidgetBackground),
      fun colors color => { colors with hoveredWidgetBackground := color }⟩,
    ⟨"widget_active_bg", (·.activeWidgetBackground),
      fun colors color => { colors with activeWidgetBackground := color }⟩,
    ⟨"accent", (·.accent), fun colors color => { colors with accent := color }⟩]

def decoder : Json.Decoder WindowColors :=
  ColorField.sectionDecoder "struct ChromeColors" fields dark

def toJson (colors : WindowColors) : Json :=
  ColorField.sectionJson fields colors

end WindowColors

structure Theme where
  name : String
  isDark : Bool
  surface : SurfaceColors
  syntaxColors : SyntaxColors
  characters : CharacterColors
  window : WindowColors
  deriving DecidableEq, Repr, Inhabited

namespace Theme

def dark : Theme :=
  ⟨"Dark", true, .dark, .dark, .dark, .dark⟩

def light : Theme :=
  ⟨"Light", false, .light, .light, .light, .light⟩

def fields : List (Json.Decoder.Field Theme) :=
  [.required "name" .text fun theme name => { theme with name := name },
    .required "dark_mode" .flag fun theme isDark => { theme with isDark := isDark },
    .optional "surface" SurfaceColors.decoder fun theme colors => { theme with surface := colors },
    .optional "syntax" SyntaxColors.decoder fun theme colors =>
      { theme with syntaxColors := colors },
    .optional "random" CharacterColors.decoder fun theme colors =>
      { theme with characters := colors },
    .optional "chrome" WindowColors.decoder fun theme colors => { theme with window := colors }]

/-- Reads a theme. Sections that are missing are those of the dark theme. -/
def decoder : Json.Decoder Theme :=
  .record "struct ThemeDefinition" fields dark

def toJson (theme : Theme) : Json :=
  .object
    [("name", .string theme.name),
      ("dark_mode", .bool theme.isDark),
      ("surface", theme.surface.toJson),
      ("syntax", theme.syntaxColors.toJson),
      ("random", theme.characters.toJson),
      ("chrome", theme.window.toJson)]

end Theme

end Highlight
