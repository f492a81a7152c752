import Highlight.Config.Basic
import Highlight.Json.Printer

/-!
Settings in files. A file that cannot be read is left alone; where there is none, one with the
default settings is made.
-/

set_option autoImplicit false

namespace Highlight.Config

/-- The settings with their names in files. All of them may be missing. -/
def fields : List (Json.Decoder.Field Config) :=
  [.optional "current_theme" .text fun config name => { config with currentTheme := name },
    .optional "font_size" .single fun config size => { config with fontSize := size },
    .optional "show_line_numbers" .flag fun config isOn => { config with showLineNumbers := isOn },
    .optional "fill_height" .flag fun config fill => { config with fillHeight := fill },
    .optional "min_height" .single fun config height => { config with minHeight := height },
    .optional "max_height" .single fun config height => { config with maxHeight := height },
    .optional "default_language" .text fun config name => { config with defaultLanguage := name },
    .optional "themes" (.listOf Theme.decoder) fun config themes =>
      { config with themes := themes }]

def decoder : Json.Decoder Config :=
  .record "struct EditorConfig" fields standard

/-- A length in a file; one that is not finite is written as null. -/
def lengthJson (length : Single) : Json :=
  if length.isFinite then .number (.length length) else .null

def toJson (config : Config) : Json :=
  .object
    [("current_theme", .string config.currentTheme),
      ("font_size", lengthJson config.fontSize),
      ("show_line_numbers", .bool config.showLineNumbers),
      ("fill_height", .bool config.fillHeight),
      ("min_height", lengthJson config.minHeight),
      ("max_height", lengthJson config.maxHeight),
      ("default_language", .string config.defaultLanguage),
      ("themes", .array (config.themes.map Theme.toJson))]

def ofText (text : String) : Except Json.Failure Config :=
  Json.readAll decoder text

def toText (config : Config) : String :=
  config.toJson.pretty

inductive Slot where
  | file (content : ByteArray)
  | missing
  /-- There is no file, and none can be made. -/
  | blocked
  deriving Inhabited

inductive LoadError where
  | noFile
  | notUnicode
  | malformed (failure : Json.Failure)
  deriving Inhabited

def LoadError.message (fileName : String) : LoadError → String
  | noFile => "reading " ++ fileName ++ ": No such file or directory (os error 2)"
  | notUnicode => "reading " ++ fileName ++ ": stream did not contain valid UTF-8"
  | malformed failure => "parsing " ++ fileName ++ ": " ++ failure.message

/-- Loads settings, adds the themes that are always known and replaces what makes no sense. -/
def load (slot : Slot) : Except LoadError Config :=
  match slot with
  | .file content =>
    match String.fromUTF8? content with
    | none => .error .notUnicode
    | some text =>
      match ofText text with
      | .error failure => .error (.malformed failure)
      | .ok config => .ok config.withBuiltins.sanitize
  | .missing | .blocked => .error .noFile

def save (config : Config) : Slot → Slot
  | .file _ | .missing => .file config.toText.toUTF8
  | .blocked => .blocked

/-- Loads settings, or makes a file with the default ones where there is none. A file from which
nothing can be loaded counts as the default settings. -/
def loadOrCreate (slot : Slot) : Config × Slot :=
  match slot with
  | .file _ => ((load slot).toOption.getD standard, slot)
  | .missing | .blocked => (standard, save standard slot)

end Highlight.Config
