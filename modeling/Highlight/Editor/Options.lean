import Highlight.Editor.Basic

/-!
The arguments with which an editor is started from a command line.
-/

set_option autoImplicit false

namespace Highlight

structure Options where
  startup : Startup
  /-- The file of the settings, if there is one. -/
  configPath : Option String
  deriving DecidableEq, Repr

inductive OptionsError where
  | unknownArgument (argument : String)
  | valueMissing (option : String)
  | unknownLanguage (name : String)
  deriving DecidableEq, Repr

namespace OptionsError

def message : OptionsError → String
  | unknownArgument argument => "unexpected argument '" ++ argument ++ "'"
  | valueMissing option => "a value is required for '" ++ option ++ "'"
  | unknownLanguage name => Language.unknownMessage name

end OptionsError

namespace Options

def standard : Options :=
  ⟨⟨none, "", false, false, false⟩, none⟩

def withSwitch? (options : Options) (argument : String) : Option Options :=
  let startup := options.startup
  match argument with
  | "--read-only" => some { options with startup := { startup with isReadOnly := true } }
  | "--fill-height" => some { options with startup := { startup with fillsHeight := true } }
  | "--no-line-numbers" => some { options with startup := { startup with hidesNumbers := true } }
  | _ => none

def valued : List String :=
  ["--language", "-l", "--text", "-t", "--config"]

def withValue (options : Options) (option value : String) : Except OptionsError Options :=
  let startup := options.startup
  match option with
  | "--language" | "-l" =>
    match Language.ofName? value with
    | some language => .ok { options with startup := { startup with language := some language } }
    | none => .error (.unknownLanguage value)
  | "--text" | "-t" => .ok { options with startup := { startup with value := value } }
  | "--config" => .ok { options with configPath := some value }
  | _ => .error (.unknownArgument option)

/-- Adds arguments to options. A value is the argument after its option. -/
def receive (options : Options) : List String → Except OptionsError Options
  | [] => .ok options
  | [argument] =>
    match options.withSwitch? argument with
    | some switched => .ok switched
    | none =>
      if valued.contains argument then .error (.valueMissing argument)
      else .error (.unknownArgument argument)
  | argument :: value :: others =>
    match options.withSwitch? argument with
    | some switched => switched.receive (value :: others)
    | none =>
      match options.withValue argument value with
      | .ok valued => valued.receive others
      | .error error => .error error

def ofArguments (arguments : List String) : Except OptionsError Options :=
  standard.receive arguments

end Options

end Highlight
