import Highlight.Config.File
import Highlight.Editor.Options
import Highlight.Editor.Terminal

/-!
The command line: shows a text in a terminal the way an editor shows it.
-/

set_option autoImplicit false

namespace Highlight.CommandLine

def slotAt (path : String) : IO Config.Slot := do
  try
    return .file (← IO.FS.readBinFile path)
  catch _ => return .missing

/-- The settings in a file, which is made if there is none. -/
def configAt (path : String) : IO Config := do
  let (config, after) := Config.loadOrCreate (← slotAt path)
  if let .file content := after then
    try IO.FS.writeBinFile path content
    catch _ => pure ()
  return config

def display (options : Options) : IO Unit := do
  let config ← match options.configPath with
    | some path => configAt path
    | none => pure .standard
  IO.print (Editor.start config options.startup).opened.2.forTerminal

end Highlight.CommandLine

open Highlight in
def main (arguments : List String) : IO UInt32 := do
  match Options.ofArguments arguments with
  | .ok options =>
    CommandLine.display options
    return 0
  | .error error =>
    IO.eprintln ("error: " ++ error.message)
    return 1
