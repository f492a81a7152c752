/-!
Which theme is wanted: one with a name, or the one that suits the system.
-/

set_option autoImplicit false

namespace Highlight

/-- The name of a theme, or the name that leaves the choice to the system. -/
structure ThemeMode where
  name : String
  deriving DecidableEq, Repr

namespace ThemeMode

def system : ThemeMode :=
  ⟨"System"⟩

def dark : ThemeMode :=
  ⟨"Dark"⟩

def light : ThemeMode :=
  ⟨"Light"⟩

def standard : ThemeMode :=
  system

instance : Inhabited ThemeMode :=
  ⟨standard⟩

def builtin : List ThemeMode :=
  [system, dark, light]

def isSystem (mode : ThemeMode) : Bool :=
  mode == system

/-- The name of the wanted theme. A system that does not prefer light colors gets the dark theme. -/
def resolve (mode : ThemeMode) (systemIsLight : Bool) : String :=
  if !mode.isSystem then mode.name
  else if systemIsLight then light.name
  else dark.name

end ThemeMode

end Highlight
