import Highlight.Text.ShownCharacters

/-!
Texts in quotes for people: characters that show nothing by themselves are written as escapes.
-/

set_option autoImplicit false

namespace Highlight.Text

def hexadecimal (number : Nat) : List Char :=
  Nat.toDigits 16 number

def shownChar (c : Char) : List Char :=
  if c = '\"' then ['\\', '\"']
  else if c = '\\' then ['\\', '\\']
  else if c = '\n' then ['\\', 'n']
  else if c = '\r' then ['\\', 'r']
  else if c = '\t' then ['\\', 't']
  else if c = '\x00' then ['\\', '0']
  else if shownCharacters.contains c then [c]
  else ['\\', 'u', '{'] ++ hexadecimal c.toNat ++ ['}']

def shown (text : String) : String :=
  String.ofList ('\"' :: (text.toList.flatMap shownChar ++ ['\"']))

end Highlight.Text
