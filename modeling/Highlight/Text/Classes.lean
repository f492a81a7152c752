import Highlight.Text.WordCharacters
import Highlight.Text.DecimalDigits
import Highlight.Text.UppercaseLetters
import Highlight.Text.LowercaseLetters

/-!
The classes of characters that grammars speak of. Each is decided at once for ASCII and by a table
beyond it.
-/

set_option autoImplicit false

namespace Highlight.Text

def isAscii (c : Char) : Bool :=
  c.toNat < 0x80

/-- White space: the ASCII blanks, the two no-break and next-line controls, and the separators. -/
def isBlank (c : Char) : Bool :=
  let code := c.toNat
  (0x9 ≤ code && code ≤ 0xD) || code == 0x20 || code == 0x85 || code == 0xA0 || code == 0x1680 ||
    (0x2000 ≤ code && code ≤ 0x200A) || code == 0x2028 || code == 0x2029 || code == 0x202F ||
    code == 0x205F || code == 0x3000

/-- Letters, marks, digits and connectors of every script. -/
def isWord (c : Char) : Bool :=
  if isAscii c then c.isAlphanum || c == '_' else wordCharacters.contains c

/-- Decimal digits of every script. -/
def isDecimal (c : Char) : Bool :=
  if isAscii c then c.isDigit else decimalDigits.contains c

def isUppercase (c : Char) : Bool :=
  if isAscii c then c.isUpper else uppercaseLetters.contains c

def isLowercase (c : Char) : Bool :=
  if isAscii c then c.isLower else lowercaseLetters.contains c

def isIndent (c : Char) : Bool :=
  c == ' ' || c == '\t'

def isHexDigit (c : Char) : Bool :=
  c.isDigit || ('a' ≤ c && c ≤ 'f') || ('A' ≤ c && c ≤ 'F')

def isNoneOf (characters : List Char) (c : Char) : Bool :=
  !characters.contains c

end Highlight.Text
