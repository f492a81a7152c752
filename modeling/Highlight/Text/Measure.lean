import Highlight.Text.Classes

/-!
Sizes, cuts and trims of texts held as lists of characters. Offsets count bytes of UTF-8, so a cut
can fall inside a character, and then there is none.
-/

set_option autoImplicit false

namespace Highlight.Text

def byteSize (text : List Char) : Nat :=
  text.foldl (fun size c => size + c.utf8Size) 0

/-- The text before and after a byte offset; none when the offset is past the end or inside a
character. -/
def splitAtByte? : Nat → List Char → Option (List Char × List Char)
  | 0, text => some ([], text)
  | _ + 1, [] => none
  | offset + 1, c :: rest =>
    if c.utf8Size ≤ offset + 1 then
      (splitAtByte? (offset + 1 - c.utf8Size) rest).map fun (head, tail) => (c :: head, tail)
    else none

def trimStart (text : List Char) : List Char :=
  text.dropWhile isBlank

def trimEnd (text : List Char) : List Char :=
  (text.reverse.dropWhile isBlank).reverse

def trim (text : List Char) : List Char :=
  trimEnd (trimStart text)

/-- ASCII letters in lower case, everything else as it is. -/
def asciiLower (text : String) : String :=
  text.map Char.toLower

end Highlight.Text
