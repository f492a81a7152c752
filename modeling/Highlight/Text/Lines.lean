import Highlight.Text.Classes

/-!
Cutting a text at a separator, and a value into its lines.
-/

set_option autoImplicit false

namespace Highlight.Text

theorem length_of_dropWhile {test : Char → Bool} {text rest : List Char} {c : Char}
    (remaining : text.dropWhile test = c :: rest) : rest.length < text.length := by
  have suffix := List.dropWhile_suffix test (l := text)
  have bound := suffix.length_le
  rw [remaining, List.length_cons] at bound
  omega

def cut (separator : Char) (text : List Char) : List (List Char) :=
  match _remaining : text.dropWhile (· != separator) with
  | [] => [text]
  | _ :: rest => text.takeWhile (· != separator) :: cut separator rest
termination_by text.length
decreasing_by exact length_of_dropWhile _remaining

def withoutReturn (line : List Char) : List Char :=
  if line.getLast? = some '\r' then line.dropLast else line

/-- The lines of a value: it is cut at line feeds, and each line loses one carriage return at its
end. -/
def linesOf (value : List Char) : List (List Char) :=
  (cut '\n' value).map withoutReturn

end Highlight.Text
