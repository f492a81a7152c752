import Highlight.Text.Classes

/-!
Lexemes: descriptions of what may stand at the head of a text. A lexeme says how many characters of
the head belong to it. Each part of a sequence takes its first possible length and never gives
characters back, so a lexeme reads a text in one pass.
-/

set_option autoImplicit false

namespace Highlight.Text

/-- A count, increased by the number of members of a class that the text opens with. -/
@[specialize]
def countRun (isMember : Char → Bool) : Nat → List Char → Nat
  | count, [] => count
  | count, c :: rest => if isMember c then countRun isMember (count + 1) rest else count

theorem countRun_eq (isMember : Char → Bool) (count : Nat) (text : List Char) :
    countRun isMember count text = count + (text.takeWhile isMember).length := by
  induction text generalizing count with
  | nil => rfl
  | cons c rest inductionHypothesis =>
    by_cases member : isMember c
    · simp [countRun, member, inductionHypothesis, Nat.add_comm, Nat.add_left_comm]
    · simp [countRun, member]

/-- A lexeme gives the length of its occurrence at the head of a text, if there is one. -/
structure Lexeme where
  length? : List Char → Option Nat

namespace Lexeme

def nothing : Lexeme :=
  ⟨fun _ => some 0⟩

@[inline]
def one (isMember : Char → Bool) : Lexeme where
  length?
    | c :: _ => if isMember c then some 1 else none
    | [] => none

@[inline]
def char (expected : Char) : Lexeme :=
  one (· == expected)

def oneOf (members : List Char) : Lexeme :=
  one members.contains

/-- As many characters of a class as there are, possibly none. -/
@[inline]
def many (isMember : Char → Bool) : Lexeme :=
  ⟨fun text => some (countRun isMember 0 text)⟩

/-- As many characters of a class as there are, at least one. -/
@[inline]
def run (isMember : Char → Bool) : Lexeme where
  length? text :=
    let count := countRun isMember 0 text
    if count = 0 then none else some count

/-- As many characters of a class as there are, when their number lies between two bounds. -/
@[inline]
def between (low high : Nat) (isMember : Char → Bool) : Lexeme where
  length? text :=
    let count := countRun isMember 0 text
    if low ≤ count ∧ count ≤ high then some count else none

def literal (expected : String) : Lexeme where
  length? text :=
    if expected.toList.isPrefixOf text then some expected.length else none

def anyOf (choices : List String) : Lexeme where
  length? text := choices.findSome? fun choice => (literal choice).length? text

@[inline]
def andThen (first second : Lexeme) : Lexeme where
  length? text := do
    let before ← first.length? text
    let after ← second.length? (text.drop before)
    return before + after

instance : Append Lexeme :=
  ⟨andThen⟩

@[inline]
def orElse (first second : Lexeme) : Lexeme where
  length? text := first.length? text <|> second.length? text

instance : OrElse Lexeme :=
  ⟨fun first second => orElse first (second ())⟩

@[inline]
def optional (lexeme : Lexeme) : Lexeme where
  length? text := some ((lexeme.length? text).getD 0)

/-- Takes no characters, and occurs where the rest of the text passes the test. -/
def ahead (test : List Char → Bool) : Lexeme where
  length? text := if test text then some 0 else none

def atEnd : Lexeme :=
  ahead List.isEmpty

def wordEnds : List Char → Bool
  | c :: _ => !isWord c
  | [] => true

def wordEnd : Lexeme :=
  ahead wordEnds

/-- All of the text, when it has no line feed. -/
def restOfLine : Lexeme where
  length? text := if text.all (· != '\n') then some text.length else none

@[inline]
def through (isMember : Char → Bool) : Lexeme :=
  many (fun c => !isMember c) ++ one isMember

/-- Length up to and including the closing text, or to the end where there is none; none when a line
feed comes first. -/
def closedLength? (closing : List Char) : Nat → List Char → Option Nat
  | taken, [] => some taken
  | taken, c :: rest =>
    if closing.isPrefixOf (c :: rest) then some (taken + closing.length)
    else if c == '\n' then none
    else closedLength? closing (taken + 1) rest

/-- A comment between two marks, which may miss the second when it runs to the end. -/
def blockComment (opening closing : String) : Lexeme :=
  literal opening ++ ⟨closedLength? closing.toList 0⟩

/-- Length up to and including the closing quote, where a backslash takes the character after it
along unless that is a line feed. -/
def escapedLength? (quote : Char) : Nat → List Char → Option Nat
  | _, [] => none
  | taken, '\\' :: c :: rest =>
    if c == '\n' then none else escapedLength? quote (taken + 2) rest
  | taken, c :: rest =>
    if c == quote then some (taken + 1)
    else if c == '\\' then none
    else escapedLength? quote (taken + 1) rest

def escapedQuote (quote : Char) : Lexeme :=
  char quote ++ ⟨escapedLength? quote 0⟩

/-- Length up to and including the closing quote, where a doubled quote stands for one. When the
text ends first, the last doubled quote is split and its first half closes. -/
def doubledLength? (quote : Char) : Option Nat → Nat → List Char → Option Nat
  | fallback, _, [] => fallback
  | fallback, taken, c :: rest =>
    if c == quote then
      match rest with
      | next :: rest =>
        if next == quote then doubledLength? quote (some (taken + 1)) (taken + 2) rest
        else some (taken + 1)
      | [] => some (taken + 1)
    else doubledLength? quote fallback (taken + 1) rest

def doubledQuote (quote : Char) : Lexeme :=
  char quote ++ ⟨doubledLength? quote none 0⟩

def spans (lexeme : Lexeme) (text : List Char) : Bool :=
  match lexeme.length? text with
  | some length => length == text.length
  | none => false

end Lexeme

end Highlight.Text
