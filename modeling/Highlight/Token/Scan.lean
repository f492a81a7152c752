import Highlight.Text.Lexeme
import Highlight.Token.Cover

/-!
Scanning a line from left to right. At each place a grammar may read a lexeme, whose pieces it
labels; where it reads none, the scan moves on by one character.
-/

set_option autoImplicit false

namespace Highlight

open Text

/-- A place in a line: the character before it, the bytes before it, and the text after it. -/
structure Place where
  before : Option Char
  offset : Nat
  rest : List Char
  deriving Inhabited

namespace Place

def start (line : List Char) : Place :=
  ⟨none, 0, line⟩

def forward : Nat → Place → Place
  | 0, place => place
  | _ + 1, ⟨before, offset, []⟩ => ⟨before, offset, []⟩
  | count + 1, ⟨_, offset, c :: rest⟩ => forward count ⟨some c, offset + c.utf8Size, rest⟩

def wordStarts (place : Place) : Bool :=
  place.before.all (!isWord ·)

theorem rest_forward (count : Nat) (place : Place) :
    (place.forward count).rest = place.rest.drop count := by
  induction count generalizing place with
  | zero => rfl
  | succ count inductionHypothesis =>
    match place with
    | ⟨_, _, []⟩ => rfl
    | ⟨_, _, _ :: _⟩ => simp [forward, inductionHypothesis]

end Place

/-- A number of characters, with a kind unless they are plain text. -/
structure Piece where
  kind? : Option TokenKind
  length : Nat
  deriving DecidableEq, Repr, Inhabited

namespace Piece

def plain (length : Nat) : Piece :=
  ⟨none, length⟩

def labelled (kind : TokenKind) (length : Nat) : Piece :=
  ⟨some kind, length⟩

def total (pieces : List Piece) : Nat :=
  pieces.foldr (fun piece total => piece.length + total) 0

def spansFrom : Place → List Piece → List Span
  | _, [] => []
  | place, piece :: pieces =>
    let next := place.forward piece.length
    match piece.kind? with
    | some kind => ⟨kind, place.offset, next.offset⟩ :: spansFrom next pieces
    | none => spansFrom next pieces

end Piece

/-- A rule says which pieces it reads at a place, if any. -/
abbrev Rule := Place → Option (List Piece)

namespace Rule

def token (kind : TokenKind) (lexeme : Lexeme) : Rule := fun place =>
  (lexeme.length? place.rest).map fun length => [.labelled kind length]

def classified (kindOf : List Char → Option TokenKind) (lexeme : Lexeme) : Rule := fun place =>
  (lexeme.length? place.rest).map fun length => [⟨kindOf (place.rest.take length), length⟩]

def skip (lexeme : Lexeme) : Rule :=
  classified (fun _ => none) lexeme

/-- Reads a lexeme of which only the part before its trailing blanks gets a kind. -/
def trimmed (kindOf : List Char → Option TokenKind) (lexeme : Lexeme) : Rule := fun place =>
  (lexeme.length? place.rest).map fun length =>
    let core := trimEnd (place.rest.take length)
    [⟨kindOf core, core.length⟩, .plain (length - core.length)]

def sequence : List Rule → Rule
  | [], _ => some []
  | rule :: rules, place => do
    let pieces ← rule place
    let others ← sequence rules (place.forward (Piece.total pieces))
    return pieces ++ others

def optional (rule : Rule) : Rule := fun place =>
  some ((rule place).getD [])

def atWordStart (rule : Rule) : Rule := fun place =>
  if place.wordStarts then rule place else none

def atLineStart (rule : Rule) : Rule := fun place =>
  if place.before.isNone then rule place else none

def firstOf (rules : List Rule) : Rule := fun place =>
  rules.findSome? (· place)

end Rule

/-- The spans that a grammar with a state labels from a place on. -/
def scanFrom {State : Type} (step : State → Place → Option (List Piece × State)) (state : State)
    (place : Place) : List Span :=
  match _hasRest : place.rest with
  | [] => []
  | _ :: _ =>
    match step state place with
    | none => scanFrom step state (place.forward 1)
    | some (pieces, next) =>
      Piece.spansFrom place pieces ++
        scanFrom step next (place.forward (max 1 (Piece.total pieces)))
termination_by place.rest.length
decreasing_by
  all_goals
    rw [Place.rest_forward, _hasRest, List.length_drop]
    simp only [List.length_cons]
    omega

/-- The spans of a grammar given by rules, of which the first that reads something wins. -/
def scanRules (rules : List Rule) (place : Place) : List Span :=
  scanFrom (fun () place => (Rule.firstOf rules place).map (·, ())) () place

end Highlight
