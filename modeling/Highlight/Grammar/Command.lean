import Highlight.Token.Scan

/-!
Lines of shell commands. The first word of the line, and the first after a pipe or a list operator,
is the command; words with a dash are flags; a redirection takes a file name.
-/

set_option autoImplicit false

namespace Highlight.Grammar.Command

open Text

def isNumber (word : List Char) : Bool :=
  (.run isDecimal ++ .optional (.char '.' ++ .run isDecimal) : Lexeme).spans word

def inWord (c : Char) : Bool :=
  !isBlank c && isNoneOf ['\"', '\'', '$', '|', ';', '&', '<', '>', '\\'] c

/-- Length of the rest of a word, whose escapes take any character but a line feed along. -/
def wordLength : Nat → List Char → Nat
  | taken, [] => taken
  | taken, '\\' :: c :: rest => if c == '\n' then taken else wordLength (taken + 2) rest
  | taken, c :: rest => if inWord c then wordLength (taken + 1) rest else taken

def word : Lexeme :=
  .one inWord ++ ⟨fun text => some (wordLength 0 text)⟩

def quoted : Lexeme :=
  .escapedQuote '\"' <|> (.char '\'' ++ .through (· == '\''))

def variableName : Lexeme :=
  (.one Char.isAlpha <|> .char '_') ++ .many isWord

def parameter : Lexeme :=
  .char '$' ++ ((.char '{' ++ .through (· == '}')) <|> variableName <|>
    .one fun c => c.isDigit || ['?', '#', '@', '*', '$', '!', '-'].contains c)

def operator : Lexeme :=
  .anyOf ["&&", "||", ">>"] <|> .oneOf ['|', ';', '&', '<', '>']

def redirections : List String :=
  [">", ">>", "<"]

def wordKind? (commandExpected : Bool) (word : List Char) : Option TokenKind :=
  if word.head? == some '-' && word.length > 1 then some .attribute
  else if commandExpected then some .keyword
  else if isNumber word then some .number
  else none

/-- One step; the state says whether a command is expected. -/
def step (commandExpected : Bool) (place : Place) : Option (List Piece × Bool) :=
  (Rule.token .comment (.char '#' ++ .restOfLine) place).map (·, commandExpected) <|>
    (Rule.token .string quoted place).map (·, false) <|>
    (Rule.token .variable parameter place).map (·, false) <|>
    (operator.length? place.rest).map (fun length =>
      ([.labelled .operator length],
        !redirections.contains (String.ofList (place.rest.take length)))) <|>
    (Rule.token .punctuation (.char '\\' ++ .atEnd) place).map (·, commandExpected) <|>
    (Rule.classified (wordKind? commandExpected) word place).map (·, false)

/-- What a step reads is a comment, a quoted text, a parameter, an operator, a continuation or a
word. -/
theorem step_cases {expected next : Bool} {place : Place} {pieces : List Piece}
    (read : step expected place = some (pieces, next)) :
    Rule.token .comment (.char '#' ++ .restOfLine) place = some pieces ∧ next = expected ∨
      Rule.token .string quoted place = some pieces ∧ next = false ∨
      Rule.token .variable parameter place = some pieces ∧ next = false ∨
      (∃ length, operator.length? place.rest = some length ∧
        pieces = [.labelled .operator length] ∧
        next = !redirections.contains (String.ofList (place.rest.take length))) ∨
      Rule.token .punctuation (.char '\\' ++ .atEnd) place = some pieces ∧ next = expected ∨
      Rule.classified (wordKind? expected) word place = some pieces ∧ next = false := by
  simp only [step, Option.orElse_eq_orElse, Option.orElse_eq_or, Option.or_eq_some_iff,
    Option.map_eq_some_iff, Prod.mk.injEq] at read
  rcases read with ⟨own, ownRead, rfl, rfl⟩ | ⟨-, read⟩
  · exact .inl ⟨ownRead, rfl⟩
  right
  rcases read with ⟨own, ownRead, rfl, rfl⟩ | ⟨-, read⟩
  · exact .inl ⟨ownRead, rfl⟩
  right
  rcases read with ⟨own, ownRead, rfl, rfl⟩ | ⟨-, read⟩
  · exact .inl ⟨ownRead, rfl⟩
  right
  rcases read with ⟨length, found, rfl, rfl⟩ | ⟨-, read⟩
  · exact .inl ⟨length, found, rfl, rfl⟩
  right
  rcases read with ⟨own, ownRead, rfl, rfl⟩ | ⟨-, own, ownRead, rfl, rfl⟩
  · exact .inl ⟨ownRead, rfl⟩
  · exact .inr ⟨ownRead, rfl⟩

def spans (line : List Char) : List Span :=
  scanFrom step true (.start line)

end Highlight.Grammar.Command
