import Highlight.Token.Scan

/-!
Lines of XML, HTML and SVG. Attributes, quoted values and closing brackets count only inside a tag;
between tags they are text.
-/

set_option autoImplicit false

namespace Highlight.Grammar.Markup

open Text

def continuesName (c : Char) : Bool :=
  isWord c || c == ':' || c == '.' || c == '-'

def tagName : Lexeme :=
  .one Char.isAlpha ++ .many continuesName

def attributeName : Lexeme :=
  .one (fun c => c.isAlpha || c == '_' || c == ':' || c == '@') ++ .many continuesName

def declaration : Lexeme :=
  .char '<' ++ .oneOf ['!', '?'] ++ .many (· != '>') ++ .optional (.char '>')

def value (quote : Char) : Lexeme :=
  .char quote ++ .many (fun c => c != quote && c != '<') ++ .char quote

def everywhere : Rule :=
  .firstOf
    [.token .comment (.blockComment "<!--" "-->"),
      .token .keyword declaration]

def opening : Rule :=
  .sequence [.token .bracket (.char '<' ++ .optional (.char '/')), .token .tag tagName]

/-- Rules whose pieces are labelled only inside a tag. A name with no equals sign after it is read
whole, since none follows its later characters either. -/
def inTag : Rule :=
  .firstOf
    [.sequence [.token .attribute attributeName, .skip (.many isBlank),
        .token .punctuation (.char '=')],
      .skip attributeName,
      .token .string (value '\"' <|> value '\'')]

def closing : Rule :=
  .token .bracket (.optional (.char '/') ++ .char '>')

def step (inside : Bool) (place : Place) : Option (List Piece × Bool) :=
  let labelledIf (pieces : List Piece) : List Piece :=
    if inside then pieces else [.plain (Piece.total pieces)]
  (everywhere place).map (·, inside) <|>
    (opening place).map (·, true) <|>
    (inTag place).map (fun pieces => (labelledIf pieces, inside)) <|>
    (closing place).map (fun pieces => (labelledIf pieces, false))

/-- A step reads the same rules everywhere; only outside of tags it labels nothing of what belongs
to one. -/
theorem step_cases {inside next : Bool} {place : Place} {pieces : List Piece}
    (read : step inside place = some (pieces, next)) :
    everywhere place = some pieces ∧ next = inside ∨
      opening place = some pieces ∧ next = true ∨
      (∃ own, inTag place = some own ∧ next = inside ∧
        pieces = if inside then own else [.plain (Piece.total own)]) ∨
      ∃ own, closing place = some own ∧ next = false ∧
        pieces = if inside then own else [.plain (Piece.total own)] := by
  simp only [step, Option.orElse_eq_orElse, Option.orElse_eq_or, Option.or_eq_some_iff,
    Option.map_eq_some_iff, Prod.mk.injEq] at read
  rcases read with ⟨own, ownRead, rfl, rfl⟩ | ⟨-, read⟩
  · exact .inl ⟨ownRead, rfl⟩
  right
  rcases read with ⟨own, ownRead, rfl, rfl⟩ | ⟨-, read⟩
  · exact .inl ⟨ownRead, rfl⟩
  right
  rcases read with ⟨own, ownRead, rfl, rfl⟩ | ⟨-, own, ownRead, rfl, rfl⟩
  · exact .inl ⟨own, ownRead, rfl, rfl⟩
  · exact .inr ⟨own, ownRead, rfl, rfl⟩

/-- The opening of an attribute with a quoted value, which may stand before any bracket on a line
that goes on with a tag. -/
def continuation : Lexeme :=
  .many isBlank ++ attributeName ++ .many isBlank ++ .char '=' ++ .many isBlank ++
    .oneOf ['\"', '\'']

/-- Does the line go on with a tag that an earlier line opened? -/
def startsInTag (line : List Char) : Bool :=
  match line.find? (fun c => c == '<' || c == '>') with
  | some bracket => bracket == '>'
  | none => (continuation.length? line).isSome

def spans (line : List Char) : List Span :=
  scanFrom step (startsInTag line) (.start line)

end Highlight.Grammar.Markup
