import Highlight.Text.Measure
import Highlight.Token.Basic

/-!
Covering a line with tokens. Spans label stretches of the line from left to right; what no span
labels becomes plain text. A span that is empty, lies behind what is already covered, or starts or
ends inside a character is left out, so whatever the spans are, the tokens make up the line.
-/

set_option autoImplicit false

namespace Highlight

open Text

/-- A kind for the bytes of a line from `start` to just before `stop`. -/
structure Span where
  kind : TokenKind
  start : Nat
  stop : Nat
  deriving DecidableEq, Repr, Inhabited

/-- A line whose first `cursor` bytes are covered by tokens, of which the last comes first. -/
structure Cover where
  size : Nat
  cursor : Nat
  rest : List Char
  newestFirst : List Token
  deriving Inhabited

namespace Cover

def start (line : List Char) : Cover :=
  ⟨byteSize line, 0, line, []⟩

/-- The tokens with one more at the end, or as they are when its text is empty. -/
def push (kind : TokenKind) (text : List Char) (newestFirst : List Token) : List Token :=
  if text.isEmpty then newestFirst else ⟨kind, String.ofList text⟩ :: newestFirst

def label (cover : Cover) (span : Span) : Cover :=
  let stop := min span.stop cover.size
  if span.start < cover.cursor ∨ stop ≤ span.start then cover
  else
    match splitAtByte? (span.start - cover.cursor) cover.rest with
    | none => cover
    | some (gap, rest) =>
      match splitAtByte? (stop - span.start) rest with
      | none => cover
      | some (text, rest) =>
        { cover with
          cursor := stop
          rest := rest
          newestFirst := push span.kind text (push .text gap cover.newestFirst) }

/-- Makes everything up to an offset plain text, unless the offset falls inside a character. -/
def plainTo (cover : Cover) (stop : Nat) : Cover :=
  let stop := min stop cover.size
  match splitAtByte? (stop - cover.cursor) cover.rest with
  | none => cover
  | some (gap, rest) =>
    { cover with
      cursor := max stop cover.cursor
      rest := rest
      newestFirst := push .text gap cover.newestFirst }

def finish (cover : Cover) : List Token :=
  (cover.plainTo cover.size).newestFirst.reverse

end Cover

def coverLine (line : List Char) (spans : List Span) : List Token :=
  (spans.foldl Cover.label (Cover.start line)).finish

end Highlight
