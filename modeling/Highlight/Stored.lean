import Highlight.Document.FlaggedLines
import Highlight.Json.Decoder
import Highlight.Json.Printer
import Highlight.Language
import Highlight.Token.Basic

/-!
How languages, tokens and flagged lines are stored as JSON.
-/

set_option autoImplicit false

namespace Highlight

def Language.decoder : Json.Decoder Language :=
  .variant (all.map fun language => (language.dataName, language))

def TokenKind.decoder : Json.Decoder TokenKind :=
  .variant (all.map fun kind => (kind.name, kind))

namespace Token

def decoder : Json.Decoder Token :=
  .record "struct Token"
    [.required "kind" TokenKind.decoder fun token kind => { token with kind := kind },
      .required "text" .text fun token text => { token with text := text }]
    ⟨.text, ""⟩

def toJson (token : Token) : Json :=
  .object [("kind", .string token.kind.name), ("text", .string token.text)]

def storedText (tokens : List Token) : String :=
  (Json.array (tokens.map toJson)).compact

def ofStoredText (text : String) : Except Json.Failure (List Token) :=
  Json.readAll (Json.Decoder.listOf decoder) text

end Token

namespace FlaggedLines

def toJson (flagged : FlaggedLines) : Json :=
  .array (flagged.toList.map fun line => .number (.natural line))

def storedText (flagged : FlaggedLines) : String :=
  flagged.toJson.compact

/-- Reads a set of flagged lines from a list in any order. -/
def ofStoredText (text : String) : Except Json.Failure FlaggedLines :=
  (Json.readAll (Json.Decoder.listOf Json.Decoder.index) text).map ofList

end FlaggedLines

end Highlight
