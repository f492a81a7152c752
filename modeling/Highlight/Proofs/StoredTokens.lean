import Highlight.Proofs.Json.Enclosed
import Highlight.Proofs.Partition
import Highlight.Stored

/-!
Tokens in texts of JSON. Each kind has a name of its own, and each character of a text has an escape
or stands for itself, so a list of tokens is read back from its text, and with it the line that the
tokens make up. The text is JSON for other readers as well.
-/

set_option autoImplicit false

namespace Highlight

open Json (ReadsAs Spacing WrittenField compact_string toList_compact_array toList_compact_object)

theorem TokenKind.lookup_name (kind : TokenKind) :
    (all.map fun kind => (kind.name, kind)).lookup kind.name = some kind := by
  cases kind <;> decide

namespace Token

def written (token : Token) : List (WrittenField Token) :=
  [.required "kind" (.variant token.kind.lookup_name) fun token kind => { token with kind := kind },
    .required "text" (.text token.text) fun token text => { token with text := text }]

theorem readsAs (token : Token) : ReadsAs decoder token.toJson.compact.toList token := by
  have names : (token.written.map (·.field)).map (·.name) = ["kind", "text"] := rfl
  have distinct : ((token.written.map (·.field)).map (·.name)).Nodup := by
    rw [names]
    decide
  have result : WrittenField.result token.written ⟨.text, ""⟩ = token := by
    simp only [WrittenField.result, written, List.foldl_cons, List.foldl_nil,
      WrittenField.set_required]
  have reads := ReadsAs.record Spacing.tight "struct Token" distinct rfl result
  simp only [written, List.map_cons, List.map_nil, WrittenField.memberText_required] at reads
  rw [toJson, toList_compact_object]
  simp only [List.map_cons, List.map_nil, compact_string]
  exact reads

theorem toList_storedText (tokens : List Token) :
    (storedText tokens).toList =
      Spacing.tight.enclose '[' ']' (tokens.map fun token => token.toJson.compact.toList) := by
  rw [storedText, toList_compact_array, List.map_map]
  rfl

theorem ofStoredText_storedText (tokens : List Token) :
    ofStoredText (storedText tokens) = .ok tokens := by
  have reads : ReadsAs (Json.Decoder.listOf decoder) (storedText tokens).toList tokens := by
    rw [toList_storedText]
    exact .listOf Spacing.tight fun token _ => token.readsAs
  exact reads.readAll

/-- The reader of all values finds an object with a kind and a text. -/
theorem readsAs_toJson (token : Token) (levels : Nat) :
    ReadsAs (Json.Cursor.value (levels + 1)) token.toJson.compact.toList token.toJson := by
  have strings : ∀ member ∈ [("kind", Json.string token.kind.name), ("text", .string token.text)],
      ReadsAs (Json.Cursor.value levels) member.2.compact.toList member.2 := by
    intro member listed
    obtain ⟨text, isString⟩ : ∃ text, member.2 = .string text := by
      simp only [List.mem_cons, List.not_mem_nil, or_false] at listed
      rcases listed with rfl | rfl
      · exact ⟨_, rfl⟩
      · exact ⟨_, rfl⟩
    rw [isString, compact_string]
    exact .valueString text
  have sorted : [("kind", Json.string token.kind.name), ("text", .string token.text)].foldl
      (fun known member => Json.insertMember member.1 member.2 known) [] =
        [("kind", Json.string token.kind.name), ("text", .string token.text)] := by
    have later : ¬"text" < "kind" := by decide
    simp [Json.insertMember, later]
  have reads := ReadsAs.valueObject Spacing.tight (fun value => value.compact.toList) strings sorted
  rw [toJson, toList_compact_object]
  exact reads

theorem parse_storedText (tokens : List Token) :
    Json.parse (storedText tokens) = .ok (.array (tokens.map toJson)) := by
  have each : ∀ item ∈ tokens.map toJson,
      ReadsAs (Json.Cursor.value (125 + 1)) item.compact.toList item :=
    List.forall_mem_map.mpr fun token _ => token.readsAs_toJson 125
  have reads : ReadsAs (Json.Cursor.value Json.maxLevels) (storedText tokens).toList
      (.array (tokens.map toJson)) := by
    rw [storedText, toList_compact_array]
    exact .valueArray Spacing.tight each
  exact reads.readAll

end Token

/-- Tokens of any kinds with any texts are read back from the text that they are stored as, so they
still make up the same line; in particular the tokens of a line in any language do. The text is
JSON: an array of objects with the name of a kind and a text. -/
theorem stored_tokens_are_read_back :
    (∀ tokens : List Token,
      Token.ofStoredText (Token.storedText tokens) = .ok tokens ∧
        (Token.ofStoredText (Token.storedText tokens)).map joinText = .ok (joinText tokens) ∧
        Json.parse (Token.storedText tokens) = .ok (.array (tokens.map fun token =>
          .object [("kind", .string token.kind.name), ("text", .string token.text)]))) ∧
      ∀ language line,
        (Token.ofStoredText (Token.storedText (tokenize language line))).map joinText =
          .ok line := by
  constructor
  · intro tokens
    have readBack := Token.ofStoredText_storedText tokens
    refine ⟨readBack, ?_, Token.parse_storedText tokens⟩
    rw [readBack]
    rfl
  · intro language line
    have joined := (partition_tokenize language line).joined
    rw [Token.ofStoredText_storedText]
    exact congrArg Except.ok joined

/-- What has no letter for its escape is written by its code. -/
example : Token.storedText [⟨.string, "\"é\x01"⟩, ⟨.text, "\\\n"⟩] =
    "[\x7b\"kind\":\"string\",\"text\":\"\\\"é\\u0001\"\x7d," ++
      "\x7b\"kind\":\"text\",\"text\":\"\\\\\\n\"\x7d]" := by
  decide +kernel

end Highlight
