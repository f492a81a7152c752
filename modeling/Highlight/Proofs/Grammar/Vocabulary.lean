import Highlight.Proofs.Grammar.Program
import Highlight.Proofs.Grammar.Query
import Highlight.Tokenize

/-!
Lines of program source and of SQL. A line of lexemes with single spaces between them, and perhaps
a comment at the end, has just these lexemes as its tokens.
-/

set_option autoImplicit false

namespace Highlight

open Grammar Text

/-- A language whose lines are made of lexemes. -/
structure Vocabulary where
  language : Language
  /-- Lexemes, each with the kind that it is to have. -/
  IsLexeme : Segment → Prop
  /-- What a comment that runs to the end of the line starts with. -/
  mark : String

namespace Vocabulary

def program : Vocabulary :=
  ⟨.code, Program.IsLexeme, "//"⟩

def query : Vocabulary :=
  ⟨.sql, Query.IsLexeme, "--"⟩

/-- The comment that a line ends with, if there is one. -/
def ending (vocabulary : Vocabulary) (comment? : Option (List Char)) : Option Segment :=
  comment?.map fun text => .labelled .comment (vocabulary.mark.toList ++ text)

/-- Lexemes on one line, and perhaps a comment behind them. -/
def line (vocabulary : Vocabulary) (lexemes : List Segment) (comment? : Option (List Char)) :
    List Segment :=
  lexemes ++ (vocabulary.ending comment?).toList

/-- Do rules read the lexemes of a vocabulary as wholes, and nothing else? -/
structure ReadBy (vocabulary : Vocabulary) (rules : List Rule) : Prop where
  scans : vocabulary.language.spans = fun line => scanRules rules (.start line)
  spaces : PassesSpaces rules
  ended : Rule.firstOf rules ⟨none, 0, []⟩ = none
  lexemes : ∀ segment, vocabulary.IsLexeme segment → '\n' ∉ segment.text →
    ReadsSpaced rules segment
  marked : vocabulary.mark.toList ≠ []
  comments : ∀ text, '\n' ∉ text → ∀ before,
    ReadsWhole rules (.labelled .comment (vocabulary.mark.toList ++ text)) before []

theorem program_readBy : program.ReadBy Program.rules where
  scans := rfl
  spaces := Program.passesSpaces_rules
  ended := rfl
  lexemes _ := Program.readsSpaced_of_isLexeme
  marked := by decide
  comments _ := Program.readsWhole_lineComment

theorem query_readBy : query.ReadBy Query.rules where
  scans := rfl
  spaces := Query.passesSpaces_rules
  ended := rfl
  lexemes _ := Query.readsSpaced_of_isLexeme
  marked := by decide
  comments _ := Query.readsWhole_lineComment

end Vocabulary

/-- A line that is joined of lexemes with single spaces has each of them as a token of its kind.
Names of no kind are plain text together with the spaces around them. -/
theorem tokenize_joined {vocabulary : Vocabulary}
    (known : vocabulary ∈ [Vocabulary.program, Vocabulary.query]) {lexemes : List Segment}
    (spelled : ∀ lexeme ∈ lexemes, vocabulary.IsLexeme lexeme)
    (oneLine : ∀ lexeme ∈ lexemes, '\n' ∉ lexeme.text) {comment? : Option (List Char)}
    (commentOneLine : ∀ text ∈ comment?, '\n' ∉ text) :
    tokenize vocabulary.language (String.ofList
        ([' '].intercalate ((vocabulary.line lexemes comment?).map (·.text)))) =
      Segment.tokens ((vocabulary.line lexemes comment?).intersperse (.plain [' '])) := by
  obtain ⟨rules, readBy⟩ : ∃ rules, vocabulary.ReadBy rules := by
    simp only [List.mem_cons, List.not_mem_nil, or_false] at known
    rcases known with rfl | rfl
    · exact ⟨_, Vocabulary.program_readBy⟩
    · exact ⟨_, Vocabulary.query_readBy⟩
  have readsEnding : ∀ last ∈ vocabulary.ending comment?, last.text ≠ [] ∧
      ∀ before, ReadsWhole rules last before [] := by
    intro last member
    obtain ⟨text, present, rfl⟩ := Option.map_eq_some_iff.mp member
    exact ⟨by simp [Segment.labelled, readBy.marked],
      readBy.comments text (commentOneLine text present)⟩
  have covered := coverLine_spaced readBy.spaces readBy.ended
    (fun lexeme member => readBy.lexemes lexeme (spelled lexeme member) (oneLine lexeme member))
    readsEnding
  rw [characters_spaced] at covered
  rw [tokenize, String.toList_ofList, readBy.scans]
  exact covered

/-- A comment mark in a quoted text starts no comment, and a suffix belongs to its number. -/
theorem tokenize_statement :
    tokenize .code "let x = 0b12 \"// \\\" 1\" ; // done" =
      [⟨.keyword, "let"⟩, ⟨.text, " x "⟩, ⟨.operator, "="⟩, ⟨.text, " "⟩, ⟨.number, "0b12"⟩,
        ⟨.text, " "⟩, ⟨.string, "\"// \\\" 1\""⟩, ⟨.text, " "⟩, ⟨.punctuation, ";"⟩,
        ⟨.text, " "⟩, ⟨.comment, "// done"⟩] := by
  have name : Program.IsLexeme (.plain ['x']) :=
    .name (isName_of_all rfl rfl) (by decide)
  have number : Program.IsLexeme (.labelled .number ['0', 'b', '1', '2']) :=
    .number ⟨['0', 'b', '1'], ['2'], rfl, .binary (by simp) (by simp) (by simp),
      Text.forall_mem_of_all rfl⟩
  have body : EscapedBody '\"' ['/', '/', ' ', '\\', '\"', ' ', '1'] :=
    .character (by decide) (by decide) <| .character (by decide) (by decide) <|
      .character (by decide) (by decide) <| .escape (by decide) <|
      .character (by decide) (by decide) <| .character (by decide) (by decide) .nil
  have enquoted : Enquoted '\"' (EscapedBody '\"') "\"// \\\" 1\"".toList := ⟨_, rfl, body⟩
  let lexemes : List Segment := [.labelled .keyword "let".toList, .plain ['x'],
    .labelled .operator "=".toList, .labelled .number ['0', 'b', '1', '2'],
    .labelled .string "\"// \\\" 1\"".toList, .labelled .punctuation [';']]
  have spelled : ∀ lexeme ∈ lexemes, Vocabulary.program.IsLexeme lexeme := by
    simp only [lexemes, List.forall_mem_cons]
    exact ⟨.keyword (by decide), name, .operator (by decide), number,
      .quoted (by decide) enquoted, .punctuation (by decide), List.forall_mem_nil _⟩
  have oneLine : ∀ lexeme ∈ lexemes, '\n' ∉ lexeme.text := by decide
  have commentOneLine : ∀ text ∈ some " done".toList, '\n' ∉ text := by decide
  have joined := tokenize_joined List.mem_cons_self spelled oneLine commentOneLine
  have line : [' '].intercalate
      ((Vocabulary.program.line lexemes (some " done".toList)).map (·.text)) =
        "let x = 0b12 \"// \\\" 1\" ; // done".toList := by decide
  rw [line, String.ofList_toList] at joined
  exact joined.trans (by decide)

end Highlight
