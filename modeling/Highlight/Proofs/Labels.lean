import Highlight.Proofs.Segments
import Highlight.Tokenize

/-!
The kinds that grammars label with. A rule is bound by the kinds of its parts, a scan by those of
its steps; no grammar labels anything as plain text, which is left to the gaps between the spans.
-/

set_option autoImplicit false

namespace Highlight

open Text

namespace Rule

/-- A rule that labels with allowed kinds only. -/
def Within (allowed : TokenKind → Prop) (rule : Rule) : Prop :=
  ∀ place pieces, rule place = some pieces → Piece.Within allowed pieces

variable {allowed : TokenKind → Prop}

theorem token_within {kind : TokenKind} (permitted : allowed kind) (lexeme : Lexeme) :
    (token kind lexeme).Within allowed := by
  intro place pieces read
  obtain ⟨length, _, rfl⟩ := Option.map_eq_some_iff.mp read
  simpa [Piece.Within, Piece.labelled] using permitted

theorem classified_within {kindOf : List Char → Option TokenKind}
    (permitted : ∀ text, ∀ kind ∈ kindOf text, allowed kind) (lexeme : Lexeme) :
    (classified kindOf lexeme).Within allowed := by
  intro place pieces read
  obtain ⟨length, _, rfl⟩ := Option.map_eq_some_iff.mp read
  simpa [Piece.Within] using permitted _

theorem skip_within (lexeme : Lexeme) : (skip lexeme).Within allowed :=
  classified_within (by simp) lexeme

theorem trimmed_within {kindOf : List Char → Option TokenKind}
    (permitted : ∀ text, ∀ kind ∈ kindOf text, allowed kind) (lexeme : Lexeme) :
    (trimmed kindOf lexeme).Within allowed := by
  intro place pieces read
  obtain ⟨length, _, rfl⟩ := Option.map_eq_some_iff.mp read
  simpa [Piece.Within, Piece.plain] using permitted _

theorem sequence_within {rules : List Rule} (parts : ∀ rule ∈ rules, rule.Within allowed) :
    (sequence rules).Within allowed := by
  induction rules with
  | nil =>
    intro place pieces read
    obtain rfl : [] = pieces := by simpa [sequence] using read
    simp [Piece.Within]
  | cons rule rules inductionHypothesis =>
    intro place pieces read
    obtain ⟨first, others⟩ := List.forall_mem_cons.mp parts
    obtain ⟨own, ownRead, rest⟩ := Option.bind_eq_some_iff.mp read
    obtain ⟨following, followingRead, same⟩ := Option.bind_eq_some_iff.mp rest
    obtain rfl : own ++ following = pieces := by simpa using same
    rw [Piece.Within, List.forall_mem_append]
    exact ⟨first _ _ ownRead, inductionHypothesis others _ _ followingRead⟩

theorem optional_within {rule : Rule} (part : rule.Within allowed) :
    (optional rule).Within allowed := by
  intro place pieces read
  obtain rfl : (rule place).getD [] = pieces := by simpa [optional] using read
  cases found : rule place with
  | none => simp [Piece.Within]
  | some own => exact part place own found

theorem atWordStart_within {rule : Rule} (part : rule.Within allowed) :
    (atWordStart rule).Within allowed := by
  intro place pieces read
  unfold atWordStart at read
  split at read
  · exact part place pieces read
  · contradiction

theorem atLineStart_within {rule : Rule} (part : rule.Within allowed) :
    (atLineStart rule).Within allowed := by
  intro place pieces read
  unfold atLineStart at read
  split at read
  · exact part place pieces read
  · contradiction

theorem firstOf_within {rules : List Rule} (parts : ∀ rule ∈ rules, rule.Within allowed) :
    (firstOf rules).Within allowed := by
  intro place pieces read
  obtain ⟨rule, member, own⟩ := List.exists_of_findSome?_eq_some read
  exact parts rule member place pieces own

end Rule

section Scan

variable {allowed : TokenKind → Prop}

theorem Piece.spansFrom_within {pieces : List Piece} (within : Piece.Within allowed pieces)
    (place : Place) : ∀ span ∈ Piece.spansFrom place pieces, allowed span.kind := by
  rw [Piece.spansFrom_eq]
  exact Segment.spansFrom_within (Piece.segments_within within _) _

theorem scanFrom_within {State : Type} {step : State → Place → Option (List Piece × State)}
    (steps : ∀ state place pieces next,
      step state place = some (pieces, next) → Piece.Within allowed pieces)
    (state : State) (place : Place) :
    ∀ span ∈ scanFrom step state place, allowed span.kind := by
  rw [scanFrom_eq_spansFrom]
  exact Segment.spansFrom_within (segmentsFrom_within steps state place) _

theorem Rule.step_within {rules : List Rule} (parts : ∀ rule ∈ rules, rule.Within allowed)
    (place : Place) (pieces : List Piece) (next : Unit)
    (read : (firstOf rules place).map (·, ()) = some (pieces, next)) :
    Piece.Within allowed pieces := by
  obtain ⟨own, ownRead, same⟩ := Option.map_eq_some_iff.mp read
  obtain ⟨rfl, -⟩ := Prod.mk.inj same
  exact firstOf_within parts place own ownRead

theorem scanRules_within {rules : List Rule} (parts : ∀ rule ∈ rules, rule.Within allowed)
    (place : Place) : ∀ span ∈ scanRules rules place, allowed span.kind :=
  scanFrom_within (fun _ => Rule.step_within parts) () place

end Scan

/-! ## The grammars -/

/-- Any kind but plain text, which no grammar asks for. -/
abbrev TokenKind.IsLabel (kind : TokenKind) : Prop :=
  kind ≠ .text

namespace Grammar

section Rules

attribute [local simp] Rule.token_within Rule.skip_within Rule.sequence_within
  Rule.atWordStart_within Rule.atLineStart_within

theorem Json.rules_within : ∀ rule ∈ Json.rules, rule.Within TokenKind.IsLabel := by
  simp [Json.rules, Json.key]

theorem Json.spans_labelled (line : List Char) : ∀ span ∈ Json.spans line, span.kind.IsLabel :=
  scanRules_within Json.rules_within _

theorem Stylesheet.spans_labelled (line : List Char) :
    ∀ span ∈ Stylesheet.spans line, span.kind.IsLabel :=
  scanRules_within (by simp [Stylesheet.rules]) _

theorem CharacterRuns.spans_labelled (line : List Char) :
    ∀ span ∈ CharacterRuns.spans line, span.kind.IsLabel :=
  scanRules_within (by simp [CharacterRuns.rules]) _

theorem Query.wordKind?_labelled (word : List Char) :
    ∀ kind ∈ Query.wordKind? word, kind.IsLabel := by
  unfold Query.wordKind?
  split <;> simp

theorem Query.spans_labelled (line : List Char) :
    ∀ span ∈ Query.spans line, span.kind.IsLabel :=
  scanRules_within (by simp [Query.rules, Rule.classified_within Query.wordKind?_labelled]) _

theorem Program.wordKind?_labelled (word : List Char) :
    ∀ kind ∈ Program.wordKind? word, kind.IsLabel := by
  unfold Program.wordKind?
  dsimp only
  repeat' split
  all_goals simp

theorem Program.directive_within : Rule.Within TokenKind.IsLabel Program.directive :=
  Rule.atLineStart_within (Rule.sequence_within (by simp))

theorem Program.hashComment_within : Rule.Within TokenKind.IsLabel Program.hashComment :=
  Rule.atLineStart_within (Rule.sequence_within (by simp))

theorem Program.spans_labelled (line : List Char) :
    ∀ span ∈ Program.spans line, span.kind.IsLabel :=
  scanRules_within (by simp [Program.rules, Program.directive_within, Program.hashComment_within,
    Rule.classified_within Program.wordKind?_labelled]) _

theorem Markup.everywhere_within : Rule.Within TokenKind.IsLabel Markup.everywhere :=
  Rule.firstOf_within (by simp)

theorem Markup.inTag_within : Rule.Within TokenKind.IsLabel Markup.inTag :=
  Rule.firstOf_within (by simp)

theorem Markup.step_within {inside next : Bool} {place : Place} {pieces : List Piece}
    (read : Markup.step inside place = some (pieces, next)) :
    Piece.Within TokenKind.IsLabel pieces := by
  have labelledIf : ∀ own, Piece.Within TokenKind.IsLabel own →
      Piece.Within TokenKind.IsLabel (if inside then own else [.plain (Piece.total own)]) := by
    intro own within
    split
    · exact within
    · simp [Piece.Within, Piece.plain]
  rcases Markup.step_cases read with ⟨own, -⟩ | ⟨own, -⟩ | ⟨own, ownRead, -, rfl⟩ |
    ⟨own, ownRead, -, rfl⟩
  · exact Markup.everywhere_within _ _ own
  · exact Rule.sequence_within (by simp) _ _ own
  · exact labelledIf own (Markup.inTag_within _ _ ownRead)
  · exact labelledIf own (Rule.token_within (by simp) _ _ _ ownRead)

theorem Markup.spans_labelled (line : List Char) :
    ∀ span ∈ Markup.spans line, span.kind.IsLabel :=
  scanFrom_within (fun _ _ _ _ read => Markup.step_within read) _ _

theorem Command.wordKind?_labelled (expected : Bool) (word : List Char) :
    ∀ kind ∈ Command.wordKind? expected word, kind.IsLabel := by
  unfold Command.wordKind?
  repeat' split
  all_goals simp

theorem Command.step_within {expected next : Bool} {place : Place} {pieces : List Piece}
    (read : Command.step expected place = some (pieces, next)) :
    Piece.Within TokenKind.IsLabel pieces := by
  rcases Command.step_cases read with ⟨own, -⟩ | ⟨own, -⟩ | ⟨own, -⟩ | ⟨length, -, rfl, -⟩ |
    ⟨own, -⟩ | ⟨own, -⟩
  · exact Rule.token_within (by simp) _ _ _ own
  · exact Rule.token_within (by simp) _ _ _ own
  · exact Rule.token_within (by simp) _ _ _ own
  · simp [Piece.Within, Piece.labelled]
  · exact Rule.token_within (by simp) _ _ _ own
  · exact Rule.classified_within (Command.wordKind?_labelled expected) _ _ _ own

theorem Command.spans_labelled (line : List Char) :
    ∀ span ∈ Command.spans line, span.kind.IsLabel :=
  scanFrom_within (fun _ _ _ _ read => Command.step_within read) _ _

theorem Prose.blockMarks_within {allowed : TokenKind → Prop} (permitted : allowed .punctuation) :
    Rule.Within allowed Prose.blockMarks := by
  have punctuation : ∀ text, ∀ kind ∈ Prose.punctuation text, allowed kind := by
    simpa [Prose.punctuation] using permitted
  have taskMark : Rule.Within allowed Prose.taskMark :=
    Rule.sequence_within (by simpa using Rule.token_within permitted _)
  apply Rule.sequence_within
  simp [Prose.quoteMark, Prose.listMark, Rule.optional_within, Rule.trimmed_within punctuation,
    taskMark]

theorem Prose.rules_within : ∀ rule ∈ Prose.rules, rule.Within TokenKind.IsLabel := by
  simp [Prose.rules]

theorem Prose.spans_labelled (line : List Char) :
    ∀ span ∈ Prose.spans line, span.kind.IsLabel := by
  unfold Prose.spans
  dsimp only
  split
  · simp
  split
  · simp
  split
  · simp
  rw [List.forall_mem_append]
  refine ⟨Piece.spansFrom_within ?_ _, scanRules_within Prose.rules_within _⟩
  cases found : Prose.blockMarks (.start line) with
  | none => simp [Piece.Within]
  | some marks => exact Prose.blockMarks_within (by simp) _ _ found

theorem Assignment.head_within : Rule.Within TokenKind.IsLabel Assignment.head :=
  Rule.firstOf_within (by simp [Assignment.binding])

theorem Assignment.spans_labelled (line : List Char) :
    ∀ span ∈ Assignment.spans line, span.kind.IsLabel := by
  unfold Assignment.spans
  split
  · simp
  cases found : Assignment.head (.start line) with
  | none => simp
  | some pieces =>
    rw [List.forall_mem_append]
    refine ⟨Piece.spansFrom_within (Assignment.head_within _ _ found) _, ?_⟩
    simp only [Assignment.valueSpans, Assignment.tailSpans, List.forall_mem_cons]
    refine ⟨by simp, ?_⟩
    split <;> simp

theorem Record.fieldSpans_labelled (offset : Nat) (fields : List (List Char)) :
    ∀ span ∈ Record.fieldSpans offset fields, span.kind.IsLabel := by
  have kinds : ∀ core, ∀ kind ∈ Record.fieldKind? core, kind.IsLabel := by
    intro core
    unfold Record.fieldKind?
    repeat' split
    all_goals simp
  induction fields generalizing offset with
  | nil => simp [Record.fieldSpans]
  | cons field fields inductionHypothesis =>
    simp only [Record.fieldSpans, List.forall_mem_append]
    refine ⟨⟨?_, by split <;> simp⟩, inductionHypothesis _⟩
    simpa using kinds (trim field)

theorem Record.spans_labelled (line : List Char) :
    ∀ span ∈ Record.spans line, span.kind.IsLabel :=
  Record.fieldSpans_labelled 0 _

def Yaml.valueKinds : List TokenKind :=
  [.boolean, .null, .number, .string, .punctuation, .variable, .tag, .bracket]

theorem Yaml.scalarKind?_mem (text : List Char) :
    ∀ kind ∈ Yaml.scalarKind? text, kind ∈ Yaml.valueKinds := by
  unfold Yaml.scalarKind?
  dsimp only
  repeat' split
  all_goals simp [Yaml.valueKinds]

theorem Yaml.wholeKind?_mem (value : List Char) :
    ∀ kind ∈ Yaml.wholeKind? value, kind ∈ Yaml.valueKinds := by
  intro kind found
  simp only [Yaml.wholeKind?, Option.orElse_eq_orElse, Option.orElse_eq_or,
    Option.mem_def, Option.or_eq_some_iff] at found
  obtain scalar | ⟨-, whole⟩ := found
  · exact Yaml.scalarKind?_mem value kind scalar
  · split at whole
    · cases whole
      simp [Yaml.valueKinds]
    · split at whole
      · cases whole
        simp [Yaml.valueKinds]
      · contradiction

theorem Yaml.property?_mem {first : Char} {rest : List Char} {kind : TokenKind} {count : Nat}
    (found : Yaml.property? first rest = some (kind, count)) : kind ∈ Yaml.valueKinds := by
  unfold Yaml.property? at found
  dsimp only at found
  split at found
  · split at found
    · contradiction
    · cases found
      simp [Yaml.valueKinds]
  · split at found
    · cases found
      simp [Yaml.valueKinds]
    · contradiction

theorem Yaml.valueSpans_kinds (offset : Nat) (value : List Char) :
    ∀ span ∈ Yaml.valueSpans offset value, span.kind ∈ Yaml.valueKinds := by
  fun_induction Yaml.valueSpans offset value with
  | case1 => simp
  | case2 offset first rest kind whole => simpa using Yaml.wholeKind?_mem _ kind whole
  | case3 offset first rest whole kind count property stop tail inductionHypothesis =>
    exact List.forall_mem_cons.mpr ⟨Yaml.property?_mem property, inductionHypothesis⟩
  | case4 offset first rest whole property opens =>
    refine scanRules_within ?_ _
    simp only [Yaml.flowRules, List.forall_mem_cons]
    exact ⟨Rule.token_within (by simp [Yaml.valueKinds]) _,
      Rule.token_within (by simp [Yaml.valueKinds]) _,
      Rule.token_within (by simp [Yaml.valueKinds]) _,
      Rule.trimmed_within Yaml.scalarKind?_mem _, List.forall_mem_nil _⟩
  | case5 => simp

theorem Yaml.key_within :
    Rule.Within TokenKind.IsLabel (.sequence
      [.token .key Yaml.key, .skip (.many isIndent), .token .punctuation (.char ':'), Yaml.gap]) :=
  Rule.sequence_within (by simp [Yaml.gap])

theorem Yaml.dash_within :
    Rule.Within TokenKind.IsLabel (.sequence [.token .punctuation (.char '-'), Yaml.gap]) :=
  Rule.sequence_within (by simp [Yaml.gap])

theorem Yaml.head_within : Rule.Within TokenKind.IsLabel Yaml.head :=
  Rule.sequence_within
    (by simp [Rule.optional_within Yaml.key_within, Rule.optional_within Yaml.dash_within])

theorem Yaml.spans_labelled (line : List Char) :
    ∀ span ∈ Yaml.spans line, span.kind.IsLabel := by
  unfold Yaml.spans
  dsimp only
  split
  · simp
  split
  · simp
  rw [List.forall_mem_append]
  constructor
  · apply Piece.spansFrom_within
    cases found : Yaml.head (.start line) with
    | none => simp [Piece.Within]
    | some pieces => exact Yaml.head_within _ _ found
  · simp only [Yaml.contentSpans, List.forall_mem_append]
    refine ⟨fun span member => ?_, ?_⟩
    · have labels : ∀ kind ∈ Yaml.valueKinds, kind.IsLabel := by decide
      exact labels span.kind (Yaml.valueSpans_kinds _ _ span member)
    · split <;> simp

end Rules

end Grammar

/-- No language asks for plain text. -/
theorem Language.spans_labelled (language : Language) (line : List Char) :
    ∀ span ∈ language.spans line, span.kind.IsLabel := by
  cases language with
  | json => exact Grammar.Json.spans_labelled line
  | xml | html | svg => exact Grammar.Markup.spans_labelled line
  | css => exact Grammar.Stylesheet.spans_labelled line
  | sql => exact Grammar.Query.spans_labelled line
  | yaml => exact Grammar.Yaml.spans_labelled line
  | markdown => exact Grammar.Prose.spans_labelled line
  | env => exact Grammar.Assignment.spans_labelled line
  | csv => exact Grammar.Record.spans_labelled line
  | shell => exact Grammar.Command.spans_labelled line
  | code => exact Grammar.Program.spans_labelled line
  | plainText => simp [Language.spans]
  | randomString => exact Grammar.CharacterRuns.spans_labelled line

end Highlight
