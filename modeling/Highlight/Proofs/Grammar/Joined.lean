import Highlight.Proofs.Reach

/-!
Lexemes with single spaces between them. When the rules of a grammar read each lexeme of a line up
to the space behind it and nothing at the spaces, the scan cuts the line into just these lexemes.
-/

set_option autoImplicit false

namespace Highlight.Grammar

open Text Text.Lexeme

/-- A step of a scan by rules. -/
def ruleStep (rules : List Rule) : Unit → Place → Option (List Piece × Unit) :=
  fun () place => (Rule.firstOf rules place).map (·, ())

/-- Is a space the next character, if there is one? -/
def AtSpace (next : Option Char) : Prop :=
  ∀ c ∈ next, c = ' '

theorem stops_of_atSpace {rest : List Char} (ends : AtSpace rest.head?) {isMember : Char → Bool}
    (outside : isMember ' ' = false) : Stops isMember rest :=
  fun c head => ends c head ▸ outside

/-- Do the rules read a segment as a whole between a character and a rest? -/
def ReadsWhole (rules : List Rule) (segment : Segment) (before : Option Char)
    (rest : List Char) : Prop :=
  ∀ offset, Rule.firstOf rules ⟨before, offset, segment.text ++ rest⟩ = some [segment.piece]

/-- Do the rules read a segment as a whole wherever it stands between spaces? -/
def ReadsSpaced (rules : List Rule) (segment : Segment) : Prop :=
  ∀ before rest, AtSpace before → AtSpace rest.head? → ReadsWhole rules segment before rest

/-- Do the rules read nothing at a space that follows something? -/
def PassesSpaces (rules : List Rule) : Prop :=
  ∀ c offset rest, Rule.firstOf rules ⟨some c, offset, ' ' :: rest⟩ = none

def spaced (segments : List Segment) : List Segment :=
  segments.intersperse (.plain [' '])

theorem ReadsSpaced.ne_nil {rules : List Rule} {segment : Segment}
    (reads : ReadsSpaced rules segment) (ended : Rule.firstOf rules ⟨none, 0, []⟩ = none) :
    segment.text ≠ [] := by
  intro empty
  have read := reads none [] (by simp [AtSpace]) (by simp [AtSpace]) 0
  rw [empty, List.append_nil, ended] at read
  contradiction

theorem characters_spaced (segments : List Segment) :
    Segment.characters (spaced segments) = [' '].intercalate (segments.map (·.text)) := by
  induction segments with
  | nil => rfl
  | cons segment segments inductionHypothesis =>
    cases segments with
    | nil => simp [spaced]
    | cons next others =>
      rw [List.map_cons, List.map_cons, List.intercalate_cons_cons, ← List.map_cons,
        ← inductionHypothesis]
      simp [spaced, Segment.plain]

section Lines

variable {rules : List Rule} {segment : Segment} {before : Option Char} {rest : List Char}

theorem passes_segment (present : segment.text ≠ [])
    (reads : ReadsWhole rules segment before rest) :
    Passes (ruleStep rules) () () before segment.text rest [segment] := by
  refine Passes.of_read (by simp) present fun offset => ?_
  rw [ruleStep, reads offset]
  rfl

/-- A rule reads a segment where the rules before it open with other characters. -/
theorem readsWhole_of_rule {classes : List (Char → Bool)}
    (opens : List.Forall₂ Rule.OpensWith classes rules) (count : Nat) {rule : Rule}
    {later : List Rule} (dropped : rules.drop count = rule :: later) {c : Char}
    (head : segment.text.head? = some c)
    (elsewhere : ∀ isMember ∈ classes.take count, isMember c = false)
    (read : ∀ offset, rule ⟨before, offset, segment.text ++ rest⟩ = some [segment.piece]) :
    ReadsWhole rules segment before rest := by
  intro offset
  obtain ⟨others, spelled⟩ := List.head?_eq_some_iff.mp head
  have own := read offset
  rw [spelled, List.cons_append] at own ⊢
  rw [Rule.firstOf_of_opens opens count elsewhere, dropped, Rule.firstOf_cons_of_some own]

theorem readsSpaced_oneOf {classes : List (Char → Bool)}
    (opens : List.Forall₂ Rule.OpensWith classes rules) (count : Nat) {kind : TokenKind}
    {members : List Char} {later : List Rule}
    (dropped : rules.drop count = .token kind (oneOf members) :: later)
    (elsewhere : members.all fun c => (classes.take count).all fun isMember => !isMember c)
    {c : Char} (listed : c ∈ members) : ReadsSpaced rules (.labelled kind [c]) := by
  intro before rest _ _
  have reads : (oneOf members).Reads [c] rest := reads_one (by simpa) rest
  have others : ∀ isMember ∈ classes.take count, isMember c = false := by
    simpa using List.all_eq_true.mp elsewhere c listed
  exact readsWhole_of_rule opens count dropped rfl others fun offset =>
    Rule.token_of_reads reads kind

/-- A rule that opens with the same character but reads nothing may be passed over too. -/
theorem readsWhole_of_miss {classes : List (Char → Bool)}
    (opens : List.Forall₂ Rule.OpensWith classes rules) (count : Nat) {rule : Rule}
    {later : List Rule} (dropped : rules.drop count = rule :: later) {c : Char}
    (head : segment.text.head? = some c)
    (elsewhere : ∀ isMember ∈ classes.take count, isMember c = false)
    (missed : ∀ offset, rule ⟨before, offset, segment.text ++ rest⟩ = none)
    (reads : ReadsWhole later segment before rest) : ReadsWhole rules segment before rest := by
  intro offset
  obtain ⟨others, spelled⟩ := List.head?_eq_some_iff.mp head
  have nothing := missed offset
  have own := reads offset
  rw [spelled, List.cons_append] at nothing own ⊢
  rw [Rule.firstOf_of_opens opens count elsewhere, dropped, Rule.firstOf_cons_of_none nothing, own]

/-- Another rule may open like the one that reads a text, so what comes after the first character
has to tell them apart. -/
theorem readsSpaced_behind {classes : List (Char → Bool)}
    (opens : List.Forall₂ Rule.OpensWith classes rules) (front back : Nat)
    {kind otherKind : TokenKind} {lexeme other : Lexeme} {later last : List Rule}
    (dropped : rules.drop front = .token otherKind other :: later)
    (droppedLater : later.drop back = .token kind lexeme :: last) {marks : List Char}
    (elsewhere : marks.all fun c =>
      (classes.take front ++ (classes.drop (front + 1)).take back).all fun isMember =>
        !isMember c)
    {text : List Char} (opening : text.head?.any (· ∈ marks))
    (reads : ∀ rest, AtSpace rest.head? → other.Misses (text ++ rest) ∧ lexeme.Reads text rest) :
    ReadsSpaced rules (.labelled kind text) := by
  intro before rest _ ends
  obtain ⟨missed, own⟩ := reads rest ends
  obtain ⟨c, head, isMark⟩ := (Option.any_eq_true _ _).mp opening
  have outside := List.all_eq_true.mp elsewhere c (of_decide_eq_true isMark)
  rw [List.all_append, Bool.and_eq_true] at outside
  have tail : rules.drop (front + 1) = later := by
    rw [← List.tail_drop, dropped, List.tail_cons]
  have opensLater : List.Forall₂ Rule.OpensWith (classes.drop (front + 1)) later :=
    tail ▸ List.forall₂_drop (front + 1) opens
  refine readsWhole_of_miss opens front dropped head (by simpa using outside.1) (fun offset =>
    Rule.token_of_misses missed _) ?_
  exact readsWhole_of_rule opensLater back droppedLater head (by simpa using outside.2)
    fun offset => Rule.token_of_reads own _

/-- The scan passes lexemes and the spaces between them, and then what ends the line. -/
theorem passes_spaced (spaces : PassesSpaces rules) {lexemes : List Segment}
    (reads : ∀ lexeme ∈ lexemes, lexeme.text ≠ [] ∧ ReadsSpaced rules lexeme)
    {ending : Option Segment}
    (readsEnding : ∀ last ∈ ending, last.text ≠ [] ∧ ∀ before, ReadsWhole rules last before [])
    (atSpace : AtSpace before) :
    Passes (ruleStep rules) () () before
      (Segment.characters (spaced (lexemes ++ ending.toList))) []
      (spaced (lexemes ++ ending.toList)) := by
  induction lexemes generalizing before with
  | nil =>
    cases ending with
    | none => exact .nil () before []
    | some last =>
      obtain ⟨present, whole⟩ := readsEnding last rfl
      simpa [spaced] using passes_segment present (whole before)
  | cons lexeme lexemes inductionHypothesis =>
    obtain ⟨⟨present, whole⟩, others⟩ := List.forall_mem_cons.mp reads
    rw [List.cons_append]
    cases tail : lexemes ++ ending.toList with
    | nil =>
      simpa [spaced] using passes_segment present (whole before [] atSpace (by simp [AtSpace]))
    | cons next more =>
      have split : spaced (lexeme :: next :: more) =
          [lexeme] ++ ([.plain [' ']] ++ spaced (next :: more)) := rfl
      obtain ⟨c, last⟩ : ∃ c, lexeme.text.getLast? = some c :=
        ⟨_, List.getLast?_eq_some_getLast present⟩
      -- The space passes on its own, since the rules read nothing at one behind a lexeme.
      have space : Passes (ruleStep rules) () () (lexeme.text.getLast?.or before) [' ']
          (Segment.characters (spaced (next :: more)) ++ []) [.plain [' ']] :=
        Passes.of_none fun offset => by
          rw [ruleStep, last, Option.some_or, spaces]
          rfl
      have following : Passes (ruleStep rules) () () (some ' ')
          (Segment.characters (spaced (next :: more))) [] (spaced (next :: more)) :=
        tail ▸ inductionHypothesis others (by simp [AtSpace])
      have own := whole before ([' '] ++ Segment.characters (spaced (next :: more)) ++ []) atSpace
        (by simp [AtSpace])
      rw [split]
      simpa [Segment.plain] using (passes_segment present own).append (space.append following)

/-- The tokens of a line of lexemes with spaces between them are the lexemes and the spaces. -/
theorem coverLine_spaced (spaces : PassesSpaces rules)
    (ended : Rule.firstOf rules ⟨none, 0, []⟩ = none) {lexemes : List Segment}
    (reads : ∀ lexeme ∈ lexemes, ReadsSpaced rules lexeme) {ending : Option Segment}
    (readsEnding : ∀ last ∈ ending, last.text ≠ [] ∧ ∀ before, ReadsWhole rules last before []) :
    coverLine (Segment.characters (spaced (lexemes ++ ending.toList)))
        (scanRules rules (.start (Segment.characters (spaced (lexemes ++ ending.toList))))) =
      Segment.tokens (spaced (lexemes ++ ending.toList)) := by
  have passes : Passes (ruleStep rules) () () none _ [] _ :=
    passes_spaced spaces (fun lexeme member => ⟨(reads lexeme member).ne_nil ended,
      reads lexeme member⟩) readsEnding (by simp [AtSpace])
  exact passes.tokens_eq

end Lines

end Highlight.Grammar
