import Highlight.Proofs.CharSets
import Highlight.Proofs.Grammar.Joined
import Highlight.Tokenize

/-!
Generated secrets. Each character belongs to just one of four classes, and a line is cut into its
longest runs of characters of one class.
-/

set_option autoImplicit false

namespace Highlight

open Text

namespace Grammar.CharacterRuns

/-! ## Classes -/

def kinds : List TokenKind :=
  [.digit, .uppercase, .lowercase, .symbol]

def belongs : TokenKind → Char → Bool
  | .digit => Char.isDigit
  | .uppercase => isUppercase
  | .lowercase => isLowercase
  | .symbol => isSymbol
  | _ => fun _ => false

/-- The kind of the runs with a character. -/
def kindOf (c : Char) : TokenKind :=
  if c.isDigit then .digit
  else if isUppercase c then .uppercase
  else if isLowercase c then .lowercase
  else .symbol

theorem rules_eq : rules = kinds.map fun kind => .token kind (.run (belongs kind)) := rfl

theorem kindOf_mem_kinds (c : Char) : kindOf c ∈ kinds := by
  unfold kindOf
  split_ifs <;> decide

theorem belongs_kindOf (c : Char) : belongs (kindOf c) c := by
  by_cases digit : c.isDigit
  · simp [kindOf, digit, belongs]
  by_cases upper : isUppercase c
  · simp [kindOf, digit, upper, belongs]
  by_cases lower : isLowercase c
  · simp [kindOf, digit, upper, lower, belongs]
  · simp [kindOf, digit, upper, lower, belongs, isSymbol]

theorem isDigit_of_letter {c : Char} (letter : isUppercase c ∨ isLowercase c) :
    c.isDigit = false := by
  rw [← Bool.not_eq_true]
  intro digit
  have apart := holds_of_isAscii (isAscii_of_isDigit digit)
    (fun d => !(d.isDigit && (isUppercase d || isLowercase d))) (by decide +kernel)
  obtain ⟨notUpper, notLower⟩ : isUppercase c = false ∧ isLowercase c = false := by
    simpa [digit] using apart
  simp [notUpper, notLower] at letter

/-- A character belongs to no class but its own. -/
theorem kindOf_of_belongs {kind : TokenKind} (listed : kind ∈ kinds) {c : Char}
    (member : belongs kind c) : kindOf c = kind := by
  simp only [kinds, List.mem_cons, List.not_mem_nil, or_false] at listed
  rcases listed with rfl | rfl | rfl | rfl
  · exact if_pos member
  · have digit := isDigit_of_letter (.inl member)
    have upper : isUppercase c := member
    simp [kindOf, digit, upper]
  · have digit := isDigit_of_letter (.inr member)
    have upper : isUppercase c = false := by
      rw [← Bool.not_eq_true]
      intro upper
      have lower : isLowercase c := member
      simp [isLowercase_of_isUppercase upper] at lower
    have lower : isLowercase c := member
    simp [kindOf, digit, upper, lower]
  · have symbol : isSymbol c := member
    simp only [isSymbol, Bool.and_eq_true, Bool.not_eq_true'] at symbol
    simp [kindOf, symbol]

theorem stops_of_other {kind other : TokenKind} (listed : kind ∈ kinds)
    (otherListed : other ∈ kinds) (different : kind ≠ other) {text : List Char}
    (present : text ≠ []) (uniform : ∀ c ∈ text, belongs kind c) (rest : List Char) :
    Lexeme.Stops (belongs other) (text ++ rest) := by
  intro c head
  have inside : c ∈ text :=
    List.mem_of_mem_head? (by rwa [List.head?_append_of_ne_nil _ present] at head)
  have own := kindOf_of_belongs listed (uniform c inside)
  rw [← Bool.not_eq_true]
  exact fun member => different (own.symm.trans (kindOf_of_belongs otherListed member))

/-! ## Runs -/

/-- Tokens that are runs of characters of one class each, as long as they can be. -/
structure AreRuns (tokens : List Token) : Prop where
  classified : ∀ token ∈ tokens, token.kind ∈ kinds
  nonempty : ∀ token ∈ tokens, token.text ≠ ""
  uniform : ∀ token ∈ tokens, ∀ c ∈ token.text.toList, belongs token.kind c
  longest : tokens.IsChain (·.kind ≠ ·.kind)

namespace AreRuns

variable {token : Token} {tokens : List Token}

theorem nil : AreRuns [] where
  classified := by simp
  nonempty := by simp
  uniform := by simp
  longest := .nil

theorem tail (runs : AreRuns (token :: tokens)) : AreRuns tokens where
  classified := fun later listed => runs.classified later (List.mem_cons_of_mem token listed)
  nonempty := fun later listed => runs.nonempty later (List.mem_cons_of_mem token listed)
  uniform := fun later listed => runs.uniform later (List.mem_cons_of_mem token listed)
  longest := runs.longest.tail

theorem cons (classified : token.kind ∈ kinds) (nonempty : token.text ≠ "")
    (uniform : ∀ c ∈ token.text.toList, belongs token.kind c)
    (ends : ∀ next ∈ tokens.head?, token.kind ≠ next.kind) (runs : AreRuns tokens) :
    AreRuns (token :: tokens) where
  classified := List.forall_mem_cons.mpr ⟨classified, runs.classified⟩
  nonempty := List.forall_mem_cons.mpr ⟨nonempty, runs.nonempty⟩
  uniform := List.forall_mem_cons.mpr ⟨uniform, runs.uniform⟩
  longest := List.isChain_cons.mpr ⟨ends, runs.longest⟩

/-- Behind a run stands no character of its class. -/
theorem stops (runs : AreRuns (token :: tokens)) :
    Lexeme.Stops (belongs token.kind) (characters tokens) := by
  cases tokens with
  | nil => simp [Lexeme.Stops]
  | cons next others =>
    have present := mt String.toList_eq_nil_iff.mp (runs.nonempty next (by simp))
    have different := (List.isChain_cons_cons.mp runs.longest).1
    exact stops_of_other (runs.classified next (by simp)) (runs.classified token (by simp))
      different.symm present (runs.uniform next (by simp)) _

theorem exists_of_characters (text : List Char) :
    ∃ tokens, AreRuns tokens ∧ characters tokens = text := by
  induction text with
  | nil => exact ⟨[], nil, rfl⟩
  | cons c text inductionHypothesis =>
    obtain ⟨tokens, runs, spelled⟩ := inductionHypothesis
    -- The character either opens a run of its own or lengthens the first one.
    by_cases ends : ∀ next ∈ tokens.head?, kindOf c ≠ next.kind
    · have single : ∀ d ∈ (String.ofList [c]).toList, belongs (kindOf c) d := by
        simpa using belongs_kindOf c
      refine ⟨⟨kindOf c, String.ofList [c]⟩ :: tokens, ?_, by simp [spelled]⟩
      exact cons (kindOf_mem_kinds c) (by simp) single ends runs
    · cases tokens with
      | nil => simp at ends
      | cons first others =>
        have same : kindOf c = first.kind := by simpa using ends
        have longer : ∀ d ∈ (String.ofList (c :: first.text.toList)).toList,
            belongs first.kind d := by
          rw [String.toList_ofList]
          refine List.forall_mem_cons.mpr ⟨?_, runs.uniform first (by simp)⟩
          rw [← same]
          exact belongs_kindOf c
        have behind : ∀ next ∈ others.head?, first.kind ≠ next.kind :=
          (List.isChain_cons.mp runs.longest).1
        refine ⟨⟨first.kind, String.ofList (c :: first.text.toList)⟩ :: others, ?_, ?_⟩
        · exact cons (runs.classified first (by simp)) (by simp) longer behind runs.tail
        · simpa using spelled

end AreRuns

/-! ## The scan -/

/-- The first rule that reads anything is the one for the class of the next character. -/
theorem firstOf_runs {listed : List TokenKind} (known : listed ⊆ kinds) {kind : TokenKind}
    (member : kind ∈ listed) {text rest : List Char} (present : text ≠ [])
    (uniform : ∀ c ∈ text, belongs kind c) (stops : Lexeme.Stops (belongs kind) rest)
    (before : Option Char) (offset : Nat) :
    Rule.firstOf (listed.map fun kind => .token kind (.run (belongs kind)))
      ⟨before, offset, text ++ rest⟩ = some [.labelled kind text.length] := by
  induction listed with
  | nil => contradiction
  | cons first others inductionHypothesis =>
    obtain ⟨firstKnown, othersKnown⟩ := List.cons_subset.mp known
    by_cases same : first = kind
    · subst same
      have reads := Lexeme.reads_run present uniform stops
      exact Rule.firstOf_cons_of_some (Rule.token_of_reads reads first)
    · have later : kind ∈ others := (List.mem_cons.mp member).resolve_left (Ne.symm same)
      have outside : Lexeme.Stops (belongs first) (text ++ rest) :=
        stops_of_other (known member) firstKnown (Ne.symm same) present uniform rest
      have missed : Rule.token first (.run (belongs first)) ⟨before, offset, text ++ rest⟩ = none :=
        Rule.token_of_misses (Lexeme.misses_run outside) first
      rw [List.map_cons, Rule.firstOf_cons_of_none missed]
      exact inductionHypothesis othersKnown later

/-- The labelled segments that tokens are. -/
def segmentsOf (tokens : List Token) : List Segment :=
  tokens.map fun token => .labelled token.kind token.text.toList

theorem tokens_segmentsOf {tokens : List Token} (nonempty : ∀ token ∈ tokens, token.text ≠ "") :
    Segment.tokens (segmentsOf tokens) = tokens := by
  induction tokens with
  | nil => rfl
  | cons token tokens inductionHypothesis =>
    obtain ⟨own, others⟩ := List.forall_mem_cons.mp nonempty
    have present := mt String.toList_eq_nil_iff.mp own
    calc Segment.tokens (segmentsOf (token :: tokens))
        = ⟨token.kind, String.ofList token.text.toList⟩ :: Segment.tokens (segmentsOf tokens) :=
          Segment.tokens_append_labelled [] (segmentsOf tokens) present
      _ = token :: tokens := by rw [inductionHypothesis others, String.ofList_toList]

theorem passes_runs {tokens : List Token} (runs : AreRuns tokens) (before : Option Char) :
    Passes (ruleStep rules) () () before (characters tokens) [] (segmentsOf tokens) := by
  induction tokens generalizing before with
  | nil => exact .nil () before []
  | cons token tokens inductionHypothesis =>
    have present := mt String.toList_eq_nil_iff.mp (runs.nonempty token (by simp))
    have reads : ReadsWhole rules (.labelled token.kind token.text.toList) before
        (characters tokens ++ []) := by
      intro offset
      rw [List.append_nil, rules_eq]
      exact firstOf_runs (List.Subset.refl kinds) (runs.classified token (by simp)) present
        (runs.uniform token (by simp)) runs.stops before offset
    exact (passes_segment present reads).append (inductionHypothesis runs.tail _)

/-- A line is cut into runs and into nothing else. -/
theorem areRuns_tokenize (line : String) : AreRuns (tokenize .randomString line) := by
  obtain ⟨tokens, runs, spelled⟩ := AreRuns.exists_of_characters line.toList
  have read : tokenize .randomString line = tokens := by
    change coverLine line.toList (spans line.toList) = tokens
    rw [← spelled]
    exact (passes_runs runs none).tokens_eq.trans (tokens_segmentsOf runs.nonempty)
  rw [read]
  exact runs

end Grammar.CharacterRuns

open Grammar.CharacterRuns in
/-- The tokens of a generated secret are its longest runs, and nothing else is. -/
theorem tokenize_runs_iff (line : String) (tokens : List Token) :
    tokenize .randomString line = tokens ↔ joinText tokens = line ∧ AreRuns tokens := by
  have scanned : ∀ tokens, AreRuns tokens →
      coverLine (characters tokens) (spans (characters tokens)) = tokens := by
    intro tokens runs
    exact (passes_runs runs none).tokens_eq.trans (tokens_segmentsOf runs.nonempty)
  constructor
  · rintro rfl
    obtain ⟨tokens, runs, spelled⟩ := AreRuns.exists_of_characters line.toList
    have read : tokenize .randomString line = tokens := by
      have whole := scanned tokens runs
      rwa [spelled] at whole
    rw [read, ← String.toList_inj, toList_joinText]
    exact ⟨spelled, runs⟩
  · rintro ⟨joined, runs⟩
    have whole := scanned tokens runs
    rwa [← toList_joinText, joined] at whole

end Highlight
