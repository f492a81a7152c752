import Highlight.Proofs.Grammar.Joined
import Highlight.Proofs.Readings

/-!
What stands around a token. A property of tokens that looks at the character before a token and at
the tokens behind it is shown segment by segment, and for a scan step by step: each step keeps a
condition on the places that the scan comes to, and gives the property to what it reads.
-/

set_option autoImplicit false

namespace Highlight

open Text

namespace Segment

theorem characters_push_text (gap : List Char) :
    Highlight.characters (Cover.push .text gap []) = gap := by
  have pushed := Cover.characters_push .text gap []
  rw [Cover.reverse_push] at pushed
  simpa using pushed

theorem characters_tokensAfter (segments : List Segment) (gap : List Char) :
    Highlight.characters (tokensAfter gap segments) = gap ++ characters segments := by
  induction segments generalizing gap with
  | nil => simpa [tokensAfter] using characters_push_text gap
  | cons segment segments inductionHypothesis =>
    obtain ⟨kind?, text⟩ := segment
    cases kind? with
    | none => simp [tokensAfter, inductionHypothesis]
    | some kind =>
      by_cases empty : text = []
      · simp [tokensAfter, empty, inductionHypothesis]
      · simp [tokensAfter, empty, characters_push_text, inductionHypothesis]

theorem characters_tokens (segments : List Segment) :
    Highlight.characters (tokens segments) = characters segments := by
  simpa [tokens] using characters_tokensAfter segments []

/-- Does a property hold of each labelled segment as a token, with the character before it and the
tokens behind it? -/
def Each (Holds : Option Char → Token → List Token → Prop) : Option Char → List Segment → Prop
  | _, [] => True
  | before, segment :: segments =>
    (∀ kind ∈ segment.kind?, Holds before ⟨kind, String.ofList segment.text⟩ (tokens segments)) ∧
      Each Holds (segment.text.getLast?.or before) segments

section Each

variable {Holds : Option Char → Token → List Token → Prop} {before : Option Char}
  {first second segments : List Segment} {text : List Char}

theorem each_plain_cons (text : List Char) :
    Each Holds before (.plain text :: segments) ↔
      Each Holds (text.getLast?.or before) segments := by
  simp [Each, plain]

theorem each_labelled_cons (kind : TokenKind) (text : List Char) :
    Each Holds before (.labelled kind text :: segments) ↔
      Holds before ⟨kind, String.ofList text⟩ (tokens segments) ∧
        Each Holds (text.getLast?.or before) segments := by
  simp [Each, labelled]

/-- A property that does not look at the neighbors holds in front of any segments. -/
theorem each_append
    (own : ∀ segment ∈ first, ∀ kind ∈ segment.kind?, ∀ before behind,
      Holds before ⟨kind, String.ofList segment.text⟩ behind)
    (others : Each Holds ((characters first).getLast?.or before) second) :
    Each Holds before (first ++ second) := by
  induction first generalizing before with
  | nil => exact others
  | cons segment segments inductionHypothesis =>
    obtain ⟨head, tail⟩ := List.forall_mem_cons.mp own
    refine ⟨fun kind labelled => head kind labelled _ _, ?_⟩
    apply inductionHypothesis tail
    rwa [characters_cons, List.getLast?_append, Option.or_assoc] at others

/-- What holds of each segment whatever stands around it. -/
theorem forall_of_each {Own : Token → Prop}
    (each : Each (fun _ token _ => Own token) before segments) :
    ∀ segment ∈ segments, ∀ kind ∈ segment.kind?, Own ⟨kind, String.ofList segment.text⟩ := by
  induction segments generalizing before with
  | nil => exact List.forall_mem_nil _
  | cons segment segments inductionHypothesis =>
    obtain ⟨own, others⟩ := each
    exact List.forall_mem_cons.mpr ⟨own, inductionHypothesis others⟩

/-- What holds of each segment at the start of a line holds of each one behind a character that
makes no difference to it. -/
theorem Each.behind (each : Each Holds none segments)
    (same : ∀ token behind, Holds none token behind → Holds before token behind) :
    Each Holds before segments := by
  induction segments with
  | nil => trivial
  | cons segment segments inductionHypothesis =>
    obtain ⟨own, others⟩ := each
    refine ⟨fun kind labelled => same _ _ (own kind labelled), ?_⟩
    cases last : segment.text.getLast? with
    | none =>
      rw [last] at others
      exact inductionHypothesis others
    | some c => rwa [last] at others

/-- A token that is no plain text lies behind the plain text that comes first. -/
theorem exists_of_push_append {gap : List Char} {others front back : List Token} {token : Token}
    (isLabel : token.kind ≠ .text)
    (split : Cover.push .text gap [] ++ others = front ++ token :: back) :
    ∃ left, front = Cover.push .text gap [] ++ left ∧ others = left ++ token :: back := by
  by_cases present : gap = []
  · subst present
    exact ⟨front, rfl, split⟩
  · rw [Cover.push_of_ne_nil present] at split ⊢
    cases front with
    | nil =>
      obtain ⟨rfl, -⟩ := List.cons.inj split
      exact absurd rfl isLabel
    | cons first left =>
      obtain ⟨rfl, tail⟩ := List.cons.inj split
      exact ⟨left, rfl, tail⟩

/-- What holds of each segment in front of some others holds of each one among the others. -/
theorem Each.right (each : Each Holds before (first ++ second)) :
    Each Holds ((characters first).getLast?.or before) second := by
  induction first generalizing before with
  | nil => exact each
  | cons segment segments inductionHypothesis =>
    rw [characters_cons, List.getLast?_append, Option.or_assoc]
    exact inductionHypothesis each.2

/-- A labelled segment comes right behind the plain text before it. -/
theorem tokens_plain_labelled {kind : TokenKind} (gap : List Char) (others : List Segment)
    (present : text ≠ []) :
    tokens (.plain gap :: .labelled kind text :: others) =
      Cover.push .text gap [] ++ ⟨kind, String.ofList text⟩ :: tokens others := by
  simp [tokens, tokensAfter, plain, labelled, present]

/-- A token that is no plain text is a labelled segment, and the tokens before and behind it are
those of the segments before and behind. -/
theorem exists_split_of_tokensAfter {gap : List Char} {front back : List Token} {token : Token}
    (isLabel : token.kind ≠ .text) (split : tokensAfter gap segments = front ++ token :: back) :
    ∃ past later, segments = past ++ .labelled token.kind token.text.toList :: later ∧
      tokensAfter gap past = front ∧ tokens later = back := by
  induction segments generalizing gap front with
  | nil =>
    rw [tokensAfter, ← List.append_nil (Cover.push _ _ _)] at split
    obtain ⟨left, -, nothing⟩ := exists_of_push_append isLabel split
    simp at nothing
  | cons segment segments inductionHypothesis =>
    obtain ⟨kind?, text⟩ := segment
    cases kind? with
    | none =>
      obtain ⟨past, later, rfl, before, behind⟩ := inductionHypothesis split
      exact ⟨⟨none, text⟩ :: past, later, rfl, before, behind⟩
    | some kind =>
      by_cases empty : text = []
      · subst empty
        have others : tokensAfter gap segments = front ++ token :: back := by
          simpa [tokensAfter] using split
        obtain ⟨past, later, rfl, before, behind⟩ := inductionHypothesis others
        exact ⟨⟨some kind, []⟩ :: past, later, rfl, by simpa [tokensAfter] using before, behind⟩
      · rw [tokensAfter, if_neg empty] at split
        obtain ⟨left, rfl, tail⟩ := exists_of_push_append isLabel split
        cases left with
        | nil =>
          obtain ⟨rfl, rfl⟩ := List.cons.inj tail
          exact ⟨[], segments, by simp [labelled], by simp [tokensAfter], rfl⟩
        | cons first left =>
          obtain ⟨rfl, others⟩ := List.cons.inj tail
          obtain ⟨past, later, rfl, before, behind⟩ := inductionHypothesis others
          exact ⟨⟨some kind, text⟩ :: past, later, rfl, by simp [tokensAfter, empty, before],
            behind⟩

/-- What holds of each segment holds of each token that is no plain text. -/
theorem holds_of_tokens {front back : List Token} {token : Token}
    (each : Each Holds none segments) (isLabel : token.kind ≠ .text)
    (split : tokens segments = front ++ token :: back) :
    Holds (Highlight.characters front).getLast? token back := by
  obtain ⟨past, later, rfl, rfl, rfl⟩ := exists_split_of_tokensAfter isLabel split
  have holds := (each_labelled_cons _ _).mp each.right
  rw [String.ofList_toList, Option.or_none, ← characters_tokens] at holds
  exact holds.1

end Each

end Segment

/-! ## Scans -/

section Scans

variable {State : Type}

/-- What each step of a scan does: it takes up no more than there is, it keeps a condition on the
state, on the character before the scan and on the text behind it, and what it reads has a
property for each continuation that has it. -/
structure ScanInvariant (step : State → Place → Option (List Piece × State))
    (AtPlace : State → Option Char → List Char → Prop)
    (Holds : Option Char → Token → List Token → Prop) : Prop where
  fits : ∀ {state place pieces next}, step state place = some (pieces, next) →
    Piece.total pieces ≤ place.rest.length
  passes : ∀ {state before offset c rest}, AtPlace state before (c :: rest) →
    step state ⟨before, offset, c :: rest⟩ = none → AtPlace state (some c) rest
  reads : ∀ {state next before offset segments rest},
    AtPlace state before (Segment.characters segments ++ rest) →
    step state ⟨before, offset, Segment.characters segments ++ rest⟩ =
      some (segments.map Segment.piece, next) →
    Segment.characters segments ≠ [] ∧
      AtPlace next ((Segment.characters segments).getLast?.or before) rest ∧
      ∀ tail, Segment.characters tail = rest →
        Segment.Each Holds ((Segment.characters segments).getLast?.or before) tail →
          Segment.Each Holds before (segments ++ tail)

variable {step : State → Place → Option (List Piece × State)}
  {AtPlace : State → Option Char → List Char → Prop}
  {Holds : Option Char → Token → List Token → Prop}

/-- What each step gives holds along the whole scan. -/
theorem ScanInvariant.each (invariant : ScanInvariant step AtPlace Holds) (state : State)
    (place : Place) (atPlace : AtPlace state place.before place.rest) :
    Segment.Each Holds place.before (segmentsFrom step state place) := by
  fun_induction segmentsFrom step state place with
  | case1 => trivial
  | case2 state place c rest present nothing inductionHypothesis =>
    obtain ⟨before, offset, text⟩ := place
    obtain rfl : text = c :: rest := present
    rw [Segment.each_plain_cons]
    exact inductionHypothesis (invariant.passes atPlace nothing)
  | case3 state place c rest present pieces next read inductionHypothesis =>
    obtain ⟨before, offset, text⟩ := place
    obtain ⟨segments, left, split, rfl⟩ := Piece.exists_segments (invariant.fits read)
    obtain rfl : text = Segment.characters segments ++ left := split
    obtain ⟨advances, later, holds⟩ := invariant.reads atPlace read
    have positive : 0 < (Segment.characters segments).length := List.length_pos_iff.mpr advances
    rw [Segment.total_map_piece] at inductionHypothesis ⊢
    rw [Nat.max_eq_right positive, Place.forward_append] at inductionHypothesis ⊢
    rw [Segment.segments_map_piece, if_neg (Nat.ne_of_gt positive), List.nil_append]
    exact holds _ (characters_segmentsFrom step next _) (inductionHypothesis later)

/-- What each step gives holds of each token of a line that is no plain text. -/
theorem ScanInvariant.holds (invariant : ScanInvariant step AtPlace Holds) (state : State)
    {line : List Char} (atStart : AtPlace state none line) {front back : List Token} {token : Token}
    (isLabel : token.kind ≠ .text)
    (split : coverLine line (scanFrom step state (.start line)) = front ++ token :: back) :
    Holds (characters front).getLast? token back := by
  rw [coverLine_scanFrom] at split
  exact Segment.holds_of_tokens (invariant.each state (.start line) atStart) isLabel split

/-- A scan by rules, of which the first that reads something makes the step. -/
theorem ScanInvariant.of_rules {rules : List Rule} {AtPlace : Option Char → List Char → Prop}
    (fits : ∀ rule ∈ rules, rule.Fits)
    (advances : ∀ rule ∈ rules, rule.Advances)
    (passes : ∀ {before offset c rest}, AtPlace before (c :: rest) →
      Rule.firstOf rules ⟨before, offset, c :: rest⟩ = none → AtPlace (some c) rest)
    (reads : ∀ {before offset segments rest},
      AtPlace before (Segment.characters segments ++ rest) →
      (Rule.firstOf rules).Reads before offset segments rest →
      AtPlace ((Segment.characters segments).getLast?.or before) rest ∧
        ∀ tail, Segment.characters tail = rest →
          Segment.Each Holds ((Segment.characters segments).getLast?.or before) tail →
            Segment.Each Holds before (segments ++ tail)) :
    ScanInvariant (Grammar.ruleStep rules) (fun _ => AtPlace) Holds where
  fits := by
    intro state place pieces next read
    obtain ⟨own, ownRead, same⟩ := Option.map_eq_some_iff.mp read
    obtain ⟨rfl, -⟩ := Prod.mk.inj same
    exact Rule.fits_firstOf fits place own ownRead
  passes atPlace nothing := passes atPlace (Option.map_eq_none_iff.mp nothing)
  reads := by
    intro state next before offset segments rest atPlace read
    obtain ⟨own, ownRead, same⟩ := Option.map_eq_some_iff.mp read
    obtain ⟨rfl, -⟩ := Prod.mk.inj same
    have first : (Rule.firstOf rules).Reads before offset segments rest := ownRead
    obtain ⟨rule, listed, ruleRead⟩ := first.of_firstOf
    exact ⟨advances rule listed ruleRead, reads atPlace first⟩

end Scans

/-! ## Colons -/

/-- Is a colon the next token, or the one behind plain text of a class? -/
inductive ColonFollows (isMember : Char → Bool) : List Token → Prop
  | next (others : List Token) : ColonFollows isMember (⟨.punctuation, ":"⟩ :: others)
  | beyond {gap : String} (members : ∀ c ∈ gap.toList, isMember c) (others : List Token) :
      ColonFollows isMember (⟨.text, gap⟩ :: ⟨.punctuation, ":"⟩ :: others)

theorem colonFollows_tokens {isMember : Char → Bool} {gap : List Char}
    (members : ∀ c ∈ gap, isMember c) (others : List Segment) :
    ColonFollows isMember
      (Segment.tokens (.plain gap :: .labelled .punctuation [':'] :: others)) := by
  rw [Segment.tokens_plain_labelled gap others (by simp)]
  by_cases present : gap = []
  · subst present
    exact .next _
  · rw [Cover.push_of_ne_nil present]
    exact .beyond (by simpa using members) _

end Highlight
