import Highlight.Proofs.Neighbors

/-!
What has been read before a token. Where a token hangs on more than the character before it, the
steps of a scan keep a condition on all the segments that the scan has read so far, and from that
condition each step gives a property to what it labels.
-/

set_option autoImplicit false

namespace Highlight

open Text

namespace Segment

/-- Does a property hold of each labelled segment as a token, with all segments before it? -/
def EachAfter (Holds : List Segment → Token → Prop) : List Segment → List Segment → Prop
  | _, [] => True
  | past, segment :: segments =>
    (∀ kind ∈ segment.kind?, Holds past ⟨kind, String.ofList segment.text⟩) ∧
      EachAfter Holds (past ++ [segment]) segments

section EachAfter

variable {Holds : List Segment → Token → Prop} {past first second segments : List Segment}

theorem eachAfter_append :
    EachAfter Holds past (first ++ second) ↔
      EachAfter Holds past first ∧ EachAfter Holds (past ++ first) second := by
  induction first generalizing past with
  | nil => simp [EachAfter]
  | cons segment segments inductionHypothesis =>
    rw [List.cons_append, EachAfter, EachAfter, inductionHypothesis, and_assoc, List.append_assoc,
      List.singleton_append]

theorem eachAfter_singleton {segment : Segment} :
    EachAfter Holds past [segment] ↔
      ∀ kind ∈ segment.kind?, Holds past ⟨kind, String.ofList segment.text⟩ :=
  and_iff_left trivial

theorem eachAfter_of_forall (holds : ∀ segment ∈ segments, ∀ kind ∈ segment.kind?,
      ∀ past, Holds past ⟨kind, String.ofList segment.text⟩) : EachAfter Holds past segments := by
  induction segments generalizing past with
  | nil => trivial
  | cons segment segments inductionHypothesis =>
    obtain ⟨first, others⟩ := List.forall_mem_cons.mp holds
    exact ⟨fun kind labelled => first kind labelled past, inductionHypothesis others⟩

/-- What holds of each segment holds of each token that is no plain text, with segments before it
that make up the tokens before it. -/
theorem exists_past_of_tokens {front back : List Token} {token : Token}
    (each : EachAfter Holds [] segments) (isLabel : token.kind ≠ .text)
    (split : tokens segments = front ++ token :: back) :
    ∃ past, tokens past = front ∧ Holds past token := by
  obtain ⟨past, later, rfl, before, -⟩ := exists_split_of_tokensAfter isLabel split
  have holds := (eachAfter_append.mp each).2.1 token.kind rfl
  rw [labelled, String.ofList_toList] at holds
  exact ⟨past, before, holds⟩

end EachAfter

/-- Tokens that are gone through without regard to plain text are gone through label by label. -/
theorem foldl_tokensAfter {State : Type} {next : State → Token → State}
    (ignores : ∀ state token, token.kind = .text → next state token = state) (state : State)
    (gap : List Char) (segments : List Segment) :
    (tokensAfter gap segments).foldl next state = (labels segments).foldl next state := by
  have pushed : ∀ gap state, (Cover.push .text gap []).foldl next state = state := by
    intro gap state
    by_cases present : gap = []
    · simp [present]
    · simp [Cover.push_of_ne_nil present, ignores]
  induction segments generalizing gap state with
  | nil => exact pushed gap state
  | cons segment segments inductionHypothesis =>
    obtain ⟨kind?, text⟩ := segment
    cases kind? with
    | none => simpa [tokensAfter, labels] using inductionHypothesis state (gap ++ text)
    | some kind =>
      by_cases empty : text = []
      · simpa [tokensAfter, labels, empty] using inductionHypothesis state gap
      · rw [tokensAfter, if_neg empty, List.foldl_append, pushed, List.foldl_cons,
          inductionHypothesis]
        simp [labels, empty]

end Segment

/-! ## Scans -/

section Scans

variable {State : Type}

/-- What each step of a scan does: it takes up no more than there is, it keeps a condition on the
state, on what has been read and on the text behind it, and what it labels has a property for what
has been read before it. -/
structure ScanHistory (step : State → Place → Option (List Piece × State))
    (AtPlace : State → List Segment → List Char → Prop)
    (Holds : List Segment → Token → Prop) : Prop where
  fits : ∀ {state place pieces next}, step state place = some (pieces, next) →
    Piece.total pieces ≤ place.rest.length
  passes : ∀ {state past offset c rest}, AtPlace state past (c :: rest) →
    step state ⟨(Segment.characters past).getLast?, offset, c :: rest⟩ = none →
      AtPlace state (past ++ [.plain [c]]) rest
  reads : ∀ {state next past offset segments rest},
    AtPlace state past (Segment.characters segments ++ rest) →
    step state ⟨(Segment.characters past).getLast?, offset, Segment.characters segments ++ rest⟩ =
      some (segments.map Segment.piece, next) →
    Segment.characters segments ≠ [] ∧ AtPlace next (past ++ segments) rest ∧
      Segment.EachAfter Holds past segments

variable {step : State → Place → Option (List Piece × State)}
  {AtPlace : State → List Segment → List Char → Prop} {Holds : List Segment → Token → Prop}

/-- What each step gives holds along the whole scan. -/
theorem ScanHistory.each (history : ScanHistory step AtPlace Holds) (state : State)
    (place : Place) {past : List Segment}
    (continues : place.before = (Segment.characters past).getLast?)
    (atPlace : AtPlace state past place.rest) :
    Segment.EachAfter Holds past (segmentsFrom step state place) := by
  fun_induction segmentsFrom step state place generalizing past with
  | case1 => trivial
  | case2 state place c rest present nothing inductionHypothesis =>
    obtain ⟨before, offset, text⟩ := place
    obtain rfl : text = c :: rest := present
    obtain rfl : before = (Segment.characters past).getLast? := continues
    refine ⟨fun kind labelled => absurd labelled (by simp [Segment.plain]), ?_⟩
    apply inductionHypothesis
    · simp [Place.forward, Segment.plain]
    · exact history.passes atPlace nothing
  | case3 state place c rest present pieces next read inductionHypothesis =>
    obtain ⟨before, offset, text⟩ := place
    obtain ⟨segments, left, split, rfl⟩ := Piece.exists_segments (history.fits read)
    obtain rfl : text = Segment.characters segments ++ left := split
    obtain rfl : before = (Segment.characters past).getLast? := continues
    obtain ⟨advances, later, holds⟩ := history.reads atPlace read
    have positive : 0 < (Segment.characters segments).length := List.length_pos_iff.mpr advances
    rw [Segment.total_map_piece] at inductionHypothesis ⊢
    rw [Nat.max_eq_right positive, Place.forward_append] at inductionHypothesis ⊢
    rw [Segment.segments_map_piece, if_neg (Nat.ne_of_gt positive), List.nil_append,
      Segment.eachAfter_append]
    refine ⟨holds, inductionHypothesis ?_ later⟩
    rw [Segment.characters_append, List.getLast?_append]

/-- What each step gives holds of each token of a line that is no plain text. -/
theorem ScanHistory.holds (history : ScanHistory step AtPlace Holds) {state : State}
    {line : List Char} (atStart : AtPlace state [] line) {front back : List Token} {token : Token}
    (isLabel : token.kind ≠ .text)
    (split : coverLine line (scanFrom step state (.start line)) = front ++ token :: back) :
    ∃ past, Segment.tokens past = front ∧ Holds past token := by
  rw [coverLine_scanFrom] at split
  exact Segment.exists_past_of_tokens (history.each state (.start line) rfl atStart) isLabel split

/-- A scan by rules, of which the first that reads something makes the step. -/
theorem ScanHistory.of_rules {rules : List Rule} {AtPlace : List Segment → List Char → Prop}
    (fits : ∀ rule ∈ rules, rule.Fits)
    (advances : ∀ rule ∈ rules, rule.Advances)
    (passes : ∀ {past offset c rest}, AtPlace past (c :: rest) →
      Rule.firstOf rules ⟨(Segment.characters past).getLast?, offset, c :: rest⟩ = none →
        AtPlace (past ++ [.plain [c]]) rest)
    (reads : ∀ {past offset segments rest}, AtPlace past (Segment.characters segments ++ rest) →
      (Rule.firstOf rules).Reads (Segment.characters past).getLast? offset segments rest →
      AtPlace (past ++ segments) rest ∧ Segment.EachAfter Holds past segments) :
    ScanHistory (Grammar.ruleStep rules) (fun _ => AtPlace) Holds where
  fits := by
    intro state place pieces next read
    obtain ⟨own, ownRead, same⟩ := Option.map_eq_some_iff.mp read
    obtain ⟨rfl, -⟩ := Prod.mk.inj same
    exact Rule.fits_firstOf fits place own ownRead
  passes atPlace nothing := passes atPlace (Option.map_eq_none_iff.mp nothing)
  reads := by
    intro state next past offset segments rest atPlace read
    obtain ⟨own, ownRead, same⟩ := Option.map_eq_some_iff.mp read
    obtain ⟨rfl, -⟩ := Prod.mk.inj same
    have first : (Rule.firstOf rules).Reads _ offset segments rest := ownRead
    obtain ⟨rule, listed, ruleRead⟩ := first.of_firstOf
    exact ⟨advances rule listed ruleRead, reads atPlace first⟩

end Scans

end Highlight
