import Mathlib.Logic.Relation
import Highlight.Proofs.Grammar.Scalars

/-!
Node properties in front of the values of YAML: anchors, aliases and tags. A value that opens with
one is read again from the next text behind it, so that one call of the reader leads to another.
The calls get shorter, and each reads a slice of the line; behind a chain of properties a value has
the tokens that it has on its own.
-/

set_option autoImplicit false

namespace Highlight

open Text

namespace Grammar.Yaml

/-! ## Properties -/

/-- Is a text a node property of a kind? Only a tag may be its mark alone. -/
inductive IsProperty : TokenKind → List Char → Prop
  | named {mark : Char} {name : List Char} : mark ∈ ['&', '*'] → name ≠ [] →
      (∀ c ∈ name, isBlank c = false ∧ c ∉ [',', '[', ']', '{', '}']) →
      IsProperty .variable (mark :: name)
  | tag {name : List Char} : (∀ c ∈ name, isBlank c = false) → IsProperty .tag ('!' :: name)

/-- A node property and the blanks behind it. -/
structure Property where
  kind : TokenKind
  text : List Char
  blanks : List Char

namespace Property

structure WellFormed (property : Property) : Prop where
  isProperty : IsProperty property.kind property.text
  separated : property.blanks ≠ []
  blank : ∀ c ∈ property.blanks, isBlank c

def token (property : Property) : Token :=
  ⟨property.kind, String.ofList property.text⟩

def segments (property : Property) : List Segment :=
  [.labelled property.kind property.text, .plain property.blanks]

end Property

/-- The segments of properties in a row. -/
def chain (properties : List Property) : List Segment :=
  properties.flatMap Property.segments

section Properties

variable {kind : TokenKind} {text rest : List Char}

theorem IsProperty.opens (isProperty : IsProperty kind text) :
    ∃ mark name, text = mark :: name ∧ mark ∈ ['&', '*', '!'] ∧ ∀ c ∈ name, isBlank c = false := by
  cases isProperty with
  | named isMark _ clear =>
    exact ⟨_, _, rfl, List.mem_append_left ['!'] isMark, fun c member => (clear c member).1⟩
  | tag clear => exact ⟨_, _, rfl, by simp, clear⟩

theorem isBlank_of_mark {mark : Char} (isMark : mark ∈ ['&', '*', '!']) : isBlank mark = false := by
  have marks : ∀ c ∈ ['&', '*', '!'], isBlank c = false := forall_mem_of_all (by decide)
  exact marks mark isMark

/-- A property has no blanks inside and is no comment. -/
theorem IsProperty.clear (isProperty : IsProperty kind text) :
    (∀ c ∈ text, isBlank c = false) ∧ text.head? ≠ some '#' := by
  obtain ⟨mark, name, rfl, isMark, clear⟩ := isProperty.opens
  refine ⟨List.forall_mem_cons.mpr ⟨isBlank_of_mark isMark, clear⟩, ?_⟩
  rintro same
  obtain rfl : mark = '#' := by simpa using same
  contradiction

theorem isProperty_of_property? {first : Char} {count : Nat}
    (found : property? first rest = some (kind, count)) :
    IsProperty kind (first :: rest.take count) := by
  unfold property? at found
  dsimp only at found
  split at found
  · next isMark =>
    split at found
    · contradiction
    · next named =>
      obtain ⟨rfl, rfl⟩ := Prod.mk.inj (Option.some.inj found)
      rw [← List.prefix_iff_eq_take.mp (List.takeWhile_prefix _)]
      refine .named (by simpa using isMark) (by simpa using named) fun c member => ?_
      have passed := List.mem_takeWhile_imp member
      simpa [isNoneOf] using passed
  split at found
  · next isMark =>
    obtain ⟨rfl, rfl⟩ := Prod.mk.inj (Option.some.inj found)
    obtain rfl : first = '!' := by simpa using isMark
    rw [← List.prefix_iff_eq_take.mp (List.takeWhile_prefix _)]
    exact .tag fun c member => by simpa using List.mem_takeWhile_imp member
  · contradiction

/-- A property ends before the next blank. -/
theorem property?_of_isProperty {mark : Char} {name : List Char}
    (isProperty : IsProperty kind (mark :: name)) (ends : ∀ c ∈ rest.head?, isBlank c) :
    property? mark (name ++ rest) = some (kind, name.length) := by
  have taken {isMember : Char → Bool} (members : ∀ c ∈ name, isMember c)
      (excludes : ∀ c, isBlank c → isMember c = false) :
      (name ++ rest).takeWhile isMember = name := by
    rw [List.takeWhile_append_of_pos members]
    cases rest with
    | nil => simp
    | cons c rest => simp [excludes c (ends c rfl)]
  cases isProperty with
  | named isMark named clear =>
    have isVariable : (mark == '&' || mark == '*') = true := by simpa using isMark
    have own := @taken (fun c => !isBlank c && isNoneOf [',', '[', ']', '{', '}'] c)
      (fun c member => by simpa [isNoneOf] using clear c member) (fun c blank => by simp [blank])
    simp only [property?, isVariable, own, ↓reduceIte]
    simp [named]
  | tag clear =>
    have own := @taken (!isBlank ·) (fun c member => by simpa using clear c member)
      (fun c blank => by simp [blank])
    simp [property?, own]

/-- No value that opens with a property has one kind. -/
theorem wholeKind?_of_mark {mark : Char} (isMark : mark ∈ ['&', '*', '!']) (rest : List Char) :
    wholeKind? (mark :: rest) = none := by
  have noScalar := scalarKind?_of_mark (List.mem_append_right ['\"', '\''] isMark) rest
  have noOther : quoted.spans (mark :: rest) = false ∧
      blockIndicator.spans (mark :: rest) = false := by
    simp only [List.mem_cons, List.not_mem_nil, or_false] at isMark
    rcases isMark with rfl | rfl | rfl <;> exact ⟨rfl, rfl⟩
  simp [wholeKind?, noScalar, noOther]

end Properties

/-! ## Calls -/

structure ValueCall where
  offset : Nat
  text : List Char
  deriving DecidableEq, Repr

namespace ValueCall

/-- The recursive call: it reads what comes next behind a property. -/
def next? (call : ValueCall) : Option ValueCall :=
  match call.text with
  | [] => none
  | first :: rest =>
    match wholeKind? (first :: rest) with
    | some _ => none
    | none =>
      (property? first rest).map fun (_, count) =>
        let stop := call.offset + byteSize (first :: rest.take count)
        let tail := rest.drop count
        ⟨stop + byteSize (tail.takeWhile isBlank), trimStart tail⟩

/-- The spans that a call finds without the recursive one. -/
def ownSpans (call : ValueCall) : List Span :=
  match call.text with
  | [] => []
  | first :: rest =>
    match wholeKind? (first :: rest) with
    | some kind => [⟨kind, call.offset, call.offset + byteSize (first :: rest)⟩]
    | none =>
      match property? first rest with
      | some (kind, count) =>
        [⟨kind, call.offset, call.offset + byteSize (first :: rest.take count)⟩]
      | none =>
        if first == '[' || first == '{' then
          scanRules flowRules ⟨none, call.offset, first :: rest⟩
        else []

def spans (call : ValueCall) : List Span :=
  valueSpans call.offset call.text

theorem spans_eq (call : ValueCall) :
    call.spans = call.ownSpans ++ call.next?.elim [] spans := by
  obtain ⟨offset, text⟩ := call
  simp only [spans, ownSpans, next?]
  cases text with
  | nil => rw [valueSpans]; rfl
  | cons first rest =>
    rw [valueSpans]
    dsimp only
    cases wholeKind? (first :: rest) with
    | some kind => rfl
    | none =>
      cases property? first rest with
      | some found => simp [spans, Nat.add_assoc]
      | none => simp

/-- What a recursive call leaves behind is a property and blanks. -/
theorem exists_property_of_next {call next : ValueCall} (found : call.next? = some next) :
    ∃ property : Property, IsProperty property.kind property.text ∧
      call.text = property.text ++ (property.blanks ++ next.text) ∧
      next.offset = call.offset + byteSize (property.text ++ property.blanks) ∧
      ∀ c ∈ next.text.head?, isBlank c = false := by
  obtain ⟨offset, text⟩ := call
  simp only [next?] at found
  split at found
  · contradiction
  · next first rest =>
    split at found
    · contradiction
    · obtain ⟨⟨kind, count⟩, property, rfl⟩ := Option.map_eq_some_iff.mp found
      refine ⟨⟨kind, first :: rest.take count, (rest.drop count).takeWhile isBlank⟩,
        isProperty_of_property? property, ?_, ?_, stops_trimStart _⟩
      · simp [trimStart]
      · simp [Nat.add_assoc]

theorem length_lt_of_next {call next : ValueCall} (found : call.next? = some next) :
    next.text.length < call.text.length := by
  obtain ⟨property, isProperty, split, -⟩ := exists_property_of_next found
  obtain ⟨mark, name, opened, -⟩ := isProperty.opens
  rw [split, opened]
  simp only [List.cons_append, List.length_cons, List.length_append]
  omega

/-- Does one call lead to another? -/
def LeadsTo : ValueCall → ValueCall → Prop :=
  Relation.ReflTransGen fun call next => call.next? = some next

/-- Every call leads to a last one. -/
theorem exists_last (call : ValueCall) : ∃ last, call.LeadsTo last ∧ last.next? = none := by
  induction size : call.text.length using Nat.strong_induction_on generalizing call with
  | _ size inductionHypothesis =>
    subst size
    cases found : call.next? with
    | none => exact ⟨call, .refl, found⟩
    | some next =>
      obtain ⟨last, leads, ended⟩ := inductionHypothesis _ (length_lt_of_next found) next rfl
      exact ⟨last, .head found leads, ended⟩

/-- Does a call read a slice of a line, from its offset on and without outer blanks? -/
structure Slices (line : List Char) (call : ValueCall) : Prop where
  slice : ∃ before after, line = before ++ (call.text ++ after) ∧ byteSize before = call.offset
  trimmed : trim call.text = call.text

theorem Slices.next {line : List Char} {call next : ValueCall} (slices : call.Slices line)
    (found : call.next? = some next) : next.Slices line := by
  obtain ⟨⟨before, after, split, size⟩, trimmed⟩ := slices
  obtain ⟨property, -, own, moved, opens⟩ := exists_property_of_next found
  refine ⟨⟨before ++ (property.text ++ property.blanks), after, ?_, ?_⟩, ?_⟩
  · rw [split, own]
    simp
  · rw [byteSize_append, size, moved]
  · have suffix : next.text <:+ call.text :=
      ⟨property.text ++ property.blanks, by rw [own, List.append_assoc]⟩
    have ends : trimEnd call.text = call.text := by
      rw [← trimmed, trim, trimEnd_trimEnd]
    rw [trim, trimStart_of_stops opens, trimEnd_of_suffix suffix ends]

theorem Slices.leadsTo {line : List Char} {call last : ValueCall} (slices : call.Slices line)
    (leads : call.LeadsTo last) : last.Slices line := by
  induction leads with
  | refl => exact slices
  | tail _ found inductionHypothesis => exact inductionHypothesis.next found

end ValueCall

/-! ## Chains of properties -/

section Chains

variable {properties : List Property} {property : Property} {own : List Segment}
  {value rest gap : List Char}

/-- The recursion takes a property off the text in front of a value. -/
theorem valueSpans_of_property (wellFormed : property.WellFormed)
    (opens : ∀ c ∈ rest.head?, isBlank c = false) (offset : Nat) :
    valueSpans offset (property.text ++ (property.blanks ++ rest)) =
      ⟨property.kind, offset, offset + byteSize property.text⟩ ::
        valueSpans (offset + byteSize property.text + byteSize property.blanks) rest := by
  obtain ⟨mark, name, opened, isMark, -⟩ := wellFormed.isProperty.opens
  have isProperty : IsProperty property.kind (mark :: name) := opened ▸ wellFormed.isProperty
  have ends : ∀ c ∈ (property.blanks ++ rest).head?, isBlank c := by
    intro c head
    rw [List.head?_append_of_ne_nil _ wellFormed.separated] at head
    exact wellFormed.blank c (List.mem_of_mem_head? head)
  have blanks : (property.blanks ++ rest).takeWhile isBlank = property.blanks ∧
      trimStart (property.blanks ++ rest) = rest := by
    rw [trimStart, List.takeWhile_append_of_pos wellFormed.blank,
      List.dropWhile_append_of_pos wellFormed.blank]
    cases rest with
    | nil => simp
    | cons c rest => simp [opens c rfl]
  rw [opened, List.cons_append, valueSpans, wholeKind?_of_mark isMark]
  simp only [property?_of_isProperty isProperty ends, List.take_left, List.drop_left, blanks,
    byteSize_cons, Nat.add_assoc]

theorem opens_chain (wellFormed : ∀ property ∈ properties, property.WellFormed)
    (opens : ∀ c ∈ value.head?, isBlank c = false) :
    ∀ c ∈ (Segment.characters (chain properties) ++ value).head?, isBlank c = false := by
  cases properties with
  | nil => exact opens
  | cons property properties =>
    obtain ⟨mark, name, opened, isMark, -⟩ := (wellFormed property (by simp)).isProperty.opens
    intro c head
    obtain rfl : mark = c := by
      simpa [chain, Property.segments, Segment.labelled, opened] using head
    exact isBlank_of_mark isMark

theorem characters_chain_cons (property : Property) (properties : List Property) :
    Segment.characters (chain (property :: properties)) =
      property.text ++ (property.blanks ++ Segment.characters (chain properties)) := by
  simp [chain, Property.segments, Segment.labelled, Segment.plain]

/-- The spans behind a chain of properties are those of the value. -/
theorem valueSpans_of_chain (wellFormed : ∀ property ∈ properties, property.WellFormed)
    (opens : ∀ c ∈ value.head?, isBlank c = false)
    (spans : ∀ offset, valueSpans offset value = Segment.spansFrom offset own) (offset : Nat) :
    valueSpans offset (Segment.characters (chain properties) ++ value) =
      Segment.spansFrom offset (chain properties ++ own) := by
  induction properties generalizing offset with
  | nil => exact spans offset
  | cons property properties inductionHypothesis =>
    obtain ⟨first, others⟩ := List.forall_mem_cons.mp wellFormed
    have split : chain (property :: properties) = property.segments ++ chain properties := rfl
    rw [characters_chain_cons, List.append_assoc, List.append_assoc,
      valueSpans_of_property first (opens_chain others opens), inductionHypothesis others, split]
    rfl

/-! ### Comments -/

theorem marksBlank_append (marks : List Char) (afterBlank : Bool) (text rest : List Char) :
    marksBlank marks afterBlank (text ++ rest) =
      (marksBlank marks afterBlank text || marksBlank marks (blankAfter afterBlank text) rest) := by
  induction text generalizing afterBlank with
  | nil => rfl
  | cons c text inductionHypothesis =>
    simp [marksBlank, blankAfter, inductionHypothesis, Bool.or_assoc]

theorem marksBlank_of_absent {text : List Char} (absent : '#' ∉ text) (afterBlank : Bool) :
    marksBlank ['#'] afterBlank text = false := by
  induction text generalizing afterBlank with
  | nil => rfl
  | cons c text inductionHypothesis =>
    obtain ⟨own, others⟩ := not_or.mp (List.mem_cons.not.mp absent)
    simp [marksBlank, Ne.symm own, inductionHypothesis others]

theorem marksBlank_of_clear {text : List Char} (clear : ∀ c ∈ text, isBlank c = false)
    (unopened : text.head? ≠ some '#') (afterBlank : Bool) :
    marksBlank ['#'] afterBlank text = false := by
  have inside : ∀ text : List Char, (∀ c ∈ text, isBlank c = false) →
      marksBlank ['#'] false text = false := by
    intro text clear
    induction text with
    | nil => rfl
    | cons c text inductionHypothesis =>
      obtain ⟨own, others⟩ := List.forall_mem_cons.mp clear
      simp [marksBlank, own, inductionHypothesis others]
  cases text with
  | nil => rfl
  | cons c text =>
    obtain ⟨own, others⟩ := List.forall_mem_cons.mp clear
    have different : c ≠ '#' := by simpa using unopened
    simp [marksBlank, own, different, inside text others]

theorem sign_not_mem_of_blank {text : List Char} (blank : ∀ c ∈ text, isBlank c) : '#' ∉ text := by
  intro member
  exact absurd (blank '#' member) (by decide)

/-- Neither properties nor the blanks between them start a comment. -/
theorem unsigned_chain (wellFormed : ∀ property ∈ properties, property.WellFormed)
    (absent : '#' ∉ value) (afterBlank : Bool) :
    marksBlank ['#'] afterBlank (Segment.characters (chain properties) ++ value) = false := by
  induction properties generalizing afterBlank with
  | nil => exact marksBlank_of_absent absent afterBlank
  | cons property properties inductionHypothesis =>
    obtain ⟨first, others⟩ := List.forall_mem_cons.mp wellFormed
    obtain ⟨clear, unopened⟩ := first.isProperty.clear
    rw [characters_chain_cons, List.append_assoc, List.append_assoc, marksBlank_append,
      marksBlank_append, marksBlank_of_clear clear unopened,
      marksBlank_of_absent (sign_not_mem_of_blank first.blank), inductionHypothesis others]
    rfl

theorem trims_chain (leading : ∀ c ∈ gap, isBlank c)
    (wellFormed : ∀ property ∈ properties, property.WellFormed) (present : value ≠ [])
    (trimmed : trim value = value) :
    Trims (gap ++ (Segment.characters (chain properties) ++ value)) gap
      (Segment.characters (chain properties) ++ value) [] where
  whole := by rw [List.append_nil]
  leading := leading
  trailing := by simp
  opens := opens_chain wellFormed (trimmed ▸ (trims_trim value).opens)
  ends := by
    rw [List.getLast?_append_of_ne_nil _ present]
    exact trimmed ▸ (trims_trim value).ends

/-- A scalar behind blanks and properties has the spans of its own segments. -/
theorem contentSpans_of_chain (leading : ∀ c ∈ gap, isBlank c)
    (wellFormed : ∀ property ∈ properties, property.WellFormed) (present : value ≠ [])
    (absent : '#' ∉ value) (trimmed : trim value = value)
    (spans : ∀ offset, valueSpans offset value = Segment.spansFrom offset own) (offset : Nat) :
    contentSpans offset (gap ++ (Segment.characters (chain properties) ++ value)) =
      Segment.spansFrom offset (.plain gap :: (chain properties ++ own)) := by
  have unsigned : marksBlank ['#'] true
      (gap ++ (Segment.characters (chain properties) ++ value)) = false := by
    rw [marksBlank_append, marksBlank_of_absent (sign_not_mem_of_blank leading),
      unsigned_chain wellFormed absent]
    rfl
  have opens : ∀ c ∈ value.head?, isBlank c = false := trimmed ▸ (trims_trim value).opens
  have trims := trims_chain leading wellFormed present trimmed
  have started := (trims.parts_eq (List.append_ne_nil_of_right_ne_nil _ present)).1
  simp only [contentSpans, beforeComment_of_unsigned unsigned, trims.trim_eq, started,
    valueSpans_of_chain wellFormed opens spans, Nat.lt_irrefl, ↓reduceIte, List.append_nil]
  rfl

end Chains

/-! ## Lines -/

def valueCall (line : List Char) : ValueCall :=
  let place := contentPlace line
  let value := beforeComment none true place.rest
  ⟨place.offset + byteSize (value.takeWhile isBlank), trim value⟩

section Lines

variable {line : List Char}

theorem slices_valueCall (line : List Char) : (valueCall line).Slices line := by
  generalize cut : beforeComment none true (contentPlace line).rest = value
  obtain ⟨comment, whole⟩ := beforeComment_isPrefix none true (contentPlace line).rest
  have trims := trims_trim value
  refine ⟨⟨Segment.characters (headSegments line) ++ value.takeWhile isBlank,
    trailingBlanks (trimStart value) ++ comment, ?_, ?_⟩, ?_⟩
  · conv_lhs => rw [characters_headSegments line, ← whole, cut, trims.whole]
    simp [valueCall, cut]
  · simp [valueCall, cut, offset_contentPlace]
  · have core : Trims (trim value) [] (trim value) [] :=
      ⟨by simp, by simp, by simp, trims.opens, trims.ends⟩
    simp only [valueCall, cut, core.trim_eq]

/-- The spans of a line are those of its head, of its first call and of its comment. -/
theorem exists_comment_of_entry (isEntry : IsEntry line) :
    ∃ comment : List Span, (∀ span ∈ comment, span.kind = .comment) ∧
      spans line =
        Segment.spansFrom 0 (headSegments line) ++ ((valueCall line).spans ++ comment) := by
  refine ⟨_, ?_, spans_of_entry isEntry⟩
  split <;> simp

theorem headSegments_within (line : List Char) :
    Segment.Within (· ≠ .text) (headSegments line) := by
  refine Piece.segments_within ?_ line
  rw [headPieces]
  cases found : head (.start line) with
  | none => simp [Piece.Within]
  | some pieces => exact head_within _ _ found

theorem chain_within {properties : List Property}
    (wellFormed : ∀ property ∈ properties, property.WellFormed) :
    Segment.Within (· ≠ .text) (chain properties) := by
  intro segment member
  obtain ⟨property, listed, own⟩ := List.mem_flatMap.mp member
  have isLabel : property.kind ≠ .text := by
    intro same
    have isProperty := (wellFormed property listed).isProperty
    rw [same] at isProperty
    cases isProperty
  simp only [Property.segments, List.mem_cons, List.not_mem_nil, or_false] at own
  rcases own with rfl | rfl
  · simpa [Segment.labelled] using isLabel
  · simp [Segment.plain]

theorem AllSpelled.within {own : List Segment} (spelled : AllSpelled own) :
    Segment.Within (· ≠ .text) own := by
  rintro segment member kind isKind rfl
  exact spelled segment member .text isKind

theorem labels_chain {properties : List Property}
    (wellFormed : ∀ property ∈ properties, property.WellFormed) :
    Segment.labels (chain properties) = properties.map Property.token := by
  induction properties with
  | nil => rfl
  | cons property properties inductionHypothesis =>
    obtain ⟨first, others⟩ := List.forall_mem_cons.mp wellFormed
    obtain ⟨mark, name, opened, -⟩ := first.isProperty.opens
    have split : chain (property :: properties) = property.segments ++ chain properties := rfl
    rw [split, Segment.labels_append, inductionHypothesis others]
    simp [Segment.labels, Property.segments, Segment.labelled, Segment.plain, Property.token,
      opened]

end Lines

end Grammar.Yaml

open Grammar.Yaml in
/-- Each call of the reader of values finds its own spans and those of the call for what is left
behind a property, which is shorter; so the calls come to an end. All calls for a line read slices
of it. The scalar at the end of a chain of properties has the same segments whatever the chain is,
and so also on its own: its tokens come right behind those of the properties. -/
theorem tokenize_node_properties :
    (∀ call : ValueCall,
      call.spans = call.ownSpans ++ call.next?.elim [] ValueCall.spans ∧
        (∀ next, call.next? = some next → next.text.length < call.text.length) ∧
        ∃ last, call.LeadsTo last ∧ last.next? = none) ∧
    (∀ line, IsEntry line →
      (∃ comment : List Span, (∀ span ∈ comment, span.kind = .comment) ∧
        spans line =
          Segment.spansFrom 0 (headSegments line) ++ ((valueCall line).spans ++ comment)) ∧
      ∀ call, (valueCall line).LeadsTo call → call.Slices line) ∧
    ∀ value : List Char, value ≠ [] → '#' ∉ value → trim value = value →
      ∃ own, Segment.characters own = value ∧
        ∀ (line : String) (gap : List Char) (properties : List Property), IsEntry line.toList →
          (contentPlace line.toList).rest =
            gap ++ (Segment.characters (chain properties) ++ value) →
          (∀ c ∈ gap, isBlank c) → (∀ property ∈ properties, property.WellFormed) →
          tokenize .yaml line =
              Segment.tokens
                (headSegments line.toList ++ .plain gap :: (chain properties ++ own)) ∧
            (tokenize .yaml line).filter (·.kind ≠ .text) =
              Segment.labels (headSegments line.toList) ++
                (properties.map Property.token ++ Segment.labels own) := by
  refine ⟨fun call => ⟨call.spans_eq, fun _ => ValueCall.length_lt_of_next, call.exists_last⟩,
    fun line isEntry => ⟨exists_comment_of_entry isEntry,
      fun _ => (slices_valueCall line).leadsTo⟩, ?_⟩
  intro value present absent trimmed
  obtain ⟨own, spelled, spans, allSpelled⟩ := exists_segments_of_value value
  refine ⟨own, spelled, fun line gap properties isEntry content leading wellFormed => ?_⟩
  -- The whole line: its head, the blanks behind it, the properties and the scalar.
  let segments := headSegments line.toList ++ .plain gap :: (chain properties ++ own)
  have tokens : tokenize .yaml line = Segment.tokens segments := by
    have whole : Segment.characters segments = line.toList := by
      rw [characters_headSegments line.toList, content]
      simp [segments, Segment.plain, spelled]
    have cut : Grammar.Yaml.spans line.toList = Segment.spansFrom 0 segments := by
      rw [spans_of_entry isEntry, content, offset_contentPlace,
        contentSpans_of_chain leading wellFormed present absent trimmed spans,
        Segment.spansFrom_append, Nat.zero_add]
    rw [← coverLine_spansFrom, whole, ← cut]
    rfl
  have within : Segment.Within (· ≠ .text) segments := by
    refine Segment.within_append.mpr ⟨headSegments_within _, List.forall_mem_cons.mpr ⟨?_, ?_⟩⟩
    · simp [Segment.plain]
    · exact Segment.within_append.mpr ⟨chain_within wellFormed, allSpelled.within⟩
  refine ⟨tokens, ?_⟩
  rw [tokens, Segment.tokens, Segment.filter_tokensAfter within, Segment.labels_append,
    ← labels_chain wellFormed, ← Segment.labels_append]
  simp [Segment.labels, Segment.plain]

open Grammar.Yaml in
/-- An anchor and a tag in front of a number, with blanks of more than one byte between them. -/
theorem tokens_of_tagged_number :
    (⟨17, "-7".toList⟩ : ValueCall).Slices "key: &a\u00a0!!int\u3000-7".toList ∧
      ∃ own : List Token,
        (tokenize .yaml "key: -7").filter (·.kind ≠ .text) =
            [⟨.key, "key"⟩, ⟨.punctuation, ":"⟩] ++ own ∧
          (tokenize .yaml "key: &a\u00a0!!int\u3000-7").filter (·.kind ≠ .text) =
            [⟨.key, "key"⟩, ⟨.punctuation, ":"⟩] ++
              ([⟨.variable, "&a"⟩, ⟨.tag, "!!int"⟩] ++ own) := by
  obtain ⟨-, slices, scalars⟩ := tokenize_node_properties
  have isKey : IsKey ['k', 'e', 'y'] :=
    .plain (by decide) (by decide) (forall_mem_of_all rfl) (by simp [isIndent])
  constructor
  · have isEntry : IsEntry "key: &a\u00a0!!int\u3000-7".toList :=
      isEntry_keyLine isKey "&a\u00a0!!int\u3000-7".toList
    have first : (valueCall "key: &a\u00a0!!int\u3000-7".toList).next? =
        some ⟨9, "!!int\u3000-7".toList⟩ := by decide +kernel
    have second : (⟨9, "!!int\u3000-7".toList⟩ : ValueCall).next? =
        some ⟨17, "-7".toList⟩ := by decide +kernel
    exact (slices _ isEntry).2 _ (.head first (.single second))
  · obtain ⟨own, -, same⟩ := scalars "-7".toList (by decide) (by decide) (by decide +kernel)
    let properties : List Property :=
      [⟨.variable, "&a".toList, ['\u00a0']⟩, ⟨.tag, "!!int".toList, ['\u3000']⟩]
    have wellFormed : ∀ property ∈ properties, property.WellFormed := by
      simp only [properties, List.forall_mem_cons]
      have anchor : IsProperty .variable "&a".toList :=
        .named (by decide) (by decide) (forall_mem_of_all (by decide))
      have tag : IsProperty .tag "!!int".toList := .tag (forall_mem_of_all (by decide))
      exact ⟨⟨anchor, by simp, List.forall_mem_singleton.mpr rfl⟩,
        ⟨tag, by simp, List.forall_mem_singleton.mpr rfl⟩, List.forall_mem_nil _⟩
    have behindKey (content : List Char) (opens : Lexeme.Stops isIndent content) :=
      head_of_keyLine isKey opens
    obtain ⟨aloneHead, alone⟩ := behindKey "-7".toList (by simp [Lexeme.Stops, isIndent])
    obtain ⟨chainHead, chained⟩ := behindKey "&a\u00a0!!int\u3000-7".toList
      (by simp [Lexeme.Stops, isIndent])
    have first := same "key: -7" [] [] (isEntry_keyLine isKey _) alone (by simp) (by simp)
    have second := same "key: &a\u00a0!!int\u3000-7" [] properties (isEntry_keyLine isKey _)
      chained (by simp) wellFormed
    refine ⟨Segment.labels own, first.2.trans ?_, second.2.trans ?_⟩
    · exact congrArg (Segment.labels · ++ _) aloneHead
    · exact congrArg (Segment.labels · ++ _) chainHead

/-- Behind a property the value may be a list in brackets; no property in there gets a kind. -/
example : tokenize .yaml "- &a [*b, 4]" =
    [⟨.punctuation, "-"⟩, ⟨.text, " "⟩, ⟨.variable, "&a"⟩, ⟨.text, " "⟩, ⟨.bracket, "["⟩,
      ⟨.text, "*b"⟩, ⟨.punctuation, ","⟩, ⟨.text, " "⟩, ⟨.number, "4"⟩, ⟨.bracket, "]"⟩] := by
  decide +kernel

end Highlight
