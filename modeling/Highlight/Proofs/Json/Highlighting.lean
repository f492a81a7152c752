import Highlight.Proofs.Json.Reading
import Highlight.Proofs.Json.Rules
import Highlight.Proofs.Lines
import Highlight.Proofs.Partition

/-!
Highlighting a document of JSON. The labelled tokens of its lines are its lexical tokens, and only
blanks are left between them. The lexical tokens are taken from left to right; what has been passed
matters to the rest of the line only by its last character.
-/

set_option autoImplicit false

namespace Highlight.Json

open Text
open Cursor (isSpace isControl)
open Grammar.Json (rules AfterValue BeforeColon)

/-! ## Labels of lexical tokens -/

/-- The kind with which a token is labelled, given whether a colon is next on its line. -/
def Role.kind (beforeColon : Bool) : Role → TokenKind
  | listOpens | listCloses | objectOpens | objectCloses => .bracket
  | comma | colon => .punctuation
  | null => .null
  | boolean => .boolean
  | numeral => .number
  | name => if beforeColon then .key else .string
  | string => .string

/-- Do tokens start with a colon on the line that they go on with? -/
def colonOnLine : List LexicalToken → Bool
  | [] => false
  | next :: _ => next.role = .colon && !next.blanks.contains '\n'

def labelled : List LexicalToken → List Token
  | [] => []
  | token :: tokens =>
    ⟨token.role.kind (colonOnLine tokens), String.ofList token.text⟩ :: labelled tokens

/-! ## Segments that show tokens -/

/-- Segments that show tokens before what some other segments show, and otherwise only blanks. -/
structure Shows (tokens : List Token) (segments others : List Segment) : Prop where
  labels : Segment.labels segments = tokens ++ Segment.labels others
  plain : Segment.PlainIn (isBlank ·) segments ↔ Segment.PlainIn (isBlank ·) others

namespace Shows

variable {tokens more : List Token} {segments others rest : List Segment}

theorem refl (segments : List Segment) : Shows [] segments segments :=
  ⟨rfl, Iff.rfl⟩

theorem trans (first : Shows tokens segments others) (second : Shows more others rest) :
    Shows (tokens ++ more) segments rest :=
  ⟨by rw [first.labels, second.labels, List.append_assoc], first.plain.trans second.plain⟩

theorem append (shows : Shows tokens segments others) (rest : List Segment) :
    Shows tokens (segments ++ rest) (others ++ rest) where
  labels := by simp [Segment.labels_append, shows.labels]
  plain := by simp [Segment.plainIn_append, shows.plain]

/-- What both of two stretches of segments show last can be left out. -/
theorem cancel (first : Shows (tokens ++ more) segments rest) (second : Shows more others rest) :
    Shows tokens segments others :=
  ⟨by rw [first.labels, second.labels, List.append_assoc], first.plain.trans second.plain.symm⟩

theorem plain_cons {text : List Char} (blank : ∀ c ∈ text, isBlank c) (segments : List Segment) :
    Shows [] (.plain text :: segments) segments where
  labels := by simp [Segment.labels, Segment.plain]
  plain := by simpa [Segment.PlainIn, Segment.plain] using fun _ => blank

theorem labelled_cons {text : List Char} (present : text ≠ []) (kind : TokenKind)
    (segments : List Segment) :
    Shows [⟨kind, String.ofList text⟩] (.labelled kind text :: segments) segments where
  labels := by simp [Segment.labels, Segment.labelled, present]
  plain := by simp [Segment.PlainIn, Segment.labelled]

end Shows

/-! ## Places of a line -/

/-- The segments of what is left of a line at a place. -/
def segmentsAt (place : Place) : List Segment :=
  segmentsFrom (fun () place => (Rule.firstOf rules place).map (·, ())) () place

section Places

variable {before : Option Char} {offset : Nat} {text line : List Char}

theorem segmentsAt_nil (before : Option Char) (offset : Nat) :
    segmentsAt ⟨before, offset, []⟩ = [] :=
  segmentsFrom_of_end rfl

theorem segmentsAt_of_isSpace {c : Char} (blank : isSpace c) :
    segmentsAt ⟨before, offset, c :: line⟩ =
      .plain [c] :: segmentsAt ⟨some c, offset + c.utf8Size, line⟩ :=
  segmentsFrom_of_none rfl (by rw [Grammar.Json.firstOf_of_isSpace blank]; rfl)

/-- What a rule reads is cut into its pieces, and the line goes on behind them. -/
theorem segmentsAt_of_firstOf {pieces : List Piece}
    (read : Rule.firstOf rules ⟨before, offset, text ++ line⟩ = some pieces)
    (total : Piece.total pieces = text.length) (present : text ≠ []) :
    segmentsAt ⟨before, offset, text ++ line⟩ = Piece.segments (text ++ line) pieces ++
      segmentsAt ⟨text.getLast?.or before, offset + byteSize text, line⟩ := by
  have advances : 0 < Piece.total pieces := by
    rw [total]
    exact List.length_pos_iff.mpr present
  have following : segmentsAt ⟨before, offset, text ++ line⟩ =
      Piece.segments (text ++ line) pieces ++
        segmentsAt (Place.forward (Piece.total pieces) ⟨before, offset, text ++ line⟩) :=
    segmentsFrom_of_some (by rw [read]; rfl) advances (by simp [present])
  rwa [total, Place.forward_append] at following

theorem shows_of_firstOf {kind : TokenKind} (present : text ≠ [])
    (read : Rule.firstOf rules ⟨before, offset, text ++ line⟩ = some [.labelled kind text.length]) :
    Shows [⟨kind, String.ofList text⟩] (segmentsAt ⟨before, offset, text ++ line⟩)
      (segmentsAt ⟨text.getLast?.or before, offset + byteSize text, line⟩) := by
  have total : Piece.total [.labelled kind text.length] = text.length := by
    simp [Piece.total, Piece.labelled]
  have pieces : Piece.segments (text ++ line) [.labelled kind text.length] =
      [.labelled kind text] := by
    simp [Piece.segments, Piece.labelled, Segment.labelled]
  rw [segmentsAt_of_firstOf read total present, pieces]
  exact .labelled_cons present kind _

theorem shows_blanks {blanks : List Char} (blank : ∀ c ∈ blanks, isSpace c) :
    Shows [] (segmentsAt ⟨before, offset, blanks ++ line⟩)
      (segmentsAt ⟨blanks.getLast?.or before, offset + byteSize blanks, line⟩) := by
  induction blanks generalizing before offset with
  | nil => exact .refl _
  | cons c blanks inductionHypothesis =>
    obtain ⟨own, others⟩ := List.forall_mem_cons.mp blank
    have first : Shows [] (segmentsAt ⟨before, offset, c :: (blanks ++ line)⟩)
        (segmentsAt ⟨some c, offset + c.utf8Size, blanks ++ line⟩) := by
      rw [segmentsAt_of_isSpace own]
      exact .plain_cons (by simpa using Grammar.Json.isBlank_of_isSpace own) _
    rw [Place.getLast?_cons_or, byteSize_cons, ← Nat.add_assoc]
    exact first.trans (inductionHypothesis others)

/-- A name and its colon are read at once, but show what they would show one after the other. -/
theorem shows_key (isString : IsString text) (named : BeforeColon line) :
    Shows [⟨.key, String.ofList text⟩] (segmentsAt ⟨before, offset, text ++ line⟩)
      (segmentsAt ⟨text.getLast?.or before, offset + byteSize text, line⟩) := by
  obtain ⟨blanks, rest, blank, rfl⟩ := named
  have present : text ≠ [] := by
    rintro rfl
    contradiction
  have total : Piece.total
      [.labelled .key text.length, .plain blanks.length, .labelled .punctuation 1] =
        (text ++ (blanks ++ [':'])).length := by
    simp [Piece.total, Piece.labelled, Piece.plain]
  have pieces : Piece.segments (text ++ (blanks ++ [':']) ++ rest)
      [.labelled .key text.length, .plain blanks.length, .labelled .punctuation 1] =
        [.labelled .key text, .plain blanks, .labelled .punctuation [':']] := by
    simp [Piece.segments, Piece.labelled, Piece.plain, Segment.labelled, Segment.plain]
  -- Read at once or one after the other, both end at the place behind the colon.
  have whole : Shows ([⟨.key, String.ofList text⟩] ++ ([] ++ [⟨.punctuation, ":"⟩]))
      (segmentsAt ⟨before, offset, text ++ (blanks ++ [':']) ++ rest⟩)
      (segmentsAt ⟨some ':', offset + byteSize text + byteSize blanks + 1, rest⟩) := by
    have last : (text ++ (blanks ++ [':'])).getLast?.or before = some ':' := by simp
    have size : offset + byteSize (text ++ (blanks ++ [':'])) =
        offset + byteSize text + byteSize blanks + 1 := by
      rw [byteSize_append, byteSize_append, Nat.add_assoc, Nat.add_assoc]
      rfl
    rw [segmentsAt_of_firstOf (Grammar.Json.firstOf_of_key isString blank) total (by simp), pieces,
      last, size]
    refine (Shows.labelled_cons present .key _).trans (.trans (.plain_cons ?_ _) ?_)
    · exact fun c member => Grammar.Json.isBlank_of_isSpace (blank c member)
    · exact .labelled_cons (by simp) .punctuation _
  have colon : Shows ([] ++ [⟨.punctuation, ":"⟩])
      (segmentsAt ⟨text.getLast?.or before, offset + byteSize text, blanks ++ ':' :: rest⟩)
      (segmentsAt ⟨some ':', offset + byteSize text + byteSize blanks + 1, rest⟩) :=
    (shows_blanks blank).trans
      (shows_of_firstOf (by simp) (Grammar.Json.firstOf_of_punctuation (by simp)))
  simpa using whole.cancel colon

/-- Is there no part of a word right before a place? -/
def Clear (before : Option Char) : Prop :=
  ∀ c ∈ before, isWord c = false

/-- The line behind a token lets it be read as the kind that it is to have. -/
structure Role.Goes (role : Role) (beforeColon : Bool) (line : List Char) : Prop where
  key : role = .name → beforeColon = true → BeforeColon line
  value : role.endsValue ∨ role = .name ∧ beforeColon = false → AfterValue line

/-- A lexical token is labelled as a whole, and with its kind. -/
theorem shows_token {role : Role} (spells : role.Spells text)
    (starts : role.followsValue ∨ Clear before) {beforeColon : Bool}
    (goes : role.Goes beforeColon line) (offset : Nat) :
    Shows [⟨role.kind beforeColon, String.ofList text⟩] (segmentsAt ⟨before, offset, text ++ line⟩)
      (segmentsAt ⟨text.getLast?.or before, offset + byteSize text, line⟩) := by
  have present := spells.ne_nil
  cases role with
  | listOpens | listCloses | objectOpens | objectCloses =>
    obtain rfl := spells
    exact shows_of_firstOf present (Grammar.Json.firstOf_of_bracket (by simp))
  | comma | colon =>
    obtain rfl := spells
    exact shows_of_firstOf present (Grammar.Json.firstOf_of_punctuation (by simp))
  | null =>
    obtain rfl := spells
    have clear := starts.resolve_left (by decide)
    exact shows_of_firstOf present (Grammar.Json.firstOf_of_null clear (goes.value (.inl rfl)))
  | boolean =>
    have clear := starts.resolve_left (by decide)
    exact shows_of_firstOf present
      (Grammar.Json.firstOf_of_boolean spells clear (goes.value (.inl rfl)))
  | numeral =>
    exact shows_of_firstOf present
      (Grammar.Json.firstOf_of_numeral spells (goes.value (.inl rfl)))
  | string =>
    exact shows_of_firstOf present (Grammar.Json.firstOf_of_string spells (goes.value (.inl rfl)))
  | name =>
    cases beforeColon with
    | true => exact shows_key spells (goes.key rfl rfl)
    | false =>
      exact shows_of_firstOf present
        (Grammar.Json.firstOf_of_string spells (goes.value (.inr ⟨rfl, rfl⟩)))

end Places

/-! ## Lines of a text -/

def segmentsOf (before : Option Char) (offset : Nat) (text : List Char) : List Segment :=
  match linesOf text with
  | [] => []
  | first :: others =>
    segmentsAt ⟨before, offset, first⟩ ++ others.flatMap fun line => segmentsAt (.start line)

/-- A text whose lines show tokens, and otherwise only blanks, when its first line goes on behind
some character. -/
def Shown (before : Option Char) (text : List Char) (tokens : List Token) : Prop :=
  ∀ offset, Shows tokens (segmentsOf before offset text) []

theorem segmentsOf_start (text : List Char) :
    segmentsOf none 0 text = (linesOf text).flatMap fun line => segmentsAt (.start line) := by
  unfold segmentsOf
  split
  · next none => rw [none]; rfl
  · next some => rw [some]; rfl

namespace Shown

variable {before : Option Char} {text : List Char} {tokens : List Token}

theorem nil (before : Option Char) : Shown before [] [] := by
  intro offset
  have lines : linesOf [] = [[]] := by simp [linesOf, withoutReturn]
  simp only [segmentsOf, lines, segmentsAt_nil, List.flatMap_nil, List.append_nil]
  exact .refl []

theorem feed (shown : Shown none text tokens) : Shown before ('\n' :: text) tokens := by
  intro offset
  have following := shown 0
  rw [segmentsOf_start] at following
  simpa only [segmentsOf, linesOf_cons_feed, segmentsAt_nil, List.nil_append] using following

/-- A passage of the first line shows what it shows on that line. -/
theorem passage {passage : List Char}
    (lines : linesOf (passage ++ text) = (linesOf text).modifyHead (passage ++ ·))
    {own : List Token}
    (shows : ∀ line ∈ (linesOf text).head?, ∀ offset,
      Shows own (segmentsAt ⟨before, offset, passage ++ line⟩)
        (segmentsAt ⟨passage.getLast?.or before, offset + byteSize passage, line⟩))
    (shown : Shown (passage.getLast?.or before) text tokens) :
    Shown before (passage ++ text) (own ++ tokens) := by
  intro offset
  have following := shown (offset + byteSize passage)
  unfold segmentsOf at following ⊢
  rw [lines]
  cases present : linesOf text with
  | nil => exact absurd present (linesOf_ne_nil text)
  | cons first others =>
    rw [present] at following
    exact ((shows first (by simp [present]) offset).append _).trans following

/-- What comes before an empty line does not matter to it. -/
theorem of_first_nil (empty : (linesOf text).head? = some []) (shown : Shown before text tokens)
    (other : Option Char) : Shown other text tokens := by
  intro offset
  obtain ⟨others, lines⟩ := List.head?_eq_some_iff.mp empty
  simpa only [segmentsOf, lines, segmentsAt_nil] using shown offset

theorem blank {c : Char} (blank : isSpace c) (noFeed : c ≠ '\n')
    (shown : Shown (some c) text tokens) : Shown before (c :: text) tokens := by
  by_cases lost : c = '\r' ∧ (text = [] ∨ text.head? = some '\n')
  · obtain ⟨rfl, ends⟩ := lost
    have empty : (linesOf text).head? = some [] := by
      obtain rfl | breaks := ends
      · simp [linesOf, withoutReturn]
      · obtain ⟨others, rfl⟩ := List.head?_eq_some_iff.mp breaks
        rw [linesOf_cons_feed]
        rfl
    intro offset
    have following := shown.of_first_nil empty before offset
    rwa [segmentsOf, linesOf_cons_return ends]
  · have keeps : c = '\r' → text ≠ [] ∧ text.head? ≠ some '\n' := by
      intro isReturn
      simpa [isReturn, not_or] using lost
    have lines : linesOf ([c] ++ text) = (linesOf text).modifyHead ([c] ++ ·) :=
      linesOf_cons noFeed keeps
    exact passage lines (fun _ _ _ => shows_blanks (by simpa using blank)) shown

/-- Blanks show nothing, and end any word. -/
theorem blanks {blanks : List Char} (blank : ∀ c ∈ blanks, isSpace c)
    (shown : ∀ last, (Clear before → Clear last) → Shown last text tokens) :
    Shown before (blanks ++ text) tokens := by
  induction blanks generalizing before with
  | nil => exact shown before id
  | cons c blanks inductionHypothesis =>
    obtain ⟨own, others⟩ := List.forall_mem_cons.mp blank
    have following : ∀ last, Clear last → Shown last (blanks ++ text) tokens := fun last clear =>
      inductionHypothesis others fun next keeps => shown next fun _ => keeps clear
    by_cases isFeed : c = '\n'
    · subst isFeed
      exact feed (following none (by simp [Clear]))
    · refine Shown.blank own isFeed (following (some c) ?_)
      have spaces : ∀ d ∈ [' ', '\n', '\t', '\r'], isWord d = false :=
        forall_mem_of_all (by decide)
      simpa [Clear] using spaces c (Grammar.Json.isSpace_cases own)

end Shown

/-! ## Lexical tokens of a text -/

/-- What ends no value ends with no part of a word. -/
theorem clear_of_spells {role : Role} {text : List Char} (spells : role.Spells text)
    (opens : role.endsValue = false) (before : Option Char) : Clear (text.getLast?.or before) := by
  cases role with
  | null | boolean | numeral | string | listCloses | objectCloses => contradiction
  | listOpens | objectOpens | comma | colon =>
    obtain rfl := spells
    simpa [Clear] using by decide
  | name =>
    obtain ⟨body⟩ := spells
    simpa [Clear, List.getLast?_cons, List.getLast?_append] using by decide

section Written

variable {role : Role} {tokens : List LexicalToken} {trailing : List Char}

theorem afterValue_written (ends : role.endsValue)
    (precedes : ∀ next ∈ tokens.head?, role.Precedes next.role)
    (wellFormed : ∀ token ∈ tokens, token.WellFormed) (blank : ∀ c ∈ trailing, isSpace c) :
    AfterValue (written tokens ++ trailing) := by
  cases tokens with
  | nil => exact .of_blanks blank
  | cons next others =>
    obtain ⟨own, -⟩ := List.forall_mem_cons.mp wellFormed
    have follows := (precedes next rfl).afterValue ends
    have spells := own.spells
    refine ⟨next.blanks, next.text ++ (written others ++ trailing), own.blank, ?_, by simp⟩
    cases found : next.role with
    | comma | listCloses | objectCloses =>
      rw [found] at spells
      simp [show next.text = _ from spells]
    | _ => simp [found, Role.followsValue] at follows

/-- Where the name of a member does not go on to its colon, its line holds nothing else. -/
theorem goes_written (precedes : ∀ next ∈ tokens.head?, role.Precedes next.role)
    (wellFormed : ∀ token ∈ tokens, token.WellFormed) (blank : ∀ c ∈ trailing, isSpace c)
    {line : List Char} (first : line ∈ (linesOf (written tokens ++ trailing)).head?) :
    role.Goes (colonOnLine tokens) line := by
  have starts := prefix_of_mem_head?_linesOf first
  constructor
  · intro isName onLine
    cases tokens with
    | nil => contradiction
    | cons next others =>
      obtain ⟨own, -⟩ := List.forall_mem_cons.mp wellFormed
      have isColon := (precedes next rfl).afterName isName
      have colonText : next.text = [':'] := by
        have spells := own.spells
        rwa [isColon] at spells
      have noFeed : '\n' ∉ next.blanks := by simpa [colonOnLine, isColon] using onLine
      have whole : written (next :: others) ++ trailing =
          (next.blanks ++ [':']) ++ (written others ++ trailing) := by
        simp [colonText]
      rw [whole, linesOf_append (by simpa using noFeed) (by simp), List.head?_modifyHead] at first
      obtain ⟨rest, -, rfl⟩ := Option.map_eq_some_iff.mp first
      exact ⟨next.blanks, rest, own.blank, by simp⟩
  · rintro (ends | ⟨isName, notOnLine⟩)
    · exact (afterValue_written ends precedes wellFormed blank).of_isPrefix starts
    cases tokens with
    | nil => exact (AfterValue.of_blanks blank).of_isPrefix starts
    | cons next others =>
      obtain ⟨own, -⟩ := List.forall_mem_cons.mp wellFormed
      have isColon := (precedes next rfl).afterName isName
      have feed : '\n' ∈ next.blanks := by simpa [colonOnLine, isColon] using notOnLine
      have noFeed : '\n' ∉ line := not_mem_of_mem_linesOf (List.mem_of_mem_head? first)
      -- The line ends within the blanks, since they hold a line feed and it holds none.
      have inBlanks : line <+: next.blanks := by
        rw [written_cons, List.append_assoc] at starts
        rcases List.prefix_or_prefix_of_prefix starts (List.prefix_append _ _) with within | beyond
        · exact within
        · exact absurd (beyond.subset feed) noFeed
      exact (AfterValue.of_blanks own.blank).of_isPrefix inBlanks

end Written

/-- The lines of well-formed tokens whose neighbors fit show each of the tokens. -/
theorem shown_written {tokens : List LexicalToken}
    (wellFormed : ∀ token ∈ tokens, token.WellFormed)
    (chain : (tokens.map (·.role)).IsChain Role.Precedes) {trailing : List Char}
    (blank : ∀ c ∈ trailing, isSpace c) {before : Option Char}
    (starts : ∀ first ∈ tokens.head?, first.role.followsValue ∨ Clear before) :
    Shown before (written tokens ++ trailing) (labelled tokens) := by
  induction tokens generalizing before with
  | nil => simpa [labelled] using Shown.blanks blank fun last _ => Shown.nil last
  | cons token tokens inductionHypothesis =>
    obtain ⟨own, others⟩ := List.forall_mem_cons.mp wellFormed
    obtain ⟨next, further⟩ := List.isChain_cons.mp chain
    have precedes : ∀ next ∈ tokens.head?, token.role.Precedes next.role := by
      intro follower isNext
      exact next follower.role (by simp [List.head?_map, Option.mem_def.mp isNext])
    rw [written_cons, List.append_assoc, List.append_assoc, labelled, ← List.singleton_append]
    refine Shown.blanks own.blank fun last keeps => ?_
    have ownStarts := (starts token rfl).imp_right keeps
    -- A token holds no control character, so it is neither broken nor cut short by its line.
    have plain := own.spells.uncontrolled
    have noFeed : '\n' ∉ token.text := fun member => absurd (plain _ member) (by decide)
    have noReturn : token.text.getLast? ≠ some '\r' := fun isLast =>
      absurd (plain _ (List.mem_of_getLast? isLast)) (by decide)
    refine Shown.passage (linesOf_append noFeed noReturn _) ?_
      (inductionHypothesis others further ?_)
    · exact fun line first offset =>
        shows_token own.spells ownStarts (goes_written precedes others blank first) offset
    · intro follower isNext
      cases ends : token.role.endsValue with
      | true => exact .inl ((precedes follower isNext).afterValue ends)
      | false => exact .inr (clear_of_spells own.spells ends last)

/-! ## Documents -/

theorem tokenize_eq (line : List Char) :
    tokenize .json (String.ofList line) = Segment.tokens (segmentsAt (.start line)) := by
  rw [tokenize, String.toList_ofList]
  exact coverLine_scanFrom _ () line

theorem segmentsAt_within (place : Place) : Segment.Within TokenKind.IsLabel (segmentsAt place) :=
  segmentsFrom_within (fun _ => Rule.step_within Grammar.Json.rules_within) () place

theorem labels_segmentsOf (value : String) :
    (Document.compute value .json).tokens.flatten.filter (·.kind ≠ .text) =
      Segment.labels (segmentsOf none 0 value.toList) := by
  rw [Document.tokens_compute, segmentsOf_start, List.filter_flatten, List.map_map,
    Segment.labels, List.filterMap_flatMap, List.flatMap_def]
  congr 1
  refine List.map_congr_left fun line _ => ?_
  rw [Function.comp_apply, tokenize_eq]
  exact Segment.filter_tokensAfter (segmentsAt_within _) []

/-- The labelled tokens of a JSON text are its lexical tokens, and the rest of it are blanks. -/
theorem labels_are_lexical_tokens {value : String} {json : Json}
    (accepted : parse value = .ok json) :
    (∃ tokens, IsDocument tokens value.toList) ∧
      ∀ tokens, IsDocument tokens value.toList →
        (∀ line ∈ (Document.compute value .json).tokens, ∀ token ∈ line, token.kind = .text →
          ∀ c ∈ token.text.toList, isBlank c) ∧
        (Document.compute value .json).tokens.flatten.filter (·.kind ≠ .text) =
          labelled tokens := by
  refine ⟨isDocument_of_parse accepted, fun tokens document => ?_⟩
  obtain ⟨trailing, blank, spells⟩ := document.spells
  have starts : ∀ first ∈ tokens.head?, first.role.followsValue ∨ Clear none := by
    simp [Clear]
  have shown := shown_written document.wellFormed document.derives.fits.chain blank starts 0
  rw [← spells] at shown
  constructor
  · intro line lineMember token member isText
    rw [Document.tokens_compute] at lineMember
    obtain ⟨text, textMember, rfl⟩ := List.mem_map.mp lineMember
    rw [tokenize_eq] at member
    have plain : Segment.PlainIn (isBlank ·) (segmentsAt (.start text)) := by
      have all := shown.plain.mpr (by simp [Segment.PlainIn])
      rw [segmentsOf_start] at all
      exact fun segment inLine => all segment (List.mem_flatMap.mpr ⟨text, textMember, inLine⟩)
    exact Segment.plain_of_mem_tokensAfter (segmentsAt_within _) plain (by simp) token member isText
  · rw [labels_segmentsOf, shown.labels]
    simp [Segment.labels]

/-- A quoted colon is no colon, and a name is no key when its colon is on the next line. -/
theorem labels_of_two_members :
    let value := "\x7b\"a\\\":\"\n:[-0.5e1],\"b\" :null\x7d"
    (parse value).isOk ∧
      (Document.compute value .json).tokens.flatten.filter (·.kind ≠ .text) =
        [⟨.bracket, "\x7b"⟩, ⟨.string, "\"a\\\":\""⟩, ⟨.punctuation, ":"⟩, ⟨.bracket, "["⟩,
          ⟨.number, "-0.5e1"⟩, ⟨.bracket, "]"⟩, ⟨.punctuation, ","⟩, ⟨.key, "\"b\""⟩,
          ⟨.punctuation, ":"⟩, ⟨.null, "null"⟩, ⟨.bracket, "\x7d"⟩] := by
  intro value
  have isJson : (parse value).isOk := by decide +kernel
  obtain ⟨json, accepted⟩ : ∃ json, parse value = .ok json := by
    cases result : parse value with
    | ok json => exact ⟨json, rfl⟩
    | error failure => simp [result, Except.isOk, Except.toBool] at isJson
  let tokens : List LexicalToken :=
    [⟨.objectOpens, [], ['{']⟩, ⟨.name, [], ['\"', 'a', '\\', '\"', ':', '\"']⟩,
      ⟨.colon, ['\n'], [':']⟩, ⟨.listOpens, [], ['[']⟩,
      ⟨.numeral, [], ['-', '0', '.', '5', 'e', '1']⟩, ⟨.listCloses, [], [']']⟩,
      ⟨.comma, [], [',']⟩, ⟨.name, [], ['\"', 'b', '\"']⟩, ⟨.colon, [' '], [':']⟩,
      ⟨.null, [], ['n', 'u', 'l', 'l']⟩, ⟨.objectCloses, [], ['}']⟩]
  have first : IsString ['\"', 'a', '\\', '\"', ':', '\"'] :=
    .quoted (.character (by decide) (by decide) (by decide)
      (.escape (by decide) (.character (by decide) (by decide) (by decide) .empty)))
  have second : IsString ['\"', 'b', '\"'] :=
    .quoted (.character (by decide) (by decide) (by decide) .empty)
  have digit : ∀ c, c.isDigit → IsDigits [c] := fun c isDigit =>
    ⟨by simp, by simpa using isDigit⟩
  have fraction : IsFraction ['.', '5'] := .present (digit '5' rfl)
  have exponent : IsExponent ('e' :: ([] ++ ['1'])) :=
    .present (.inl rfl) (.inl rfl) (digit '1' rfl)
  have numeral : IsNumeral (['-'] ++ (['0'] ++ (['.', '5'] ++ ['e', '1']))) :=
    .parts (.inr rfl) ⟨digit '0' rfl, fun _ => rfl⟩ fraction exponent
  have document : IsDocument tokens value.toList := by
    refine ⟨?_, ?_, [], by simp, by decide⟩
    · have list : Derives .value [.listOpens, .numeral, .listCloses] := .list (.one .numeral)
      exact .object (.more (.member list) (.one (.member .null)))
    · have blank : ∀ token ∈ tokens, ∀ c ∈ token.blanks, isSpace c := by
        simp [tokens, isSpace]
      have spells : ∀ token ∈ tokens, token.role.Spells token.text := by
        simpa [tokens, Role.Spells] using ⟨first, numeral, second⟩
      exact fun token member => ⟨blank token member, spells token member⟩
  exact ⟨isJson, ((labels_are_lexical_tokens accepted).2 tokens document).2⟩
end Highlight.Json
