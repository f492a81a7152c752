import Highlight.Proofs.Grammar.Program
import Highlight.Proofs.Grammar.Yaml
import Highlight.Proofs.Neighbors

/-!
What the kinds of tokens promise in YAML. The kind of a value is told from its trimmed text, and
from what is left behind the properties in front of it; the text that the token gets is that one.
-/

set_option autoImplicit false

namespace Highlight

open Text

namespace Grammar.Yaml

open Text.Lexeme

open Grammar.Program (IsExponent)

/-! ## Numbers -/

/-- The fraction of a number, of which the digits may be missing. -/
inductive IsFraction : List Char → Prop
  | missing : IsFraction []
  | present {digits : List Char} : (∀ c ∈ digits, isDecimal c) → IsFraction ('.' :: digits)

/-- A number without its sign. -/
inductive IsMagnitude : List Char → Prop
  | decimal {c : Char} {digits fraction exponent : List Char} : isDecimal c →
      (∀ d ∈ digits, isDecimal d || d == '_') → IsFraction fraction → IsExponent exponent →
      IsMagnitude (c :: (digits ++ (fraction ++ exponent)))
  | fraction {digits exponent : List Char} : IsDecimals digits → IsExponent exponent →
      IsMagnitude ('.' :: (digits ++ exponent))
  | hexadecimal {digits : List Char} : digits ≠ [] → (∀ c ∈ digits, isHexDigit c || c == '_') →
      IsMagnitude ('0' :: 'x' :: digits)
  | octal {digits : List Char} : digits ≠ [] →
      (∀ c ∈ digits, ('0' ≤ c && c ≤ '7') || c == '_') → IsMagnitude ('0' :: 'o' :: digits)
  | special {name : String} : name ∈ [".inf", ".Inf", ".INF", ".nan", ".NaN", ".NAN"] →
      IsMagnitude name.toList

def IsNumber (text : List Char) : Prop :=
  ∃ sign magnitude, text = sign ++ magnitude ∧ sign ∈ [[], ['+'], ['-']] ∧ IsMagnitude magnitude

section Numbers

variable {text rest : List Char}

theorem sign_of_reads (read : sign.Reads text rest) : text ∈ [[], ['+'], ['-']] := by
  rcases reads_optional_iff.mp read with present | ⟨rfl, -⟩
  · obtain ⟨c, rfl, isSign⟩ := reads_one_iff.mp present
    have listed : c = '-' ∨ c = '+' := by simpa using isSign
    rcases listed with rfl | rfl <;> simp
  · simp

theorem isDecimals_of_reads (read : (run isDecimal).Reads text rest) : IsDecimals text := by
  obtain ⟨present, members, -⟩ := reads_run_iff.mp read
  exact ⟨present, members⟩

theorem isExponent_of_reads (read : (optional exponent).Reads text rest) : IsExponent text := by
  rcases reads_optional_iff.mp read with present | ⟨rfl, -⟩
  · obtain ⟨front, digits, rfl, frontRead, digitsRead⟩ := reads_andThen_iff.mp present
    obtain ⟨mark, signs, rfl, markRead, signRead⟩ := reads_andThen_iff.mp frontRead
    obtain ⟨c, rfl, isMark⟩ := reads_one_iff.mp markRead
    have listed : c ∈ ['e', 'E'] := by simpa using isMark
    have spelled := IsExponent.present listed (sign_of_reads signRead)
      (isDecimals_of_reads digitsRead)
    simpa using spelled
  · exact .missing

theorem isFraction_of_reads (read : (optional (char '.' ++ many isDecimal)).Reads text rest) :
    IsFraction text := by
  rcases reads_optional_iff.mp read with present | ⟨rfl, -⟩
  · obtain ⟨point, digits, rfl, pointRead, digitsRead⟩ := reads_andThen_iff.mp present
    obtain ⟨c, rfl, isPoint⟩ := reads_one_iff.mp pointRead
    obtain rfl : c = '.' := by simpa using isPoint
    exact .present (reads_many_iff.mp digitsRead).1
  · exact .missing

theorem isMagnitude_of_reads {form : Lexeme} (listed : form ∈ numberForms)
    (read : form.Reads text rest) : IsMagnitude text := by
  simp only [numberForms, List.mem_cons, List.not_mem_nil, or_false] at listed
  rcases listed with rfl | rfl | rfl | rfl | rfl | rfl
  · obtain ⟨front, exponent, rfl, frontRead, exponentRead⟩ := reads_andThen_iff.mp read
    obtain ⟨whole, fraction, rfl, wholeRead, fractionRead⟩ := reads_andThen_iff.mp frontRead
    obtain ⟨first, digits, rfl, firstRead, digitsRead⟩ := reads_andThen_iff.mp wholeRead
    obtain ⟨c, rfl, digit⟩ := reads_one_iff.mp firstRead
    have decimal := IsMagnitude.decimal digit (reads_many_iff.mp digitsRead).1
      (isFraction_of_reads fractionRead) (isExponent_of_reads exponentRead)
    simpa using decimal
  · obtain ⟨front, exponent, rfl, frontRead, exponentRead⟩ := reads_andThen_iff.mp read
    obtain ⟨point, digits, rfl, pointRead, digitsRead⟩ := reads_andThen_iff.mp frontRead
    obtain ⟨c, rfl, isPoint⟩ := reads_one_iff.mp pointRead
    obtain rfl : c = '.' := by simpa using isPoint
    exact .fraction (isDecimals_of_reads digitsRead) (isExponent_of_reads exponentRead)
  · obtain ⟨mark, digits, rfl, markRead, digitsRead⟩ := reads_andThen_iff.mp read
    obtain rfl := reads_literal_iff.mp markRead
    obtain ⟨present, members, -⟩ := reads_run_iff.mp digitsRead
    exact .hexadecimal present members
  · obtain ⟨mark, digits, rfl, markRead, digitsRead⟩ := reads_andThen_iff.mp read
    obtain rfl := reads_literal_iff.mp markRead
    obtain ⟨present, members, -⟩ := reads_run_iff.mp digitsRead
    exact .octal present members
  · obtain ⟨name, named, rfl⟩ := exists_of_reads_anyOf read
    exact .special (List.mem_append_left [".nan", ".NaN", ".NAN"] named)
  · obtain ⟨name, named, rfl⟩ := exists_of_reads_anyOf read
    exact .special (List.mem_append_right [".inf", ".Inf", ".INF"] named)

theorem isNumber_sound (found : isNumber text) : IsNumber text := by
  obtain ⟨form, listed, spans⟩ := List.any_eq_true.mp found
  obtain ⟨signs, magnitude, rfl, signRead, formRead⟩ := reads_andThen_iff.mp (reads_of_spans spans)
  exact ⟨signs, magnitude, rfl, sign_of_reads signRead, isMagnitude_of_reads listed formRead⟩

end Numbers

/-! ## Values -/

/-- The texts that a value and its parts have in each kind. -/
def Spelled (kind : TokenKind) (text : List Char) : Prop :=
  match kind with
  | .boolean => asciiLower (String.ofList text) ∈ ["true", "false", "yes", "no", "on", "off"]
  | .null => String.ofList text ∈ ["null", "Null", "NULL", "~"]
  | .number => IsNumber text
  | .string => IsQuoted text
  | .bracket => ∃ c ∈ ['[', ']', '{', '}'], text = [c]
  | .variable => ∃ c ∈ ['&', '*'], text.head? = some c
  | .tag => text.head? = some '!'
  | .punctuation => True
  | _ => False

section Values

variable {text : List Char} {kind : TokenKind}

theorem scalarKind?_spelled (found : scalarKind? text = some kind) : Spelled kind text := by
  unfold scalarKind? at found
  dsimp only at found
  split at found
  · next listed =>
    obtain rfl := Option.some.inj found
    exact List.contains_iff_mem.mp listed
  split at found
  · next listed =>
    obtain rfl := Option.some.inj found
    exact List.contains_iff_mem.mp listed
  split at found
  · next number =>
    obtain rfl := Option.some.inj found
    exact isNumber_sound number
  · contradiction

theorem isQuoted_of_reads {rest : List Char} (read : quoted.Reads text rest) : IsQuoted text := by
  rcases reads_orElse_iff.mp read with double | ⟨-, single⟩
  · exact .inl (enquoted_of_reads_escapedQuote double)
  · exact .inr (enquoted_of_reads_doubledQuote single)

theorem wholeKind?_spelled (found : wholeKind? text = some kind) : Spelled kind text := by
  simp only [wholeKind?, Option.orElse_eq_orElse, Option.orElse_eq_or,
    Option.or_eq_some_iff] at found
  rcases found with scalar | ⟨-, whole⟩
  · exact scalarKind?_spelled scalar
  split at whole
  · next spans =>
    obtain rfl := Option.some.inj whole
    exact isQuoted_of_reads (reads_of_spans spans)
  split at whole
  · obtain rfl := Option.some.inj whole
    trivial
  · contradiction

theorem property?_spelled {first : Char} {rest : List Char} {count : Nat}
    (found : property? first rest = some (kind, count)) :
    Spelled kind (first :: rest.take count) := by
  unfold property? at found
  dsimp only at found
  split at found
  · next mark =>
    split at found
    · contradiction
    · obtain ⟨rfl, -⟩ := Prod.mk.inj (Option.some.inj found)
      exact ⟨first, by simpa using mark, rfl⟩
  split at found
  · next mark =>
    obtain ⟨rfl, -⟩ := Prod.mk.inj (Option.some.inj found)
    obtain rfl : first = '!' := by simpa using mark
    rfl
  · contradiction

theorem flowRules_fit : ∀ rule ∈ flowRules, rule.Fits := by
  have quotedFits : quoted.Fits := fits_orElse (fits_escapedQuote _) (fits_doubledQuote _)
  simp only [flowRules, List.forall_mem_cons]
  refine ⟨?_, ?_, ?_, ?_, List.forall_mem_nil _⟩
  · exact Rule.fits_token (fits_one _) _
  · exact Rule.fits_token (fits_one _) _
  · exact Rule.fits_token quotedFits _
  · exact Rule.fits_trimmed (fits_andThen (fits_one _) (fits_many _)) _

theorem flowRules_advance : ∀ rule ∈ flowRules, rule.Advances := by
  have quotedAdvances : quoted.Advances :=
    advances_orElse (advances_andThen (advances_one _) _) (advances_andThen (advances_one _) _)
  simp only [flowRules, List.forall_mem_cons]
  refine ⟨?_, ?_, ?_, ?_, List.forall_mem_nil _⟩
  · exact Rule.advances_token (advances_one _) _
  · exact Rule.advances_token (advances_one _) _
  · exact Rule.advances_token quotedAdvances _
  · exact Rule.advances_trimmed (advances_andThen (advances_one _) _) _

def AllSpelled (segments : List Segment) : Prop :=
  ∀ segment ∈ segments, ∀ kind ∈ segment.kind?, Spelled kind segment.text

theorem flowRules_spelled {before : Option Char} {offset : Nat} {segments : List Segment}
    {rest : List Char} (read : (Rule.firstOf flowRules).Reads before offset segments rest) :
    AllSpelled segments := by
  have plain (text : List Char) : AllSpelled [.plain text] := by
    simp [AllSpelled, Segment.plain]
  have labelled {kind : TokenKind} {text : List Char} (spelled : Spelled kind text) :
      AllSpelled [.labelled kind text] := by
    simpa [AllSpelled, Segment.labelled] using spelled
  rcases read.of_firstOf_cons with bracketRead | ⟨-, read⟩
  · obtain ⟨text, rfl, reads⟩ := Rule.reads_token_iff.mp bracketRead
    obtain ⟨c, rfl, isBracket⟩ := reads_one_iff.mp reads
    exact labelled ⟨c, by simpa using isBracket, rfl⟩
  rcases read.of_firstOf_cons with punctuationRead | ⟨-, read⟩
  · obtain ⟨text, rfl, -⟩ := Rule.reads_token_iff.mp punctuationRead
    exact labelled trivial
  rcases read.of_firstOf_cons with stringRead | ⟨-, read⟩
  · obtain ⟨text, rfl, reads⟩ := Rule.reads_token_iff.mp stringRead
    exact labelled (isQuoted_of_reads reads)
  rcases read.of_firstOf_cons with scalarRead | ⟨-, read⟩
  · obtain ⟨core, blanks, rfl, -⟩ := scalarRead.of_trimmed
    simpa [AllSpelled, Segment.plain] using fun kind => scalarKind?_spelled
  · obtain ⟨rule, listed, -⟩ := read.of_firstOf
    contradiction

theorem flowInvariant :
    ScanInvariant (ruleStep flowRules) (fun _ _ _ => True)
      (fun _ token _ => Spelled token.kind token.text.toList) := by
  refine .of_rules flowRules_fit flowRules_advance (fun _ _ => trivial) ?_
  intro before offset segments rest _ read
  refine ⟨trivial, fun tail _ each => Segment.each_append ?_ each⟩
  intro segment member kind isKind _ _
  rw [String.toList_ofList]
  exact flowRules_spelled read segment member kind isKind

theorem flow_spelled (place : Place) : AllSpelled (segmentsFrom (ruleStep flowRules) () place) := by
  have each := flowInvariant.each () place trivial
  intro segment member kind isKind
  have spelled := Segment.forall_of_each each segment member kind isKind
  rwa [String.toList_ofList] at spelled

theorem segments_of_flow (offset other : Nat) (text : List Char) :
    segmentsFrom (ruleStep flowRules) () ⟨none, offset, text⟩ =
      segmentsFrom (ruleStep flowRules) () ⟨none, other, text⟩ := by
  refine segmentsFrom_of_same () _ ?_ ⟨rfl, rfl⟩
  rintro state ⟨before, offset, rest⟩ ⟨_, other, _⟩ ⟨rfl, rfl⟩
  rfl

/-- The spans of a value are those of segments of it that have the texts of their kinds, the same
ones wherever the value starts. -/
theorem exists_segments_of_value (value : List Char) :
    ∃ segments, Segment.characters segments = value ∧
      (∀ offset, valueSpans offset value = Segment.spansFrom offset segments) ∧
      AllSpelled segments := by
  -- The induction needs some offset, and what it gives holds of all of them.
  have start : Nat := 0
  fun_induction valueSpans start value with
  | case1 start =>
    exact ⟨[], rfl, fun offset => by rw [valueSpans, Segment.spansFrom], by simp [AllSpelled]⟩
  | case2 start first rest kind whole =>
    refine ⟨[.labelled kind (first :: rest)], by simp [Segment.labelled], fun offset => ?_, ?_⟩
    · rw [valueSpans, whole]
      rfl
    · simpa [AllSpelled, Segment.labelled] using wholeKind?_spelled whole
  | case3 start first rest whole kind count property stop tail inductionHypothesis =>
    obtain ⟨segments, spelled, spans, own⟩ := inductionHypothesis
    refine ⟨.labelled kind (first :: rest.take count) :: .plain (tail.takeWhile isBlank) ::
      segments, ?_, fun offset => ?_, ?_⟩
    · simp [Segment.labelled, Segment.plain, spelled, tail, trimStart]
    · have size : offset + byteSize (first :: rest.take count) =
          offset + first.utf8Size + byteSize (rest.take count) := by
        rw [byteSize_cons, Nat.add_assoc]
      rw [valueSpans, whole]
      simp only [property, spans, Segment.labelled, Segment.plain, Segment.spansFrom, size, tail]
    · simpa [AllSpelled, Segment.labelled, Segment.plain] using
        ⟨property?_spelled property, own⟩
  | case4 start first rest whole property opens =>
    let place : Place := ⟨none, start, first :: rest⟩
    refine ⟨segmentsFrom (ruleStep flowRules) () place, characters_segmentsFrom _ _ place,
      fun offset => ?_, flow_spelled place⟩
    rw [valueSpans, whole]
    simp only [property, opens, ↓reduceIte]
    rw [segments_of_flow start offset]
    exact scanFrom_eq_spansFrom _ _ _
  | case5 start first rest whole property opens =>
    refine ⟨[.plain (first :: rest)], by simp [Segment.plain], fun offset => ?_,
      by simp [AllSpelled, Segment.plain]⟩
    rw [valueSpans, whole]
    simp only [property, opens]
    rfl

end Values

/-! ## Lines -/

/-- What the kind of a token promises of its text and of the tokens behind it. -/
def Promises (token : Token) (behind : List Token) : Prop :=
  match token.kind with
  | .text => True
  | .key => ColonFollows isIndent behind
  | .comment => token.text.toList.head? = some '#' ∧ behind = []
  | kind => Spelled kind token.text.toList

theorem promises_of_spelled {kind : TokenKind} {text : List Char} (spelled : Spelled kind text)
    (behind : List Token) : Promises ⟨kind, String.ofList text⟩ behind := by
  have own : Spelled kind (String.ofList text).toList := by rwa [String.toList_ofList]
  cases kind with
  | text => trivial
  | key => contradiction
  | comment => contradiction
  | _ => exact own

/-- Do the tokens of segments keep the promises of their kinds, whatever comes before them? -/
def KeepsPromises (segments : List Segment) : Prop :=
  ∀ before, Segment.Each (fun _ => Promises) before segments

section Lines

variable {segments others : List Segment} {text rest : List Char}

theorem keepsPromises_nil : KeepsPromises [] :=
  fun _ => trivial

theorem KeepsPromises.plain (keeps : KeepsPromises segments) (text : List Char) :
    KeepsPromises (.plain text :: segments) := by
  intro before
  rw [Segment.each_plain_cons]
  exact keeps _

theorem KeepsPromises.labelled {kind : TokenKind} (keeps : KeepsPromises segments)
    (promises : Promises ⟨kind, String.ofList text⟩ (Segment.tokens segments)) :
    KeepsPromises (.labelled kind text :: segments) := by
  intro before
  rw [Segment.each_labelled_cons]
  exact ⟨promises, keeps _⟩

theorem KeepsPromises.mark (keeps : KeepsPromises segments) (text : List Char) :
    KeepsPromises (.labelled .punctuation text :: segments) :=
  keeps.labelled trivial

theorem KeepsPromises.append (keeps : KeepsPromises segments) (spelled : AllSpelled others) :
    KeepsPromises (others ++ segments) := by
  intro before
  refine Segment.each_append ?_ (keeps _)
  intro segment member kind isKind _ behind
  exact promises_of_spelled (spelled segment member kind isKind) behind

theorem keepsPromises_comment (opened : text.head? = some '#') :
    KeepsPromises [.labelled .comment text] :=
  keepsPromises_nil.labelled ⟨by rwa [String.toList_ofList], rfl⟩

theorem head?_of_beforeComment {quote : Option Char} {afterBlank : Bool}
    {content comment : List Char}
    (split : content = beforeComment quote afterBlank content ++ comment)
    (present : comment ≠ []) : comment.head? = some '#' := by
  fun_induction beforeComment quote afterBlank content with
  | case1 => exact absurd split.symm present
  | case2 afterBlank c rest quote inductionHypothesis =>
    exact inductionHypothesis (List.cons.inj split).2
  | case3 afterBlank c rest opens =>
    obtain ⟨-, rfl⟩ : afterBlank = true ∧ c = '#' := by simpa using opens
    obtain rfl : '#' :: rest = comment := split
    rfl
  | case4 afterBlank c rest unsigned inductionHypothesis =>
    exact inductionHypothesis (List.cons.inj split).2

/-- A comment runs to the end of its line, if there is one. -/
theorem exists_segments_of_comment {value comment content : List Char} (offset : Nat)
    (split : value ++ comment = content)
    (opened : comment ≠ [] → comment.head? = some '#') :
    ∃ segments, Segment.characters segments = comment ∧
      (if value.length < content.length then
          [⟨.comment, offset + byteSize value, offset + byteSize content⟩]
        else []) = Segment.spansFrom (offset + byteSize value) segments ∧
      KeepsPromises segments := by
  subst split
  by_cases present : comment = []
  · subst present
    exact ⟨[], rfl, by simp [Segment.spansFrom], keepsPromises_nil⟩
  · have longer : value.length < (value ++ comment).length := by
      have positive := List.length_pos_iff.mpr present
      rw [List.length_append]
      omega
    refine ⟨[.labelled .comment comment], by simp [Segment.labelled], ?_,
      keepsPromises_comment (opened present)⟩
    rw [if_pos longer]
    simp [Segment.spansFrom, Segment.labelled, Nat.add_assoc]

theorem exists_segments_of_content (offset : Nat) (content : List Char) :
    ∃ segments, Segment.characters segments = content ∧
      contentSpans offset content = Segment.spansFrom offset segments ∧
      KeepsPromises segments := by
  generalize cut : beforeComment none true content = value
  obtain ⟨comment, split⟩ := beforeComment_isPrefix none true content
  have opened : comment ≠ [] → comment.head? = some '#' := head?_of_beforeComment split.symm
  rw [cut] at split
  obtain ⟨lost, whole⟩ := trimEnd_isPrefix (trimStart value)
  have parts : value = value.takeWhile isBlank ++ (trim value ++ lost) := by
    rw [trim, whole, trimStart, List.takeWhile_append_dropWhile]
  obtain ⟨own, ownText, ownSpans, spelled⟩ := exists_segments_of_value (trim value)
  obtain ⟨ending, endingText, endingSpans, keeps⟩ :=
    exists_segments_of_comment offset split opened
  have stop : offset + byteSize (value.takeWhile isBlank) + byteSize (trim value) +
      byteSize lost = offset + byteSize value := by
    conv_rhs => rw [parts]
    simp [Nat.add_assoc]
  refine ⟨.plain (value.takeWhile isBlank) :: (own ++ .plain lost :: ending), ?_, ?_,
    ((keeps.plain lost).append spelled).plain _⟩
  · rw [Segment.characters_cons, Segment.characters_append, Segment.characters_cons, ownText,
      endingText]
    conv_rhs => rw [← split, parts]
    simp [Segment.plain]
  · simp only [contentSpans, cut, ownSpans, endingSpans]
    simp only [Segment.spansFrom, Segment.plain, Segment.spansFrom_append, ownText, stop]

/-! ## The head of a line -/

theorem plainKey_fits : plainKey.Fits := by
  apply fits_andThen (fits_one _)
  intro text length read
  obtain rfl := Option.some.inj read
  let body := text.takeWhile fun c => c != ':' && c != '#'
  have shorter := (List.dropWhile_suffix isIndent (l := body.reverse)).length_le
  have bound := (List.takeWhile_prefix (l := text) fun c => c != ':' && c != '#').length_le
  rw [List.length_reverse] at shorter
  exact Nat.le_trans shorter bound

theorem key_fits : key.Fits := by
  have through : (char '\'' ++ .through (· == '\'')).Fits :=
    fits_andThen (fits_one _) (fits_andThen (fits_many _) (fits_one _))
  exact fits_orElse (fits_escapedQuote _) (fits_orElse through plainKey_fits)

theorem gap_fits : Rule.Fits gap :=
  Rule.fits_skip (fits_orElse (fits_run _) (fits_ahead _))

theorem head_fits : Rule.Fits head := by
  have dash : Rule.Fits (.sequence [.token .punctuation (.char '-'), gap]) := by
    refine Rule.fits_sequence ?_
    simp only [List.forall_mem_cons]
    exact ⟨Rule.fits_token (fits_one _) _, gap_fits, List.forall_mem_nil _⟩
  have name : Rule.Fits (.sequence
      [.token .key key, .skip (.many isIndent), .token .punctuation (.char ':'), gap]) := by
    refine Rule.fits_sequence ?_
    simp only [List.forall_mem_cons]
    exact ⟨Rule.fits_token key_fits _, Rule.fits_skip (fits_many _),
      Rule.fits_token (fits_one _) _, gap_fits, List.forall_mem_nil _⟩
  refine Rule.fits_sequence ?_
  simp only [List.forall_mem_cons]
  exact ⟨Rule.fits_skip (fits_many _), Rule.fits_optional dash, Rule.fits_optional name,
    List.forall_mem_nil _⟩

section Heads

variable {before : Option Char} {offset : Nat}

/-- A dash keeps no promise but those of the tokens behind it. -/
theorem keepsPromises_of_dash
    (read : (Rule.sequence [.token .punctuation (.char '-'), gap]).Reads before offset others rest)
    (keeps : KeepsPromises segments) : KeepsPromises (others ++ segments) := by
  obtain ⟨first, left, rfl, dashRead, read⟩ := read.of_sequence_cons
  obtain ⟨dash, rfl, -⟩ := Rule.reads_token_iff.mp dashRead
  obtain ⟨second, left, rfl, gapRead, read⟩ := read.of_sequence_cons
  obtain ⟨blanks, rfl, -⟩ := gapRead.of_skip
  obtain rfl := read.of_sequence_nil
  exact (keeps.plain blanks).mark dash

/-- The colon of a key comes behind it, if not at once then beyond blanks. -/
theorem keepsPromises_of_key
    (read : (Rule.sequence [.token .key key, .skip (.many isIndent),
      .token .punctuation (.char ':'), gap]).Reads before offset others rest)
    (keeps : KeepsPromises segments) : KeepsPromises (others ++ segments) := by
  obtain ⟨first, left, rfl, keyRead, read⟩ := read.of_sequence_cons
  obtain ⟨name, rfl, -⟩ := Rule.reads_token_iff.mp keyRead
  obtain ⟨second, left, rfl, blanksRead, read⟩ := read.of_sequence_cons
  obtain ⟨blanks, rfl, blanksReads⟩ := blanksRead.of_skip
  obtain ⟨third, left, rfl, colonRead, read⟩ := read.of_sequence_cons
  obtain ⟨colon, rfl, colonReads⟩ := Rule.reads_token_iff.mp colonRead
  obtain ⟨c, rfl, isColon⟩ := reads_one_iff.mp colonReads
  obtain rfl : c = ':' := by simpa using isColon
  obtain ⟨fourth, left, rfl, gapRead, read⟩ := read.of_sequence_cons
  obtain ⟨spaces, rfl, -⟩ := gapRead.of_skip
  obtain rfl := read.of_sequence_nil
  have behindName := ((keeps.plain spaces).mark [':']).plain blanks
  exact behindName.labelled (colonFollows_tokens (reads_many_iff.mp blanksReads).1 _)

theorem keepsPromises_of_head (read : Rule.Reads head before offset others rest)
    (keeps : KeepsPromises segments) : KeepsPromises (others ++ segments) := by
  obtain ⟨first, left, rfl, indentRead, read⟩ := Rule.Reads.of_sequence_cons read
  obtain ⟨indent, rfl, -⟩ := indentRead.of_skip
  obtain ⟨second, left, rfl, dashRead, read⟩ := read.of_sequence_cons
  obtain ⟨third, left, rfl, keyRead, read⟩ := read.of_sequence_cons
  obtain rfl := read.of_sequence_nil
  have behindDash : KeepsPromises (third ++ segments) := by
    rcases keyRead.of_optional with rfl | present
    · exact keeps
    · exact keepsPromises_of_key present keeps
  have behindIndent : KeepsPromises (second ++ (third ++ segments)) := by
    rcases dashRead.of_optional with rfl | present
    · exact behindDash
    · exact keepsPromises_of_dash present behindDash
  simpa using behindIndent.plain indent

/-- The pieces at the head of a line are those of segments of it. -/
theorem exists_segments_of_head (line : List Char) :
    ∃ segments rest, line = Segment.characters segments ++ rest ∧
      (head (.start line)).getD [] = segments.map Segment.piece ∧
      ∀ tail, KeepsPromises tail → KeepsPromises (segments ++ tail) := by
  cases found : head (.start line) with
  | none => exact ⟨[], line, rfl, rfl, fun _ keeps => keeps⟩
  | some pieces =>
    obtain ⟨segments, rest, rfl, rfl⟩ := Piece.exists_segments (head_fits _ _ found)
    have read : Rule.Reads head none 0 segments rest := found
    exact ⟨segments, rest, rfl, rfl, fun _ keeps => keepsPromises_of_head read keeps⟩

end Heads

/-- The spans of a line are those of segments of it that keep the promises of their kinds. -/
theorem exists_segments_of_line (line : List Char) :
    ∃ segments, Segment.characters segments = line ∧
      spans line = Segment.spansFrom 0 segments ∧ KeepsPromises segments := by
  obtain ⟨lost, whole⟩ := trimEnd_isPrefix (trimStart line)
  have indented : line.takeWhile isBlank ++ trimStart line = line :=
    List.takeWhile_append_dropWhile
  unfold spans
  dsimp only
  split
  · next opened =>
    rw [trim, head?_trimEnd (stops_trimStart line)] at opened
    refine ⟨[.plain (line.takeWhile isBlank), .labelled .comment (trimStart line)], ?_, ?_,
      (keepsPromises_comment opened).plain _⟩
    · simpa [Segment.plain, Segment.labelled] using indented
    · have size : byteSize (line.takeWhile isBlank) + byteSize (trimStart line) =
          byteSize line := by
        rw [← byteSize_append, indented]
      simp [Segment.spansFrom, Segment.plain, Segment.labelled, size]
  split
  · next marks =>
    have size : byteSize (trim line) = 3 := by
      rcases marks with marks | marks <;> rw [marks] <;> rfl
    refine ⟨[.plain (line.takeWhile isBlank), .labelled .punctuation (trim line), .plain lost],
      ?_, ?_, ((keepsPromises_nil.plain lost).mark _).plain _⟩
    · simp [Segment.plain, Segment.labelled, trim, whole, indented]
    · simp [Segment.spansFrom, Segment.plain, Segment.labelled, size]
  · obtain ⟨own, rest, rfl, pieces, keepsHead⟩ := exists_segments_of_head line
    obtain ⟨others, rfl, spans, keeps⟩ :=
      exists_segments_of_content (0 + byteSize (Segment.characters own)) rest
    refine ⟨own ++ others, Segment.characters_append own others, ?_, keepsHead _ keeps⟩
    rw [pieces, Segment.total_map_piece, Place.start, Place.forward_append, Piece.spansFrom_eq,
      Segment.segments_map_piece, Segment.spansFrom_append, spans]

end Lines

end Grammar.Yaml

/-- In every line of YAML, a token has the text that its kind promises, a key has its colon behind
it, and nothing comes behind a comment. -/
theorem yaml_tokens_keep_promises {line : String} {front behind : List Token} {token : Token}
    (split : tokenize .yaml line = front ++ token :: behind) :
    Grammar.Yaml.Promises token behind := by
  obtain ⟨segments, whole, spans, keeps⟩ := Grammar.Yaml.exists_segments_of_line line.toList
  have tokens : tokenize .yaml line = Segment.tokens segments := by
    rw [← coverLine_spansFrom, whole, ← spans]
    rfl
  by_cases isText : token.kind = .text
  · simp [Grammar.Yaml.Promises, isText]
  · exact Segment.holds_of_tokens (keeps none) isText (tokens.symm.trans split)

open Grammar.Yaml in
/-- A key with a blank before its colon, a number in a list, and a comment. -/
theorem promises_of_list_line :
    tokenize .yaml "- a : [.5, No] # x" =
        [⟨.punctuation, "-"⟩, ⟨.text, " "⟩, ⟨.key, "a"⟩, ⟨.text, " "⟩, ⟨.punctuation, ":"⟩,
          ⟨.text, " "⟩, ⟨.bracket, "["⟩, ⟨.number, ".5"⟩, ⟨.punctuation, ","⟩, ⟨.text, " "⟩,
          ⟨.boolean, "No"⟩, ⟨.bracket, "]"⟩, ⟨.text, " "⟩, ⟨.comment, "# x"⟩] ∧
      ColonFollows isIndent [⟨.text, " "⟩, ⟨.punctuation, ":"⟩, ⟨.text, " "⟩, ⟨.bracket, "["⟩,
        ⟨.number, ".5"⟩, ⟨.punctuation, ","⟩, ⟨.text, " "⟩, ⟨.boolean, "No"⟩, ⟨.bracket, "]"⟩,
        ⟨.text, " "⟩, ⟨.comment, "# x"⟩] ∧
      IsNumber ".5".toList ∧
      "# x".toList.head? = some '#' := by
  let first : List Token := [⟨.punctuation, "-"⟩, ⟨.text, " "⟩]
  let second : List Token :=
    [⟨.text, " "⟩, ⟨.punctuation, ":"⟩, ⟨.text, " "⟩, ⟨.bracket, "["⟩]
  let third : List Token :=
    [⟨.punctuation, ","⟩, ⟨.text, " "⟩, ⟨.boolean, "No"⟩, ⟨.bracket, "]"⟩, ⟨.text, " "⟩]
  let key : Token := ⟨.key, "a"⟩
  let number : Token := ⟨.number, ".5"⟩
  let comment : Token := ⟨.comment, "# x"⟩
  have atKey : tokenize .yaml "- a : [.5, No] # x" =
      first ++ key :: (second ++ number :: (third ++ [comment])) := by
    decide +kernel
  have atNumber : tokenize .yaml "- a : [.5, No] # x" =
      (first ++ key :: second) ++ number :: (third ++ [comment]) := atKey
  have atComment : tokenize .yaml "- a : [.5, No] # x" =
      (first ++ key :: second ++ number :: third) ++ comment :: [] := atKey
  have colon : ColonFollows isIndent (second ++ number :: (third ++ [comment])) :=
    yaml_tokens_keep_promises atKey
  have numeral : IsNumber ".5".toList := yaml_tokens_keep_promises atNumber
  have sign : "# x".toList.head? = some '#' ∧ ([] : List Token) = [] :=
    yaml_tokens_keep_promises atComment
  exact ⟨atKey, colon, numeral, sign.1⟩

end Highlight
