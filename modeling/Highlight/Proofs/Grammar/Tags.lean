import Highlight.Proofs.Grammar.Markup
import Highlight.Proofs.History

/-!
Inside and outside of tags. A flag that follows the tokens of a line of markup, up at the name of a
tag and down at a closing bracket, is the state of the scan; so whatever the line, what belongs to a
tag stands where the flag is up.
-/

set_option autoImplicit false

namespace Highlight

open Text

namespace Grammar.Markup

open Text.Lexeme

/-! ## The start of a line -/

/-- The opening of an attribute with a value in quotes, in front of anything. -/
inductive OpensAttribute : List Char → Prop
  | intro {before name afterName beforeValue : List Char} {quote : Char} : IsBlanks before →
      IsAttributeName name → IsBlanks afterName → IsBlanks beforeValue → quote ∈ ['"', '\''] →
      ∀ rest, OpensAttribute (before ++ (name ++ (afterName ++ '=' :: (beforeValue ++
        quote :: rest))))

/-- Is the first bracket of a line a closing one, or is there no bracket and an attribute at the
start? -/
inductive OpensInTag : List Char → Prop
  | closing {front : List Char} : '<' ∉ front → '>' ∉ front →
      ∀ back, OpensInTag (front ++ '>' :: back)
  | assignment {line : List Char} : '<' ∉ line → '>' ∉ line → OpensAttribute line → OpensInTag line

section Starts

variable {line : List Char}

theorem attributeName_fits : attributeName.Fits :=
  fits_andThen (fits_one _) (fits_many _)

theorem isAttributeName_of_reads {name rest : List Char} (read : attributeName.Reads name rest) :
    IsAttributeName name := by
  rcases reads_andThen_iff.mp read with ⟨first, others, rfl, firstRead, othersRead⟩
  rcases reads_one_iff.mp firstRead with ⟨c, rfl, opens⟩
  exact ⟨c, others, rfl, opens, (reads_many_iff.mp othersRead).1⟩

theorem continuation_fits : continuation.Fits := by
  apply fits_andThen _ (fits_one _)
  apply fits_andThen _ (fits_many _)
  apply fits_andThen _ (fits_one _)
  apply fits_andThen _ (fits_many _)
  exact fits_andThen (fits_many _) attributeName_fits

theorem opensAttribute_of_reads {text rest : List Char} (read : continuation.Reads text rest) :
    OpensAttribute (text ++ rest) := by
  rcases reads_andThen_iff.mp read with ⟨front, quotes, rfl, read, quoteRead⟩
  rcases reads_andThen_iff.mp read with ⟨front, beforeValue, rfl, read, innerRead⟩
  rcases reads_andThen_iff.mp read with ⟨front, equals, rfl, read, equalsRead⟩
  rcases reads_andThen_iff.mp read with ⟨front, afterName, rfl, read, afterRead⟩
  rcases reads_andThen_iff.mp read with ⟨before, name, rfl, beforeRead, nameRead⟩
  rcases reads_one_iff.mp quoteRead with ⟨quote, rfl, isQuote⟩
  rw [reads_char_iff.mp equalsRead]
  have opens := OpensAttribute.intro (reads_many_iff.mp beforeRead).1
    (isAttributeName_of_reads nameRead) (reads_many_iff.mp afterRead).1
    (reads_many_iff.mp innerRead).1 (by simpa using isQuote) rest
  simpa using opens

theorem stops_of_attributeName {name : List Char} (isName : IsAttributeName name)
    (rest : List Char) : Stops isBlank (name ++ rest) := by
  rcases isName with ⟨c, others, rfl, opens, -⟩
  have noBlank : isBlank c = false := not_isBlank_of_member opensAttribute opens (by decide +kernel)
  simpa [Stops] using noBlank

theorem reads_of_opensAttribute (opens : OpensAttribute line) :
    ∃ text rest, line = text ++ rest ∧ continuation.Reads text rest := by
  cases opens with
  | @intro before name afterName beforeValue quote indented isName blank inner isQuote rest =>
    have equalsStops (tail : List Char) : Stops isBlank ('=' :: tail) := by
      simpa [Stops] using (by decide : isBlank '=' = false)
    have quoteStops : Stops isBlank ([quote] ++ rest) := by
      have noBlank : ∀ c ∈ ['"', '\''], isBlank c = false := forall_mem_of_all (by decide)
      simpa [Stops] using noBlank quote isQuote
    have beforeRead : (many isBlank).Reads before
        (name ++ (afterName ++ (['='] ++ (beforeValue ++ ([quote] ++ rest))))) :=
      reads_many indented (stops_of_attributeName isName _)
    have nameRead : attributeName.Reads name
        (afterName ++ (['='] ++ (beforeValue ++ ([quote] ++ rest)))) :=
      reads_name isName (stops_of_blanks blank fun _ => stops_of_mark (by simp) _)
    have afterRead : (many isBlank).Reads afterName (['='] ++ (beforeValue ++ ([quote] ++ rest))) :=
      reads_many blank (equalsStops _)
    have equalsRead : (char '=').Reads ['='] (beforeValue ++ ([quote] ++ rest)) := reads_one rfl _
    have innerRead : (many isBlank).Reads beforeValue ([quote] ++ rest) :=
      reads_many inner quoteStops
    have quoteRead : (oneOf ['"', '\'']).Reads [quote] rest := reads_one (by simpa using isQuote) _
    have named := reads_andThen (reads_andThen beforeRead nameRead) afterRead
    have read := reads_andThen (reads_andThen (reads_andThen named equalsRead) innerRead) quoteRead
    exact ⟨_, rest, by simp, read⟩

theorem continuation_isSome_iff :
    (continuation.length? line).isSome ↔ OpensAttribute line := by
  constructor
  · intro present
    rcases Option.isSome_iff_exists.mp present with ⟨length, found⟩
    rcases continuation_fits.exists_reads found with ⟨text, rest, rfl, read⟩
    exact opensAttribute_of_reads read
  · intro opens
    rcases reads_of_opensAttribute opens with ⟨text, rest, rfl, read⟩
    exact Option.isSome_iff_exists.mpr ⟨_, read⟩

theorem forall_noBracket_iff :
    (∀ c ∈ line, (!(c == '<' || c == '>'))) ↔ '<' ∉ line ∧ '>' ∉ line := by
  constructor
  · intro clear
    refine ⟨?_, ?_⟩
    · intro member
      simpa using clear '<' member
    · intro member
      simpa using clear '>' member
  · rintro ⟨noOpening, noClosing⟩ c member
    have notOpening : c ≠ '<' := ne_of_mem_of_not_mem member noOpening
    have notClosing : c ≠ '>' := ne_of_mem_of_not_mem member noClosing
    simp [notOpening, notClosing]

/-- A line starts inside of a tag when it looks like one that goes on with it. -/
theorem startsInTag_iff : startsInTag line ↔ OpensInTag line := by
  unfold startsInTag
  split
  · next bracket found =>
    rcases List.find?_eq_some_iff_append.mp found with ⟨isBracket, front, back, whole, clear⟩
    rw [forall_noBracket_iff] at clear
    constructor
    · intro isClosing
      obtain rfl : bracket = '>' := eq_of_beq isClosing
      rw [whole]
      exact .closing clear.1 clear.2 back
    · intro opens
      cases opens with
      | @closing left noOpening noClosing right =>
        -- The closing bracket is the first one, so it is the one that was found.
        have first : (left ++ '>' :: right).find? (fun c => c == '<' || c == '>') = some '>' := by
          apply List.find?_eq_some_iff_append.mpr
          exact ⟨rfl, left, right, rfl, forall_noBracket_iff.mpr ⟨noOpening, noClosing⟩⟩
        cases found.symm.trans first
        rfl
      | assignment noOpening noClosing _ =>
        have absent := forall_noBracket_iff.mpr ⟨noOpening, noClosing⟩ bracket (by simp [whole])
        simp [isBracket] at absent
  · next nothing =>
    have clear : '<' ∉ line ∧ '>' ∉ line := by
      rw [← forall_noBracket_iff]
      simpa using nothing
    rw [continuation_isSome_iff]
    constructor
    · exact .assignment clear.1 clear.2
    · intro opens
      cases opens with
      | closing => simp at clear
      | assignment _ _ opens => exact opens

instance : DecidablePred OpensInTag :=
  fun line => decidable_of_iff (startsInTag line) startsInTag_iff

end Starts

/-! ## The flag -/

/-- Is a token a bracket that closes a tag? -/
def closesTag (token : Token) : Bool :=
  token.kind == .bracket && token.text.toList.getLast? == some '>'

/-- Is a line inside of a tag behind a token, when it was or was not before it? -/
def insideAfter (inside : Bool) (token : Token) : Bool :=
  if token.kind = .tag then true else if closesTag token then false else inside

/-- Does a token belong to a tag, behind its name? -/
def BelongsToTag (token : Token) : Prop :=
  token.kind ∈ [.attribute, .punctuation, .string] ∨ closesTag token

/-- Is an equals sign the next token, or the one behind blank text? -/
inductive EqualsFollows : List Token → Prop
  | next (others : List Token) : EqualsFollows (⟨.punctuation, "="⟩ :: others)
  | beyond {gap : String} : IsBlanks gap.toList → ∀ others,
      EqualsFollows (⟨.text, gap⟩ :: ⟨.punctuation, "="⟩ :: others)

/-- What the kind of a token asks of the flag before it and of the tokens around it. -/
structure Obeys (inside : Bool) (front : List Token) (token : Token) (behind : List Token) :
    Prop where
  insideTag : BelongsToTag token → inside = true
  behindBracket : token.kind = .tag → ∃ earlier bracket, bracket ∈ ["<", "</"] ∧
    front = earlier ++ [⟨.bracket, bracket⟩]
  beforeEquals : token.kind = .attribute → EqualsFollows behind

/-! ## Steps -/

/-- What a step reads, and whether the scan is inside of a tag before and behind it. -/
inductive Reading : Bool → List Segment → Bool → Prop
  | comment (inside : Bool) {text : List Char} : text ≠ [] →
      Reading inside [.labelled .comment text] inside
  | declaration (inside : Bool) {text : List Char} : text ≠ [] →
      Reading inside [.labelled .keyword text] inside
  | opening (inside : Bool) {bracket name : List Char} : bracket ∈ [['<'], ['<', '/']] →
      name ≠ [] → Reading inside [.labelled .bracket bracket, .labelled .tag name] true
  | assignment {name blanks : List Char} : name ≠ [] → IsBlanks blanks →
      Reading true [.labelled .attribute name, .plain blanks, .labelled .punctuation ['=']] true
  | value {text : List Char} : text ≠ [] → Reading true [.labelled .string text] true
  | closing {bracket : List Char} : bracket ∈ [['>'], ['/', '>']] →
      Reading true [.labelled .bracket bracket] false
  | plain (inside : Bool) {text : List Char} : text ≠ [] → Reading inside [.plain text] inside

section Steps

variable {inside next : Bool} {before : Option Char} {offset : Nat} {segments : List Segment}
  {rest : List Char}

theorem Reading.advances (reading : Reading inside segments next) :
    Segment.characters segments ≠ [] := by
  cases reading with
  | opening inside listed present => simp [Segment.labelled, present]
  | closing listed =>
    rcases List.mem_pair.mp listed with rfl | rfl
    · exact List.cons_ne_nil _ _
    · exact List.cons_ne_nil _ _
  | comment inside present => simpa [Segment.labelled] using present
  | declaration inside present => simpa [Segment.labelled] using present
  | assignment present blank => simp [Segment.labelled]
  | value present => simpa [Segment.labelled] using present
  | plain inside present => simpa [Segment.plain] using present

theorem everywhere_fits : Rule.Fits everywhere := by
  apply Rule.fits_firstOf
  simp only [List.forall_mem_cons]
  refine ⟨Rule.fits_token (fits_blockComment _ _) _, Rule.fits_token ?_ _, List.forall_mem_nil _⟩
  apply fits_andThen _ (fits_optional (fits_one _))
  exact fits_andThen (fits_andThen (fits_one _) (fits_one _)) (fits_many _)

theorem opening_fits : Rule.Fits opening := by
  apply Rule.fits_sequence
  simp only [List.forall_mem_cons]
  refine ⟨Rule.fits_token ?_ _, Rule.fits_token ?_ _, List.forall_mem_nil _⟩
  · exact fits_andThen (fits_one _) (fits_optional (fits_one _))
  · exact fits_andThen (fits_one _) (fits_many _)

theorem inTag_fits : Rule.Fits inTag := by
  have valueFits (quote : Char) : (value quote).Fits :=
    fits_andThen (fits_andThen (fits_one _) (fits_many _)) (fits_one _)
  apply Rule.fits_firstOf
  simp only [List.forall_mem_cons]
  refine ⟨Rule.fits_sequence ?_, Rule.fits_skip attributeName_fits, Rule.fits_token ?_ _,
    List.forall_mem_nil _⟩
  · simp only [List.forall_mem_cons]
    exact ⟨Rule.fits_token attributeName_fits _, Rule.fits_skip (fits_many _),
      Rule.fits_token (fits_one _) _, List.forall_mem_nil _⟩
  · exact fits_orElse (valueFits _) (valueFits _)

theorem closing_fits : Rule.Fits closing :=
  Rule.fits_token (fits_andThen (fits_optional (fits_one _)) (fits_one _)) _

theorem attributeName_advances : attributeName.Advances :=
  advances_andThen (advances_one _) _

theorem values_advance : (value '"' <|> value '\'').Advances := by
  apply advances_orElse
  · exact advances_andThen_right _ (advances_one _)
  · exact advances_andThen_right _ (advances_one _)

theorem inTag_advances : Rule.Advances inTag := by
  apply Rule.advances_firstOf
  simp only [List.forall_mem_cons]
  refine ⟨Rule.advances_sequence ⟨_, List.mem_cons_self, ?_⟩,
    Rule.advances_classified attributeName_advances _, Rule.advances_token values_advance _,
    List.forall_mem_nil _⟩
  exact Rule.advances_token attributeName_advances _

theorem closing_advances : Rule.Advances closing :=
  Rule.advances_token (advances_andThen_right _ (advances_one _)) _

theorem step_fits {place : Place} {pieces : List Piece}
    (read : step inside place = some (pieces, next)) :
    Piece.total pieces ≤ place.rest.length := by
  have plain (total : Nat) : Piece.total [.plain total] = total := rfl
  rcases step_cases read with ⟨own, -⟩ | ⟨own, -⟩ | ⟨own, ownRead, -, rfl⟩ | ⟨own, ownRead, -, rfl⟩
  · exact everywhere_fits _ _ own
  · exact opening_fits _ _ own
  · cases inside with
    | true => exact inTag_fits _ _ ownRead
    | false => exact (plain _).trans_le (inTag_fits _ _ ownRead)
  · cases inside with
    | true => exact closing_fits _ _ ownRead
    | false => exact (plain _).trans_le (closing_fits _ _ ownRead)

/-- Outside of tags nothing is labelled. -/
theorem reading_outside {total : Nat} (positive : 0 < total)
    (pieces : segments.map Segment.piece = [.plain total]) : Reading false segments false := by
  rcases List.map_eq_singleton_iff.mp pieces with ⟨⟨kind?, text⟩, rfl, same⟩
  have plain : kind? = none := congrArg Piece.kind? same
  have length : text.length = total := congrArg Piece.length same
  rw [plain]
  apply Reading.plain
  rintro rfl
  exact Nat.ne_of_lt positive length

theorem reading_of_everywhere (read : Rule.Reads everywhere before offset segments rest)
    (inside : Bool) : Reading inside segments inside := by
  rcases read.of_firstOf_cons with comment | ⟨-, read⟩
  · rcases Rule.reads_token_iff.mp comment with ⟨text, rfl, reads⟩
    exact .comment inside (advances_andThen (advances_literal (by decide)) _ reads)
  rcases read.of_firstOf_cons with declaration | ⟨-, read⟩
  · rcases Rule.reads_token_iff.mp declaration with ⟨text, rfl, reads⟩
    apply Reading.declaration
    apply advances_andThen _ _ reads
    exact advances_andThen (advances_andThen (advances_one _) _) _
  · rcases read.of_firstOf with ⟨rule, listed, -⟩
    contradiction

theorem reading_of_opening (read : Rule.Reads opening before offset segments rest)
    (inside : Bool) : Reading inside segments true := by
  rcases read.of_sequence_cons with ⟨first, others, rfl, bracketRead, read⟩
  rcases Rule.reads_token_iff.mp bracketRead with ⟨bracket, rfl, bracketReads⟩
  rcases read.of_sequence_cons with ⟨second, others, rfl, nameRead, read⟩
  rcases Rule.reads_token_iff.mp nameRead with ⟨name, rfl, nameReads⟩
  cases read.of_sequence_nil
  apply Reading.opening
  · rcases reads_andThen_iff.mp bracketReads with ⟨left, slash, rfl, leftRead, slashRead⟩
    rw [reads_char_iff.mp leftRead]
    rcases reads_optional_iff.mp slashRead with present | ⟨rfl, -⟩
    · simp [reads_char_iff.mp present]
    · simp
  · exact advances_andThen (advances_one _) _ nameReads

theorem reading_of_inTag (read : Rule.Reads inTag before offset segments rest) :
    Reading true segments true := by
  rcases read.of_firstOf_cons with own | ⟨-, read⟩
  · rcases own.of_sequence_cons with ⟨first, others, rfl, nameRead, read⟩
    rcases Rule.reads_token_iff.mp nameRead with ⟨name, rfl, nameReads⟩
    rcases read.of_sequence_cons with ⟨second, others, rfl, blanksRead, read⟩
    rcases blanksRead.of_skip with ⟨blanks, rfl, blanksReads⟩
    rcases read.of_sequence_cons with ⟨third, others, rfl, equalsRead, read⟩
    rcases Rule.reads_token_iff.mp equalsRead with ⟨equals, rfl, equalsReads⟩
    cases read.of_sequence_nil
    cases reads_char_iff.mp equalsReads
    exact .assignment (attributeName_advances nameReads) (reads_many_iff.mp blanksReads).1
  rcases read.of_firstOf_cons with name | ⟨-, read⟩
  · rcases name.of_skip with ⟨text, rfl, reads⟩
    exact .plain true (attributeName_advances reads)
  rcases read.of_firstOf_cons with string | ⟨-, read⟩
  · rcases Rule.reads_token_iff.mp string with ⟨text, rfl, reads⟩
    exact .value (values_advance reads)
  · rcases read.of_firstOf with ⟨rule, listed, -⟩
    contradiction

theorem reading_of_closing (read : Rule.Reads closing before offset segments rest) :
    Reading true segments false := by
  rcases Rule.reads_token_iff.mp read with ⟨text, rfl, reads⟩
  rcases reads_andThen_iff.mp reads with ⟨slash, bracket, rfl, slashRead, bracketRead⟩
  rw [reads_char_iff.mp bracketRead]
  apply Reading.closing
  rcases reads_optional_iff.mp slashRead with present | ⟨rfl, -⟩
  · simp [reads_char_iff.mp present]
  · simp

theorem reading_of_step
    (read : step inside ⟨before, offset, Segment.characters segments ++ rest⟩ =
      some (segments.map Segment.piece, next)) : Reading inside segments next := by
  rcases step_cases read with ⟨own, rfl⟩ | ⟨own, rfl⟩ | ⟨own, ownRead, rfl, pieces⟩ |
    ⟨own, ownRead, rfl, pieces⟩
  · exact reading_of_everywhere own _
  · exact reading_of_opening own _
  -- Outside of tags the pieces of the last two rules are lost, and only their length is left.
  · cases next with
    | true =>
      cases pieces
      exact reading_of_inTag ownRead
    | false => exact reading_outside (inTag_advances.total_pos inTag_fits ownRead) pieces
  · cases inside with
    | true =>
      cases pieces
      exact reading_of_closing ownRead
    | false => exact reading_outside (closing_advances.total_pos closing_fits ownRead) pieces

end Steps

/-! ## Whole scans -/

section Scans

variable {inside next start : Bool} {segments past : List Segment}

theorem insideAfter_text (inside : Bool) (token : Token) (isText : token.kind = .text) :
    insideAfter inside token = inside := by
  simp [insideAfter, closesTag, isText]

/-- The flag follows each step of the scan. -/
theorem insideAfter_reading (reading : Reading inside segments next) :
    (Segment.labels segments).foldl insideAfter inside = next := by
  cases reading with
  | comment inside present =>
    simp [Segment.labels, Segment.labelled, present, insideAfter, closesTag]
  | declaration inside present =>
    simp [Segment.labels, Segment.labelled, present, insideAfter, closesTag]
  | opening inside listed present =>
    rcases List.mem_pair.mp listed with rfl | rfl
    · simp [Segment.labels, Segment.labelled, present, insideAfter]
    · simp [Segment.labels, Segment.labelled, present, insideAfter]
  | assignment present blank =>
    simp [Segment.labels, Segment.labelled, Segment.plain, present, insideAfter, closesTag]
  | value present => simp [Segment.labels, Segment.labelled, present, insideAfter, closesTag]
  | closing listed =>
    rcases List.mem_pair.mp listed with rfl | rfl
    · simp [Segment.labels, Segment.labelled, insideAfter, closesTag]
    · simp [Segment.labels, Segment.labelled, insideAfter, closesTag]
  | plain inside present => simp [Segment.labels, Segment.plain]

/-- What the kind of a token asks of the segments before it. -/
structure Placed (start : Bool) (past : List Segment) (token : Token) : Prop where
  insideTag : BelongsToTag token → (Segment.labels past).foldl insideAfter start = true
  behindBracket : token.kind = .tag → ∃ earlier bracket, bracket ∈ [['<'], ['<', '/']] ∧
    past = earlier ++ [.labelled .bracket bracket]

theorem placed_of_inside {token : Token}
    (isInside : (Segment.labels past).foldl insideAfter start = true)
    (noTag : token.kind ≠ .tag) : Placed start past token where
  insideTag _ := isInside
  behindBracket isTag := absurd isTag noTag

theorem placed_of_free {token : Token} (free : ¬BelongsToTag token) (noTag : token.kind ≠ .tag) :
    Placed start past token where
  insideTag belongs := absurd belongs free
  behindBracket isTag := absurd isTag noTag

theorem placed_of_reading (reading : Reading inside segments next)
    (atPlace : (Segment.labels past).foldl insideAfter start = inside) :
    Segment.EachAfter (Placed start) past segments := by
  cases reading with
  | comment inside present =>
    apply Segment.eachAfter_singleton.mpr
    rintro kind ⟨⟩
    exact placed_of_free (by simp [BelongsToTag, closesTag]) (by simp)
  | declaration inside present =>
    apply Segment.eachAfter_singleton.mpr
    rintro kind ⟨⟩
    exact placed_of_free (by simp [BelongsToTag, closesTag]) (by simp)
  | @opening inside bracket name listed present =>
    refine ⟨?_, ?_, trivial⟩
    · rintro kind ⟨⟩
      apply placed_of_free _ (by simp)
      rcases List.mem_pair.mp listed with rfl | rfl
      · simp [BelongsToTag, closesTag, Segment.labelled]
      · simp [BelongsToTag, closesTag, Segment.labelled]
    · rintro kind ⟨⟩
      constructor
      · intro belongs
        simp [BelongsToTag, closesTag] at belongs
      · intro _
        exact ⟨past, bracket, listed, rfl⟩
  | assignment present blank =>
    refine ⟨?_, ?_, ?_, trivial⟩
    · rintro kind ⟨⟩
      exact placed_of_inside atPlace (by simp)
    · rintro kind ⟨⟩
    · rintro kind ⟨⟩
      -- The name before the equals sign leaves the flag as it is.
      apply placed_of_inside _ (by simp)
      rw [Segment.labels_append, List.foldl_append, Segment.labels_append, List.foldl_append,
        atPlace]
      simp [Segment.labels, Segment.labelled, Segment.plain, present, insideAfter, closesTag]
  | value present =>
    apply Segment.eachAfter_singleton.mpr
    rintro kind ⟨⟩
    exact placed_of_inside atPlace (by simp)
  | closing ends =>
    apply Segment.eachAfter_singleton.mpr
    rintro kind ⟨⟩
    exact placed_of_inside atPlace (by simp)
  | plain inside present =>
    apply Segment.eachAfter_singleton.mpr
    rintro kind ⟨⟩

/-- The state of the scan is the flag behind all that it has labelled. -/
theorem tagHistory (start : Bool) :
    ScanHistory step (fun inside past _ => (Segment.labels past).foldl insideAfter start = inside)
      (Placed start) where
  fits := step_fits
  passes := by
    intro inside past offset c rest atPlace _
    simpa [Segment.labels_append, Segment.labels, Segment.plain] using atPlace
  reads := by
    intro inside next past offset segments rest atPlace read
    have reading := reading_of_step read
    refine ⟨reading.advances, ?_, placed_of_reading reading atPlace⟩
    rw [Segment.labels_append, List.foldl_append, atPlace]
    exact insideAfter_reading reading

theorem equalsFollows_tokens {blanks : List Char} (blank : IsBlanks blanks)
    (others : List Segment) :
    EqualsFollows (Segment.tokens (.plain blanks :: .labelled .punctuation ['='] :: others)) := by
  rw [Segment.tokens_plain_labelled blanks others (by simp)]
  cases blanks with
  | nil => exact .next _
  | cons c rest =>
    rw [Cover.push_of_ne_nil (List.cons_ne_nil c rest)]
    exact .beyond (by simpa using blank) _

theorem attributeInvariant :
    ScanInvariant step (fun _ _ _ => True)
      (fun _ token behind => token.kind = .attribute → EqualsFollows behind) where
  fits := step_fits
  passes _ _ := trivial
  reads := by
    intro inside next before offset segments rest _ read
    have reading := reading_of_step read
    refine ⟨reading.advances, trivial, ?_⟩
    intro tail _ each
    cases reading with
    | assignment present blank =>
      rw [List.cons_append, Segment.each_labelled_cons, List.cons_append, Segment.each_plain_cons,
        List.singleton_append, Segment.each_labelled_cons]
      refine ⟨fun _ => equalsFollows_tokens blank tail, by simp, ?_⟩
      simpa [Segment.labelled, Segment.plain] using each
    -- Only an assignment labels an attribute.
    | _ => exact Segment.each_append (by simp [Segment.labelled, Segment.plain]) each

/-- What a scan tells of a token by the segments before it holds of it among the tokens. -/
theorem obeys_of_placed {front behind : List Token} {token : Token}
    (placed : ∃ past, Segment.tokens past = front ∧ Placed start past token)
    (beforeEquals : token.kind = .attribute → EqualsFollows behind) :
    Obeys (front.foldl insideAfter start) front token behind := by
  rcases placed with ⟨past, rfl, placed⟩
  constructor
  · intro belongs
    rw [Segment.tokens, Segment.foldl_tokensAfter insideAfter_text]
    exact placed.insideTag belongs
  · intro isTag
    rcases placed.behindBracket isTag with ⟨earlier, bracket, listed, rfl⟩
    refine ⟨Segment.tokens earlier, String.ofList bracket, ?_, ?_⟩
    · rcases List.mem_pair.mp listed with rfl | rfl
      · exact List.mem_cons_self
      · exact List.mem_cons_of_mem _ List.mem_cons_self
    · apply Segment.tokens_append_labelled
      rcases List.mem_pair.mp listed with rfl | rfl
      · exact List.cons_ne_nil _ _
      · exact List.cons_ne_nil _ _
  · exact beforeEquals

theorem obeys_of_text {front behind : List Token} {token : Token} (isText : token.kind = .text) :
    Obeys inside front token behind where
  insideTag belongs := by simp [BelongsToTag, closesTag, isText] at belongs
  behindBracket isTag := by simp [isText] at isTag
  beforeEquals isAttribute := by simp [isText] at isAttribute

end Scans

end Grammar.Markup

open Grammar.Markup in
/-- Whatever a line of markup holds, what belongs to a tag stands inside of one, the name of a tag
right behind its bracket, and an attribute in front of its equals sign. -/
theorem tokenize_markup_obeys {language : Language} (markup : language ∈ [.xml, .html, .svg])
    (line : String) {front behind : List Token} {token : Token}
    (split : tokenize language line = front ++ token :: behind) :
    Obeys (front.foldl insideAfter (decide (OpensInTag line.toList))) front token behind := by
  have starts : decide (OpensInTag line.toList) = startsInTag line.toList := by
    rw [Bool.eq_iff_iff, decide_eq_true_iff, startsInTag_iff]
  rw [starts]
  by_cases isText : token.kind = .text
  · exact obeys_of_text isText
  · rw [tokenize, spans_of_markup markup, Grammar.Markup.spans] at split
    apply obeys_of_placed
    · exact (tagHistory _).holds rfl isText split
    · exact attributeInvariant.holds _ trivial isText split

open Grammar.Markup in
/-- An attribute of a tag behind the end of another one. -/
theorem attribute_of_second_tag :
    Language.html ∈ [.xml, .html, .svg] ∧
      tokenize .html "x><b c =d" =
        [⟨.text, "x"⟩, ⟨.bracket, ">"⟩, ⟨.bracket, "<"⟩, ⟨.tag, "b"⟩, ⟨.text, " "⟩] ++
          ⟨.attribute, "c"⟩ :: [⟨.text, " "⟩, ⟨.punctuation, "="⟩, ⟨.text, "d"⟩] ∧
      [⟨.text, "x"⟩, ⟨.bracket, ">"⟩, ⟨.bracket, "<"⟩, ⟨.tag, "b"⟩, ⟨.text, " "⟩].foldl insideAfter
        (decide (OpensInTag "x><b c =d".toList)) = true ∧
      EqualsFollows [⟨.text, " "⟩, ⟨.punctuation, "="⟩, ⟨.text, "d"⟩] := by
  have markup : Language.html ∈ [.xml, .html, .svg] := by decide
  have split : tokenize .html "x><b c =d" =
      [⟨.text, "x"⟩, ⟨.bracket, ">"⟩, ⟨.bracket, "<"⟩, ⟨.tag, "b"⟩, ⟨.text, " "⟩] ++
        ⟨.attribute, "c"⟩ :: [⟨.text, " "⟩, ⟨.punctuation, "="⟩, ⟨.text, "d"⟩] := by
    decide +kernel
  have obeys := tokenize_markup_obeys markup _ split
  exact ⟨markup, split, obeys.insideTag (.inl (by simp)), obeys.beforeEquals rfl⟩

end Highlight
