import Highlight.Proofs.CharSets
import Highlight.Proofs.Endings
import Highlight.Proofs.History
import Highlight.Proofs.Labels

/-!
Names in style sheets. What a rule reads holds a name to its end or none of it; only a color,
`!important` and a number with a unit right behind its point may take the first part of a name and
leave the others. So a number begins inside a name only behind one of these.
-/

set_option autoImplicit false

namespace Highlight

open Text

namespace Grammar.Stylesheet

open Text.Lexeme

/-! ## Names at the end of a text -/

/-- Does a character open a name? A letter and an underscore do, a digit and a hyphen do not. -/
def opensName (c : Char) : Bool :=
  isWord c && !isDecimal c

/-- A name at the end of a text, with all that stands before it. -/
structure EndsInName (text outside name : List Char) : Prop where
  whole : text = outside ++ name
  isName : IsName opensName continuesName name
  maximal : ∀ c ∈ outside.getLast?, continuesName c = false

theorem continuesName_of_isWord {c : Char} (member : isWord c) : continuesName c := by
  simp [continuesName, member]

theorem continuesName_of_opensName {c : Char} (opens : opensName c) : continuesName c :=
  continuesName_of_isWord (Bool.and_eq_true_iff.mp opens).1

theorem opensName_of_isDecimal {c : Char} (digit : isDecimal c) : opensName c = false := by
  simp [opensName, digit]

section Names

variable {text first second outside name : List Char}

theorem EndsInName.continues (isEnd : EndsInName text outside name) :
    ∀ c ∈ name, continuesName c := by
  obtain ⟨c, others, rfl, opens, continued⟩ := isEnd.isName
  exact List.forall_mem_cons.mpr ⟨continuesName_of_opensName opens, continued⟩

theorem EndsInName.ne_nil (isEnd : EndsInName text outside name) : name ≠ [] := by
  obtain ⟨c, others, rfl, -⟩ := isEnd.isName
  exact List.cons_ne_nil c others

theorem EndsInName.continues_last (isEnd : EndsInName text outside name) :
    ∃ c ∈ text.getLast?, continuesName c := by
  have present := isEnd.ne_nil
  refine ⟨name.getLast present, ?_, isEnd.continues _ (List.getLast_mem present)⟩
  rw [isEnd.whole]
  exact List.mem_getLast?_append_of_mem_getLast? (List.getLast?_eq_some_getLast present)

/-- A name at the end of two texts starts in the first one or in the second one. -/
theorem EndsInName.of_append (isEnd : EndsInName (first ++ second) outside name) :
    (∃ start, name = start ++ second ∧ EndsInName first outside start) ∨
      ∃ opening, outside = first ++ opening ∧ EndsInName second opening name := by
  obtain ⟨whole, isName, maximal⟩ := isEnd
  rcases List.append_eq_append_iff.mp whole with ⟨opening, rfl, split⟩ | ⟨start, split, rfl⟩
  · right
    refine ⟨opening, rfl, split, isName, fun c last => maximal c ?_⟩
    exact List.mem_getLast?_append_of_mem_getLast? last
  · cases start with
    | nil =>
      right
      rw [List.append_nil] at split
      refine ⟨[], by rw [split, List.append_nil], by simp, by simpa using isName, ?_⟩
      intro c last
      contradiction
    | cons c others =>
      left
      obtain ⟨d, rest, same, opens, continued⟩ := isName
      obtain ⟨rfl, rfl⟩ := List.cons.inj same
      have within : ∀ d ∈ others, continuesName d :=
        fun d member => continued d (List.mem_append_left second member)
      exact ⟨c :: others, rfl, split, ⟨c, others, rfl, opens, within⟩, maximal⟩

/-- A name does not start where no character opens it, nor inside a run of its characters. -/
theorem EndsInName.eq_of_append (isEnd : EndsInName (first ++ second) outside name)
    (opensNone : ∀ c ∈ first, opensName c = false) (members : ∀ c ∈ second, continuesName c) :
    outside = first ∧ name = second := by
  rcases isEnd.of_append with ⟨start, rfl, inFirst⟩ | ⟨opening, rfl, inSecond⟩
  · obtain ⟨c, others, rfl, opens, -⟩ := inFirst.isName
    have closed := opensNone c (by simp [inFirst.whole])
    simp [closed] at opens
  · have empty : opening = [] := by
      by_contra present
      have last := List.getLast?_eq_some_getLast present
      have listed : opening.getLast present ∈ opening ++ name :=
        List.mem_append_left name (List.getLast_mem present)
      have inside := members _ (inSecond.whole ▸ listed)
      simp [inSecond.maximal _ last] at inside
    subst empty
    exact ⟨List.append_nil first, inSecond.whole.symm⟩

end Names

/-! ## Tokens that cut a name -/

/-- The tokens that take only the first part of a name along: the kind, what stands in the token
before the name, and the part of the name. -/
inductive CutsName : TokenKind → List Char → List Char → Prop
  | color {digits : List Char} : 3 ≤ digits.length → digits.length ≤ 8 →
      (∀ c ∈ digits, isHexDigit c) → CutsName .number ['#'] digits
  | important : CutsName .keyword ['!'] "important".toList
  | dimension {sign digits unit : List Char} : sign = [] ∨ sign = ['-'] → IsDecimals digits →
      unit ≠ [] → (∀ c ∈ unit, c.isAlpha) → CutsName .number (sign ++ digits ++ ['.']) unit

/-- Is there a token among the segments that covers the start of the name behind a text, and may cut
the name? -/
def CutIn (segments : List Segment) (outside : List Char) : Prop :=
  ∃ earlier kind opening taken later,
    segments = earlier ++ .labelled kind (opening ++ taken) :: later ∧
      outside = Segment.characters earlier ++ opening ∧ CutsName kind opening taken

theorem CutIn.append_right {first : List Segment} {outside : List Char}
    (cut : CutIn first outside) (second : List Segment) : CutIn (first ++ second) outside := by
  obtain ⟨earlier, kind, opening, taken, later, rfl, rfl, cuts⟩ := cut
  exact ⟨earlier, kind, opening, taken, later ++ second, by simp, rfl, cuts⟩

theorem CutIn.append_left {second : List Segment} {opening : List Char}
    (cut : CutIn second opening) (first : List Segment) :
    CutIn (first ++ second) (Segment.characters first ++ opening) := by
  obtain ⟨earlier, kind, opening, taken, later, rfl, rfl, cuts⟩ := cut
  refine ⟨first ++ earlier, kind, opening, taken, later, by simp, ?_, cuts⟩
  rw [Segment.characters_append, List.append_assoc]

/-- Does a name that a text ends with end there, unless a token among the segments cuts it? -/
def KeepsNames (segments : List Segment) (rest : List Char) : Prop :=
  ∀ outside name, EndsInName (Segment.characters segments) outside name →
    Stops continuesName rest ∨ CutIn segments outside

/-- What keeps names before the one and behind the other of two parts keeps them behind both. -/
theorem keepsNames_append {first second : List Segment} {rest : List Char}
    (present : Segment.characters second ≠ [])
    (before : KeepsNames first (Segment.characters second ++ rest))
    (behind : KeepsNames second rest) : KeepsNames (first ++ second) rest := by
  intro outside name isEnd
  rw [Segment.characters_append] at isEnd
  rcases isEnd.of_append with ⟨start, rfl, inFirst⟩ | ⟨opening, rfl, inSecond⟩
  · -- The second part goes on with the name, so a token of the first one has cut it.
    rcases before outside start inFirst with stops | cut
    · have inside : ∀ c ∈ Segment.characters second, continuesName c :=
        fun c member => isEnd.continues c (List.mem_append_right start member)
      obtain ⟨c, others, text⟩ := List.exists_cons_of_ne_nil present
      have outside : continuesName c = false := stops c (by simp [text])
      have member := inside c (by simp [text])
      simp [outside] at member
    · exact .inr (cut.append_right second)
  · exact (behind opening name inSecond).imp_right fun cut => cut.append_left first

/-! ## Rules -/

/-- Does the rule keep the names in what it reads? -/
def ReadsNames (rule : Rule) : Prop :=
  ∀ ⦃before offset segments rest⦄, rule.Reads before offset segments rest →
    KeepsNames segments rest

theorem readsNames_of_seals {rule : Rule} (seals : rule.Seals continuesName continuesName) :
    ReadsNames rule := by
  intro before offset segments rest read outside name isEnd
  obtain ⟨c, last, inName⟩ := isEnd.continues_last
  exact .inl (seals read c last inName)

theorem readsNames_of_cuts {kind : TokenKind} {lexeme : Lexeme}
    (cuts : ∀ ⦃text rest outside name⦄, lexeme.Reads text rest → EndsInName text outside name →
      CutsName kind outside name) : ReadsNames (.token kind lexeme) := by
  intro before offset segments rest read outside name isEnd
  obtain ⟨text, rfl, reads⟩ := Rule.reads_token_iff.mp read
  rw [Segment.characters_cons, Segment.characters_nil, List.append_nil] at isEnd
  obtain rfl : text = outside ++ name := isEnd.whole
  exact .inr ⟨[], kind, outside, name, [], rfl, rfl, cuts reads isEnd⟩

section Cuts

variable {text rest outside name : List Char}

theorem color_cuts (read : color.Reads text rest) (isEnd : EndsInName text outside name) :
    CutsName .number outside name := by
  obtain ⟨marked, empty, rfl, markedRead, ends⟩ := reads_andThen_iff.mp read
  obtain ⟨rfl, -⟩ := reads_wordEnd_iff.mp ends
  obtain ⟨mark, digits, rfl, markRead, digitsRead⟩ := reads_andThen_iff.mp markedRead
  obtain rfl := reads_char_iff.mp markRead
  obtain ⟨⟨low, high⟩, members, -⟩ := reads_between_iff.mp digitsRead
  rw [List.append_nil] at isEnd
  obtain ⟨rfl, rfl⟩ := isEnd.eq_of_append (forall_mem_of_all rfl)
    fun c member => continuesName_of_isWord (isWord_of_isHexDigit (members c member))
  exact .color low high members

theorem important_cuts (read : (literal "!important" ++ wordEnd).Reads text rest)
    (isEnd : EndsInName text outside name) : CutsName .keyword outside name := by
  obtain ⟨word, empty, rfl, wordRead, ends⟩ := reads_andThen_iff.mp read
  obtain ⟨rfl, -⟩ := reads_wordEnd_iff.mp ends
  obtain rfl := reads_literal_iff.mp wordRead
  have split : "!important".toList ++ [] = ['!'] ++ "important".toList := rfl
  rw [split] at isEnd
  obtain ⟨rfl, rfl⟩ := isEnd.eq_of_append (forall_mem_of_all rfl) (forall_mem_of_all rfl)
  exact .important

/-- The digits of a number without its sign and its unit, and its point among them. -/
inductive IsMagnitude : List Char → Prop
  | whole {digits point fraction : List Char} : IsDecimals digits → point = [] ∨ point = ['.'] →
      (∀ c ∈ fraction, isDecimal c) → IsMagnitude (digits ++ point ++ fraction)
  | fraction {digits : List Char} : IsDecimals digits → IsMagnitude (['.'] ++ digits)

theorem IsMagnitude.opensNone {magnitude : List Char} (isMagnitude : IsMagnitude magnitude) :
    ∀ c ∈ magnitude, opensName c = false := by
  have closed : ∀ digits : List Char, (∀ c ∈ digits, isDecimal c) →
      ∀ c ∈ digits, opensName c = false :=
    fun digits members c member => opensName_of_isDecimal (members c member)
  cases isMagnitude with
  | whole isDecimals point members =>
    simp only [List.forall_mem_append]
    refine ⟨⟨closed _ isDecimals.2, ?_⟩, closed _ members⟩
    rcases point with rfl | rfl <;> exact forall_mem_of_all rfl
  | fraction isDecimals =>
    exact List.forall_mem_append.mpr ⟨forall_mem_of_all rfl, closed _ isDecimals.2⟩

/-- A name begins behind a number only where its point ends it. -/
theorem IsMagnitude.eq_of_last {magnitude : List Char} (isMagnitude : IsMagnitude magnitude)
    (last : ∀ c ∈ magnitude.getLast?, continuesName c = false) :
    ∃ digits, IsDecimals digits ∧ magnitude = digits ++ ['.'] := by
  have clash : ∀ front digits : List Char, magnitude = front ++ digits → digits ≠ [] →
      ¬∀ c ∈ digits, isDecimal c := by
    intro front digits split present members
    have digit := members _ (List.getLast_mem present)
    have isLast : digits.getLast present ∈ magnitude.getLast? := by
      rw [split]
      exact List.mem_getLast?_append_of_mem_getLast? (List.getLast?_eq_some_getLast present)
    have outside := last _ isLast
    simp [continuesName_of_isWord (isWord_of_isDecimal digit)] at outside
  cases isMagnitude with
  | @whole digits point fraction isDecimals isPoint members =>
    obtain rfl : fraction = [] := by
      by_contra present
      exact clash _ fraction rfl present members
    rw [List.append_nil] at clash ⊢
    rcases isPoint with rfl | rfl
    · exact absurd isDecimals.2 (clash [] digits (List.append_nil digits) isDecimals.1)
    · exact ⟨digits, isDecimals, rfl⟩
  | @fraction digits isDecimals => exact absurd isDecimals.2 (clash _ digits rfl isDecimals.1)

theorem parts_of_reads_number (read : number.Reads text rest) :
    ∃ sign magnitude unit, text = sign ++ magnitude ++ unit ∧ (sign = [] ∨ sign = ['-']) ∧
      IsMagnitude magnitude ∧ (unit = ['%'] ∨ ∀ c ∈ unit, c.isAlpha) := by
  obtain ⟨numeral, unit, rfl, numeralRead, unitRead⟩ := reads_andThen_iff.mp read
  obtain ⟨sign, magnitude, rfl, signRead, magnitudeRead⟩ := reads_andThen_iff.mp numeralRead
  refine ⟨sign, magnitude, unit, rfl, ?_, ?_, ?_⟩
  · rcases reads_optional_iff.mp signRead with present | ⟨rfl, -⟩
    · exact .inr (reads_char_iff.mp present)
    · exact .inl rfl
  · rcases reads_orElse_iff.mp magnitudeRead with wholeRead | ⟨-, fractionRead⟩
    · obtain ⟨pointed, fraction, rfl, pointedRead, fractionRead⟩ := reads_andThen_iff.mp wholeRead
      obtain ⟨digits, point, rfl, digitsRead, pointRead⟩ := reads_andThen_iff.mp pointedRead
      obtain ⟨present, members, -⟩ := reads_run_iff.mp digitsRead
      refine .whole ⟨present, members⟩ ?_ (reads_many_iff.mp fractionRead).1
      rcases reads_optional_iff.mp pointRead with isPoint | ⟨rfl, -⟩
      · exact .inr (reads_char_iff.mp isPoint)
      · exact .inl rfl
    · obtain ⟨point, digits, rfl, pointRead, digitsRead⟩ := reads_andThen_iff.mp fractionRead
      obtain rfl := reads_char_iff.mp pointRead
      obtain ⟨present, members, -⟩ := reads_run_iff.mp digitsRead
      exact .fraction ⟨present, members⟩
  · rcases reads_optional_iff.mp unitRead with present | ⟨rfl, -⟩
    · rcases reads_orElse_iff.mp present with percent | ⟨-, letters⟩
      · exact .inl (reads_char_iff.mp percent)
      · exact .inr (reads_run_iff.mp letters).2.1
    · exact .inr (List.forall_mem_nil _)

theorem number_cuts (read : number.Reads text rest) (isEnd : EndsInName text outside name) :
    CutsName .number outside name := by
  obtain ⟨sign, magnitude, unit, rfl, isSign, isMagnitude, isUnit⟩ := parts_of_reads_number read
  have opensNone : ∀ c ∈ sign ++ magnitude, opensName c = false := by
    refine List.forall_mem_append.mpr ⟨?_, isMagnitude.opensNone⟩
    rcases isSign with rfl | rfl <;> exact forall_mem_of_all rfl
  rcases isUnit with rfl | letters
  · have closed : ∀ c ∈ sign ++ magnitude ++ ['%'], opensName c = false :=
      List.forall_mem_append.mpr ⟨opensNone, forall_mem_of_all rfl⟩
    rw [← List.append_nil (sign ++ magnitude ++ ['%'])] at isEnd
    obtain ⟨-, empty⟩ := isEnd.eq_of_append closed (List.forall_mem_nil _)
    exact absurd empty isEnd.ne_nil
  · obtain ⟨rfl, rfl⟩ := isEnd.eq_of_append opensNone
      fun c member => continuesName_of_isWord (isWord_of_isAlpha (letters c member))
    have closed : ∀ c ∈ magnitude.getLast?, continuesName c = false :=
      fun c last => isEnd.maximal c (List.mem_getLast?_append_of_mem_getLast? last)
    obtain ⟨digits, isDecimals, rfl⟩ := isMagnitude.eq_of_last closed
    rw [← List.append_assoc]
    exact .dimension isSign isDecimals isEnd.ne_nil letters

end Cuts

theorem comment_seals : Lexeme.Seals continuesName continuesName (blockComment "/*" "*/") := by
  have closing : "*/".toList = ['*'] ++ ['/'] := rfl
  exact seals_blockComment closing (by decide)

def propertyRule : Rule :=
  .sequence [.token .key property, .skip (.many isBlank), .token .punctuation (.char ':'),
    .skip (.one isBlank <|> .atEnd)]

theorem propertyRule_seals : propertyRule.Seals continuesName continuesName := by
  intro before offset segments rest read c last isMember
  have parts : (Rule.sequence ([.token .key property, .skip (.many isBlank),
      .token .punctuation (.char ':')] ++ [.skip (.one isBlank <|> .atEnd)])).Reads before offset
        segments rest := read
  obtain ⟨others, blank, _, _, rfl, own⟩ := parts.of_sequence_concat
  obtain ⟨text, rfl, reads⟩ := own.of_skip
  rcases reads_orElse_iff.mp reads with blankRead | ⟨-, ended⟩
  · obtain ⟨d, rfl, isBlank⟩ := reads_one_iff.mp blankRead
    obtain rfl : d = c := by simpa [Segment.plain] using last
    have outside : continuesName d = false := excludes_blank isBlank (by decide +kernel)
    simp [outside] at isMember
  · exact halts_atEnd ended

theorem propertyRule_fits : propertyRule.Fits := by
  have propertyFits : property.Fits := by
    refine fits_andThen (fits_andThen ?_ (fits_one _)) (fits_many _)
    intro text length read
    obtain rfl : min 2 (text.takeWhile (· == '-')).length = length := Option.some.inj read
    exact (Nat.min_le_right _ _).trans (List.takeWhile_prefix _).length_le
  apply Rule.fits_sequence
  simp only [List.forall_mem_cons]
  refine ⟨?_, ?_, ?_, ?_, List.forall_mem_nil _⟩
  · exact Rule.fits_token propertyFits _
  · exact Rule.fits_skip (fits_many _)
  · exact Rule.fits_token (fits_one _) _
  · exact Rule.fits_skip (fits_orElse (fits_one _) (fits_ahead _))

theorem propertyRule_within {allowed : TokenKind → Prop} (key : allowed .key)
    (punctuation : allowed .punctuation) : propertyRule.Within allowed := by
  apply Rule.sequence_within
  simp only [List.forall_mem_cons]
  refine ⟨?_, ?_, ?_, ?_, List.forall_mem_nil _⟩
  · exact Rule.token_within key _
  · exact Rule.skip_within _
  · exact Rule.token_within punctuation _
  · exact Rule.skip_within _

theorem rules_fit : ∀ rule ∈ rules, rule.Fits := by
  have digits : (run isDecimal).Fits := fits_run _
  have numberFits : number.Fits :=
    fits_andThen (fits_andThen (fits_optional (fits_one _)) (fits_orElse
      (fits_andThen (fits_andThen digits (fits_optional (fits_one _))) (fits_many _))
      (fits_andThen (fits_one _) digits))) (fits_optional (fits_orElse (fits_one _) (fits_run _)))
  simp only [rules, List.forall_mem_cons]
  refine ⟨?_, ?_, ?_, ?_, ?_, ?_, ?_, ?_, ?_, ?_, ?_, ?_, List.forall_mem_nil _⟩
  · exact Rule.fits_token (fits_blockComment _ _) _
  · exact Rule.fits_token (fits_orElse (fits_escapedQuote _) (fits_escapedQuote _)) _
  · exact Rule.fits_token (fits_andThen (fits_one _) (fits_run _)) _
  · exact propertyRule_fits
  · exact Rule.fits_token (fits_andThen (fits_andThen (fits_one _) (fits_between _ _ _))
      (fits_ahead _)) _
  · exact Rule.fits_token numberFits _
  · exact Rule.fits_token (fits_andThen (fits_literal _) (fits_ahead _)) _
  · exact Rule.fits_token (fits_andThen (fits_andThen (fits_one _) (fits_one _)) (fits_many _)) _
  · exact Rule.fits_token (fits_andThen (fits_andThen (fits_andThen (fits_one _)
      (fits_optional (fits_one _))) (fits_one _)) (fits_many _)) _
  · exact Rule.fits_token (fits_one _) _
  · exact Rule.fits_token (fits_one _) _
  · exact Rule.fits_skip (fits_run _)

theorem rules_advance : ∀ rule ∈ rules, rule.Advances := by
  have numberAdvances : number.Advances :=
    advances_andThen (advances_andThen_right _ (advances_orElse
      (advances_andThen (advances_andThen (advances_run _) _) _)
      (advances_andThen (advances_one _) _))) _
  have propertyAdvances : property.Advances :=
    advances_andThen (advances_andThen_right _ (advances_one _)) _
  have keyAdvances : (Rule.token .key property).Advances := Rule.advances_token propertyAdvances _
  have quote (c : Char) : (escapedQuote c).Advances := advances_andThen (advances_one _) _
  simp only [rules, List.forall_mem_cons]
  refine ⟨?_, ?_, ?_, ?_, ?_, ?_, ?_, ?_, ?_, ?_, ?_, ?_, List.forall_mem_nil _⟩
  · exact Rule.advances_token (advances_andThen (advances_literal (by decide)) _) _
  · exact Rule.advances_token (advances_orElse (quote _) (quote _)) _
  · exact Rule.advances_token (advances_andThen (advances_one _) _) _
  · exact Rule.advances_sequence ⟨_, by simp, keyAdvances⟩
  · exact Rule.advances_token (advances_andThen (advances_andThen (advances_one _) _) _) _
  · exact Rule.advances_token numberAdvances _
  · exact Rule.advances_token (advances_andThen (advances_literal (by decide)) _) _
  · exact Rule.advances_token (advances_andThen (advances_andThen (advances_one _) _) _) _
  · exact Rule.advances_token (advances_andThen (advances_andThen (advances_andThen
      (advances_one _) _) _) _) _
  · exact Rule.advances_token (advances_one _) _
  · exact Rule.advances_token (advances_one _) _
  · exact Rule.advances_classified (advances_run _) _

theorem rules_readNames : ∀ rule ∈ rules, ReadsNames rule := by
  have quote : ∀ c, continuesName c = false →
      (escapedQuote c).Seals continuesName continuesName :=
    fun _ outside => seals_of_enquoted (fun _ _ => enquoted_of_reads_escapedQuote) outside
  have names (first : Lexeme) : (first ++ many continuesName).Seals continuesName continuesName :=
    (halts_andThen first (halts_many fun _ member => member)).seals _
  simp only [rules, List.forall_mem_cons]
  refine ⟨?_, ?_, ?_, ?_, ?_, ?_, ?_, ?_, ?_, ?_, ?_, ?_, List.forall_mem_nil _⟩
  · exact readsNames_of_seals (Rule.seals_token comment_seals _)
  · exact readsNames_of_seals
      (Rule.seals_token (seals_orElse (quote _ (by decide)) (quote _ (by decide))) _)
  · exact readsNames_of_seals
      (Rule.seals_token ((halts_andThen _ (halts_run continuesName)).seals _) _)
  · exact readsNames_of_seals propertyRule_seals
  · exact readsNames_of_cuts fun _ _ _ _ => color_cuts
  · exact readsNames_of_cuts fun _ _ _ _ => number_cuts
  · exact readsNames_of_cuts fun _ _ _ _ => important_cuts
  · exact readsNames_of_seals (Rule.seals_token (names _) _)
  · exact readsNames_of_seals (Rule.seals_token (names _) _)
  · exact readsNames_of_seals (Rule.seals_token (seals_oneOf (by decide)) _)
  · exact readsNames_of_seals (Rule.seals_token (seals_oneOf (by decide)) _)
  · exact readsNames_of_seals (Rule.seals_skip ((halts_run continuesName).seals _))

/-- Only numbers and colors are numbers. -/
theorem rules_label : ∀ rule ∈ rules,
    rule.Within (· ≠ .number) ∨ ∃ lexeme, rule = .token .number lexeme := by
  have other {kind : TokenKind} (different : kind ≠ .number) (lexeme : Lexeme) :
      (Rule.token kind lexeme).Within (· ≠ .number) :=
    Rule.token_within (by exact different) lexeme
  simp only [rules, List.forall_mem_cons]
  refine ⟨?_, ?_, ?_, ?_, ?_, ?_, ?_, ?_, ?_, ?_, ?_, ?_, List.forall_mem_nil _⟩
  · exact .inl (other (by decide) _)
  · exact .inl (other (by decide) _)
  · exact .inl (other (by decide) _)
  · exact .inl (propertyRule_within (by decide) (by decide))
  · exact .inr ⟨color, rfl⟩
  · exact .inr ⟨number, rfl⟩
  · exact .inl (other (by decide) _)
  · exact .inl (other (by decide) _)
  · exact .inl (other (by decide) _)
  · exact .inl (other (by decide) _)
  · exact .inl (other (by decide) _)
  · exact .inl (Rule.skip_within _)

/-! ## The scan -/

/-- Where nothing is read, no name goes on. -/
theorem continuesName_of_unread {before : Option Char} {offset : Nat} {c : Char} {rest : List Char}
    (nothing : Rule.firstOf rules ⟨before, offset, c :: rest⟩ = none) :
    continuesName c = false := by
  have listed : .skip (run continuesName) ∈ rules := by simp [rules]
  by_contra inName
  obtain ⟨length, read⟩ := exists_length?_run (by simpa using inName) rest
  exact Rule.firstOf_ne_none listed (Rule.classified_ne_none read _) nothing

theorem nameHistory :
    ScanHistory (ruleStep rules) (fun _ => KeepsNames)
      (fun past token => token.kind = .number → KeepsNames past token.text.toList) := by
  refine .of_rules rules_fit rules_advance ?_ ?_
  · intro past offset c rest atPlace nothing
    refine keepsNames_append (List.cons_ne_nil c []) atPlace ?_
    intro outside name isEnd
    obtain ⟨d, last, inName⟩ := isEnd.continues_last
    obtain rfl : c = d := by simpa [Segment.plain] using last
    simp [continuesName_of_unread nothing] at inName
  · intro past offset segments rest atPlace read
    obtain ⟨rule, listed, own⟩ := read.of_firstOf
    have advances := rules_advance rule listed own
    refine ⟨keepsNames_append advances atPlace (rules_readNames rule listed own), ?_⟩
    rcases rules_label rule listed with within | ⟨lexeme, rfl⟩
    · apply Segment.eachAfter_of_forall
      intro segment member kind labelled _ isNumber
      have apart := within _ _ own segment.piece (List.mem_map_of_mem member) kind labelled
      exact absurd isNumber apart
    · obtain ⟨text, rfl, -⟩ := Rule.reads_token_iff.mp own
      refine Segment.eachAfter_singleton.mpr fun kind _ _ => ?_
      intro outside name isEnd
      rw [String.toList_ofList]
      rw [Segment.characters_cons, Segment.characters_nil, List.append_nil] at atPlace
      exact (atPlace outside name isEnd).imp_left Stops.of_append

end Grammar.Stylesheet

/-! ## Main results -/

/-- In every line of a style sheet, a number begins inside a name, as long as that can be and opened
by a letter or an underscore, only behind a token that covers the start of the name and ends in it:
a color, `!important` or a number with a unit right behind its point. -/
theorem numbers_in_names_follow_cuts {line : String} {front behind : List Token} {number : Token}
    {outside name : List Char} (isNumber : number.kind = .number)
    (split : tokenize .css line = front ++ number :: behind)
    (inName : Grammar.Stylesheet.EndsInName (characters front) outside name)
    (goesOn : ∃ c ∈ number.text.toList.head?, Grammar.Stylesheet.continuesName c) :
    ∃ earlier kind opening taken later,
      front = earlier ++ ⟨kind, String.ofList (opening ++ taken)⟩ :: later ∧
        outside = characters earlier ++ opening ∧
          Grammar.Stylesheet.CutsName kind opening taken := by
  have isLabel : number.kind ≠ .text := by simp [isNumber]
  have atStart : Grammar.Stylesheet.KeepsNames [] line.toList := by
    intro outside name isEnd
    obtain ⟨c, last, -⟩ := isEnd.continues_last
    contradiction
  obtain ⟨past, rfl, keeps⟩ := Grammar.Stylesheet.nameHistory.holds atStart isLabel split
  rw [Segment.characters_tokens] at inName
  rcases keeps isNumber outside name inName with stops | cut
  · obtain ⟨c, head, inside⟩ := goesOn
    have outside := stops c head
    simp [outside] at inside
  · obtain ⟨earlier, kind, opening, taken, later, rfl, rfl, cuts⟩ := cut
    refine ⟨Segment.tokens earlier, kind, opening, taken, Segment.tokens later, ?_, ?_, cuts⟩
    · exact Segment.tokens_append_labelled earlier later (by cases cuts <;> simp)
    · rw [Segment.characters_tokens]

/-- A number with the unit that stands right behind its point leaves the digits of the name to the
next number. -/
theorem number_behind_dimension :
    tokenize .css "1.e2" = [⟨.number, "1.e"⟩, ⟨.number, "2"⟩] ∧
      ∃ earlier kind opening taken later,
        [(⟨.number, "1.e"⟩ : Token)] =
            earlier ++ ⟨kind, String.ofList (opening ++ taken)⟩ :: later ∧
          ['1', '.'] = characters earlier ++ opening ∧
            Grammar.Stylesheet.CutsName kind opening taken := by
  have tokens : tokenize .css "1.e2" = [⟨.number, "1.e"⟩] ++ ⟨.number, "2"⟩ :: [] := by
    decide +kernel
  have inName : Grammar.Stylesheet.EndsInName (characters [⟨.number, "1.e"⟩]) ['1', '.'] ['e'] := by
    refine ⟨rfl, ⟨'e', [], rfl, by decide, List.forall_mem_nil _⟩, ?_⟩
    intro c last
    obtain rfl : '.' = c := Option.some.inj last
    decide
  exact ⟨tokens, numbers_in_names_follow_cuts rfl tokens inName ⟨'2', rfl, by decide⟩⟩

/-- A color takes the first part of a name along when a hyphen comes next, though the name of the
tag is longer, and the other part is a number. -/
theorem number_in_name_of_tag :
    tokenize .css "#bed-2 \x7b" =
      [⟨.number, "#bed"⟩, ⟨.number, "-2"⟩, ⟨.text, " "⟩, ⟨.bracket, "\x7b"⟩] ∧
      Grammar.Stylesheet.opensName 'b' ∧
        "bed-2".toList.all Grammar.Stylesheet.continuesName := by
  decide +kernel

end Highlight
