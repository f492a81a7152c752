import Highlight.Proofs.Json.Rules
import Highlight.Proofs.Lines
import Highlight.Proofs.Readings
import Highlight.Tokenize

/-!
Lines of records. Every comma separates two fields, which have nothing to do with one another. A
field is a text in quotes or a number with blanks around it, or else it is plain text.
-/

set_option autoImplicit false

namespace Highlight

open Text

namespace Grammar.Record

open Text.Lexeme

/-! ## Numbers -/

/-- The digits of a number and its point, which has some before or behind it. -/
inductive IsMantissa : List Char → Prop
  | whole {digits : List Char} : Json.IsDigits digits → IsMantissa digits
  | pointed {digits decimals : List Char} : Json.IsDigits digits → (∀ c ∈ decimals, c.isDigit) →
      IsMantissa (digits ++ '.' :: decimals)
  | fraction {decimals : List Char} : Json.IsDigits decimals → IsMantissa ('.' :: decimals)

inductive IsNumber : List Char → Prop
  | parts {sign mantissa exponent : List Char} : sign = [] ∨ sign = ['+'] ∨ sign = ['-'] →
      IsMantissa mantissa → Json.IsExponent exponent → IsNumber (sign ++ (mantissa ++ exponent))

def mantissa : Lexeme :=
  (.run Char.isDigit ++ .optional (.char '.' ++ .many Char.isDigit)) <|>
    (.char '.' ++ .run Char.isDigit)

theorem number_eq :
    number = .optional (.oneOf ['+', '-']) ++ mantissa ++ .optional exponent := rfl

section Openings

variable {isMember : Char → Bool} {text : List Char}

theorem stops_of_isMantissa (isMantissa : IsMantissa text)
    (noDigit : ∀ c, isMember c → c.isDigit = false) (noPoint : isMember '.' = false)
    (rest : List Char) : Stops isMember (text ++ rest) := by
  cases isMantissa with
  | whole isDigits => exact Json.stops_of_isDigits isDigits noDigit rest
  | pointed isDigits _ =>
    rw [List.append_assoc]
    exact Json.stops_of_isDigits isDigits noDigit _
  | fraction _ => simpa [Stops] using noPoint

theorem stops_of_isNumber (isNumber : IsNumber text)
    (noDigit : ∀ c, isMember c → c.isDigit = false)
    (noMark : ∀ c ∈ ['+', '-', '.'], isMember c = false) : Stops isMember text := by
  obtain ⟨signs, isMantissa, -⟩ := isNumber
  rcases signs with rfl | rfl | rfl
  · exact stops_of_isMantissa isMantissa noDigit (noMark '.' (by simp)) _
  · simpa [Stops] using noMark '+' (by simp)
  · simpa [Stops] using noMark '-' (by simp)

end Openings

section Numbers

variable {text rest : List Char}

theorem reads_sign (signs : text = [] ∨ text = ['+'] ∨ text = ['-'])
    (stops : Stops ['+', '-'].contains rest) : (optional (oneOf ['+', '-'])).Reads text rest := by
  rcases signs with rfl | rfl | rfl
  · exact reads_optional_of_misses (misses_one stops)
  · exact reads_optional (reads_one (by decide) rest)
  · exact reads_optional (reads_one (by decide) rest)

theorem isSign_of_reads (read : (optional (oneOf ['+', '-'])).Reads text rest) :
    text = [] ∨ text = ['+'] ∨ text = ['-'] := by
  obtain own | ⟨rfl, -⟩ := reads_optional_iff.mp read
  · obtain ⟨c, rfl, listed⟩ := reads_one_iff.mp own
    simpa using listed
  · exact .inl rfl

theorem isDigits_of_reads (read : (run Char.isDigit).Reads text rest) : Json.IsDigits text :=
  have ⟨present, digits, _⟩ := reads_run_iff.mp read
  ⟨present, digits⟩

theorem not_isDigit_of_sign {c : Char} (sign : ['+', '-'].contains c) : c.isDigit = false :=
  have signs : ∀ d ∈ ['+', '-'], d.isDigit = false := forall_mem_of_all (by decide)
  signs c (List.contains_iff_mem.mp sign)

theorem reads_exponent_iff : (optional exponent).Reads text [] ↔ Json.IsExponent text := by
  constructor
  · intro read
    obtain own | ⟨rfl, -⟩ := reads_optional_iff.mp read
    · obtain ⟨_, digits, rfl, front, digitsRead⟩ := reads_andThen_iff.mp own
      obtain ⟨_, sign, rfl, markRead, signRead⟩ := reads_andThen_iff.mp front
      obtain ⟨mark, rfl, listed⟩ := reads_one_iff.mp markRead
      have marks : mark = 'e' ∨ mark = 'E' := by simpa using listed
      rw [List.append_assoc, List.singleton_append]
      exact .present marks (isSign_of_reads signRead) (isDigits_of_reads digitsRead)
    · exact .missing
  · rintro (_ | @⟨mark, sign, digits, marks, signs, isDigits⟩)
    · have noMark : Stops ['e', 'E'].contains [] := by simp [Stops]
      exact reads_optional_of_misses (misses_andThen (misses_andThen (misses_one noMark) _) _)
    · have markRead : (oneOf ['e', 'E']).Reads [mark] (sign ++ (digits ++ [])) :=
        reads_one (by simpa using marks) _
      have noSign := Json.stops_of_isDigits isDigits (fun _ => not_isDigit_of_sign) []
      have signRead := reads_sign signs noSign
      have digitsRead : (run Char.isDigit).Reads digits [] :=
        reads_run isDigits.1 isDigits.2 (by simp [Stops])
      have read := reads_andThen (reads_andThen markRead signRead) digitsRead
      rw [List.append_assoc] at read
      exact reads_optional read

theorem isMantissa_of_reads (read : mantissa.Reads text rest) : IsMantissa text := by
  obtain own | ⟨-, own⟩ := reads_orElse_iff.mp read
  · obtain ⟨digits, _, rfl, digitsRead, decimalsRead⟩ := reads_andThen_iff.mp own
    have isDigits := isDigits_of_reads digitsRead
    obtain pointed | ⟨rfl, -⟩ := reads_optional_iff.mp decimalsRead
    · obtain ⟨_, decimals, rfl, pointRead, behind⟩ := reads_andThen_iff.mp pointed
      obtain rfl := reads_char_iff.mp pointRead
      exact .pointed isDigits (reads_many_iff.mp behind).1
    · rw [List.append_nil]
      exact .whole isDigits
  · obtain ⟨_, decimals, rfl, pointRead, behind⟩ := reads_andThen_iff.mp own
    obtain rfl := reads_char_iff.mp pointRead
    exact .fraction (isDigits_of_reads behind)

/-- A mantissa is read where it cannot go on. -/
theorem reads_mantissa (isMantissa : IsMantissa text) (noDigit : Stops Char.isDigit rest)
    (noPoint : Stops (· == '.') rest) : mantissa.Reads text rest := by
  have point : ∀ behind, (char '.').Reads ['.'] behind := fun behind => reads_one rfl behind
  cases isMantissa with
  | whole isDigits =>
    have digitsRead : (run Char.isDigit).Reads text ([] ++ rest) :=
      reads_run isDigits.1 isDigits.2 noDigit
    have nothing : (optional (char '.' ++ many Char.isDigit)).Reads [] rest :=
      reads_optional_of_misses (misses_andThen (misses_one noPoint) _)
    have read := reads_andThen digitsRead nothing
    rw [List.append_nil] at read
    exact reads_orElse (.inl read)
  | @pointed digits decimals isDigits decimal =>
    have digitsRead : (run Char.isDigit).Reads digits ('.' :: decimals ++ rest) :=
      reads_run isDigits.1 isDigits.2 (by simp [Stops])
    have decimalsRead := reads_andThen (point (decimals ++ rest)) (reads_many decimal noDigit)
    exact reads_orElse (.inl (reads_andThen digitsRead (reads_optional decimalsRead)))
  | @fraction decimals isDigits =>
    have noWhole : Stops Char.isDigit ('.' :: decimals ++ rest) := by simp [Stops]
    have missed := misses_andThen (misses_run noWhole) (optional (char '.' ++ many Char.isDigit))
    have read := reads_andThen (point (decimals ++ rest))
      (reads_run isDigits.1 isDigits.2 noDigit)
    exact reads_orElse (.inr ⟨missed, read⟩)

theorem spans_number_iff : number.spans text ↔ IsNumber text := by
  constructor
  · intro spans
    have read := reads_of_spans spans
    rw [number_eq] at read
    obtain ⟨_, exponent, rfl, front, exponentRead⟩ := reads_andThen_iff.mp read
    obtain ⟨sign, mantissa, rfl, signRead, mantissaRead⟩ := reads_andThen_iff.mp front
    rw [List.append_assoc]
    exact .parts (isSign_of_reads signRead) (isMantissa_of_reads mantissaRead)
      (reads_exponent_iff.mp exponentRead)
  · rintro @⟨sign, mantissa, exponent, signs, isMantissa, isExponent⟩
    have noSign : Stops ['+', '-'].contains (mantissa ++ (exponent ++ [])) :=
      stops_of_isMantissa isMantissa (fun _ => not_isDigit_of_sign) (by decide) _
    have signRead := reads_sign signs noSign
    have exponentStops : ∀ isMember : Char → Bool, isMember 'e' = false ∧ isMember 'E' = false →
        Stops isMember (exponent ++ []) := fun _ excluded =>
      Json.stops_of_isExponent isExponent excluded (by simp [Stops])
    have mantissaRead := reads_mantissa isMantissa (exponentStops Char.isDigit (by decide))
      (exponentStops (· == '.') (by decide))
    have read := reads_andThen (reads_andThen signRead mantissaRead)
      (reads_exponent_iff.mpr isExponent)
    rw [List.append_assoc] at read
    exact spans_of_reads read

end Numbers

/-! ## Fields -/

/-- A text between two quotes of one sort. -/
def IsEnclosed (text : List Char) : Prop :=
  ∃ quote body, (quote = '\"' ∨ quote = '\'') ∧ text = quote :: (body ++ [quote])

theorem enclosedBy_iff {quote : Char} {text : List Char} :
    enclosedBy quote text ↔ ∃ body, text = quote :: (body ++ [quote]) := by
  constructor
  · intro enclosed
    obtain ⟨⟨long, opened⟩, closed⟩ :
        (2 ≤ text.length ∧ text.head? = some quote) ∧ text.getLast? = some quote := by
      simpa [enclosedBy] using enclosed
    obtain ⟨rest, rfl⟩ := List.head?_eq_some_iff.mp opened
    obtain rfl | ⟨body, last, rfl⟩ := List.eq_nil_or_concat rest
    · simp at long
    · rw [List.concat_eq_append] at closed ⊢
      obtain rfl : last = quote := by simpa [List.getLast?_cons] using closed
      exact ⟨body, rfl⟩
  · rintro ⟨body, rfl⟩
    simp [enclosedBy, List.getLast?_cons]

theorem isEnclosed_iff {text : List Char} :
    IsEnclosed text ↔ (enclosedBy '\"' text || enclosedBy '\'' text) := by
  rw [Bool.or_eq_true, enclosedBy_iff, enclosedBy_iff]
  constructor
  · rintro ⟨quote, body, rfl | rfl, spelled⟩
    · exact .inl ⟨body, spelled⟩
    · exact .inr ⟨body, spelled⟩
  · rintro (⟨body, spelled⟩ | ⟨body, spelled⟩)
    · exact ⟨'\"', body, .inl rfl, spelled⟩
    · exact ⟨'\'', body, .inr rfl, spelled⟩

/-- A number opens with no quote. -/
theorem not_isEnclosed_of_isNumber {text : List Char} (isNumber : IsNumber text) :
    ¬IsEnclosed text := by
  rintro ⟨quote, body, isQuote, rfl⟩
  have listed : quote ∈ ['\"', '\''] := by simpa using isQuote
  have noDigit : ∀ c, ['\"', '\''].contains c → c.isDigit = false := by
    have quotes : ∀ d ∈ ['\"', '\''], d.isDigit = false := forall_mem_of_all (by decide)
    exact fun c member => quotes c (List.contains_iff_mem.mp member)
  have stops := stops_of_isNumber isNumber noDigit (forall_mem_of_all (by decide))
  simpa [listed] using stops quote rfl

theorem fieldKind?_of_isEnclosed {core : List Char} (isEnclosed : IsEnclosed core) :
    fieldKind? core = some .string :=
  if_pos (isEnclosed_iff.mp isEnclosed)

theorem fieldKind?_of_isNumber {core : List Char} (isNumber : IsNumber core) :
    fieldKind? core = some .number := by
  have notEnclosed := mt isEnclosed_iff.mpr (not_isEnclosed_of_isNumber isNumber)
  rw [fieldKind?, if_neg notEnclosed, if_pos (spans_number_iff.mpr isNumber)]

theorem fieldKind?_of_neither {core : List Char} (notEnclosed : ¬IsEnclosed core)
    (notNumber : ¬IsNumber core) : fieldKind? core = none := by
  rw [fieldKind?, if_neg (mt isEnclosed_iff.mpr notEnclosed),
    if_neg (mt spans_number_iff.mp notNumber)]

/-! ## Rows -/

/-- The segments of a field: its core between its outer blanks. -/
def fieldSegments (field : List Char) : List Segment :=
  [.plain (field.takeWhile isBlank), ⟨fieldKind? (trim field), trim field⟩,
    .plain (trailingBlanks (trimStart field))]

def rowSegments : List (List Char) → List Segment
  | [] => []
  | [field] => fieldSegments field
  | field :: next :: fields =>
    fieldSegments field ++ .labelled .punctuation [','] :: rowSegments (next :: fields)

theorem characters_fieldSegments (field : List Char) :
    Segment.characters (fieldSegments field) = field := by
  have whole := (trims_trim field).whole
  simpa [fieldSegments, Segment.plain] using whole.symm

theorem spansFrom_fieldSegments (offset : Nat) (field : List Char) :
    Segment.spansFrom offset (fieldSegments field) =
      (fieldKind? (trim field)).toList.map fun kind =>
        ⟨kind, offset + byteSize (field.takeWhile isBlank),
          offset + byteSize (field.takeWhile isBlank) + byteSize (trim field)⟩ := by
  cases kind : fieldKind? (trim field) <;>
    simp [fieldSegments, Segment.spansFrom, Segment.plain, kind]

theorem fieldSpans_eq (offset : Nat) (fields : List (List Char)) :
    fieldSpans offset fields = Segment.spansFrom offset (rowSegments fields) := by
  fun_induction rowSegments fields generalizing offset with
  | case1 => rfl
  | case2 field => simp [fieldSpans, spansFrom_fieldSegments]
  | case3 field next fields inductionHypothesis =>
    rw [fieldSpans, inductionHypothesis, Segment.spansFrom_append, spansFrom_fieldSegments,
      characters_fieldSegments]
    have commaSize : ','.utf8Size = 1 := rfl
    simp [Segment.spansFrom, Segment.labelled, commaSize]

theorem characters_rowSegments (fields : List (List Char)) :
    Segment.characters (rowSegments fields) = [','].intercalate fields := by
  fun_induction rowSegments fields with
  | case1 => rfl
  | case2 field => simp [characters_fieldSegments]
  | case3 field next fields inductionHypothesis =>
    rw [List.intercalate_cons_cons, ← inductionHypothesis]
    simp [characters_fieldSegments, Segment.labelled]

theorem rowSegments_append {first second : List (List Char)} (firstPresent : first ≠ [])
    (secondPresent : second ≠ []) :
    rowSegments (first ++ second) =
      rowSegments first ++ .labelled .punctuation [','] :: rowSegments second := by
  fun_induction rowSegments first with
  | case1 => contradiction
  | case2 field =>
    obtain ⟨next, fields, rfl⟩ := List.exists_cons_of_ne_nil secondPresent
    rfl
  | case3 field next fields inductionHypothesis =>
    have following := inductionHypothesis (List.cons_ne_nil next fields)
    rw [List.cons_append] at following
    rw [List.cons_append, List.cons_append, rowSegments, following, List.append_assoc,
      List.cons_append]

theorem tokenize_eq (line : String) :
    tokenize .csv line = Segment.tokens (rowSegments (cut ',' line.toList)) := by
  have whole : Segment.characters (rowSegments (cut ',' line.toList)) = line.toList := by
    rw [characters_rowSegments, cut_eq_splitOn, List.intercalate_splitOn]
  have covered := coverLine_spansFrom (rowSegments (cut ',' line.toList))
  rwa [whole, ← fieldSpans_eq] at covered

/-- A field without commas, of which the blanks around its core are known. -/
theorem tokenize_field {field : String} (single : ',' ∉ field.toList)
    {lead core trail : List Char} (trims : Trims field.toList lead core trail) :
    tokenize .csv field = Segment.tokens [.plain lead, ⟨fieldKind? core, core⟩, .plain trail] := by
  have alike := Segment.Alike.of_trims (trims_trim field.toList) trims (fieldKind? core)
  rw [tokenize_eq, cut_eq_splitOn, List.splitOn_eq_singleton single, rowSegments, ← alike.tokens_eq,
    fieldSegments, trims.trim_eq]

end Grammar.Record

open Grammar.Record in
/-- A comma is a token of its own between the tokens of what stands on either side. A field without
commas is a text in quotes or a number between blanks, and plain text otherwise. -/
theorem tokenize_records :
    (∀ first second : String,
      tokenize .csv (first ++ "," ++ second) =
        tokenize .csv first ++ ⟨.punctuation, ","⟩ :: tokenize .csv second) ∧
      ∀ field : String, ',' ∉ field.toList →
        (∃ lead core trail, Trims field.toList lead core trail) ∧
          ∀ lead core trail, Trims field.toList lead core trail →
            (IsEnclosed core → tokenize .csv field =
              Segment.tokens [.plain lead, .labelled .string core, .plain trail]) ∧
            (IsNumber core → tokenize .csv field =
              Segment.tokens [.plain lead, .labelled .number core, .plain trail]) ∧
            (¬IsEnclosed core → ¬IsNumber core →
              tokenize .csv field = if field = "" then [] else [⟨.text, field⟩]) := by
  refine ⟨fun first second => ?_, fun field single => ⟨⟨_, _, _, trims_trim _⟩, ?_⟩⟩
  · have fields : cut ',' (first ++ "," ++ second).toList =
        cut ',' first.toList ++ cut ',' second.toList := by
      rw [← cut_append_cons]
      simp
    rw [tokenize_eq, tokenize_eq, tokenize_eq, fields,
      rowSegments_append (cut_ne_nil ',' _) (cut_ne_nil ',' _),
      Segment.tokens_append_labelled _ _ (by simp)]
  intro lead core trail trims
  have read := tokenize_field single trims
  refine ⟨fun isEnclosed => ?_, fun isNumber => ?_, fun notEnclosed notNumber => ?_⟩
  · rwa [fieldKind?_of_isEnclosed isEnclosed] at read
  · rwa [fieldKind?_of_isNumber isNumber] at read
  · rw [fieldKind?_of_neither notEnclosed notNumber] at read
    have whole : Segment.tokens [.plain lead, ⟨none, core⟩, .plain trail] =
        Cover.push .text field.toList [] := by
      simp [Segment.tokens, Segment.tokensAfter, Segment.plain, trims.whole]
    rw [read, whole]
    split_ifs with empty
    · simp [empty]
    · rw [Cover.push_of_ne_nil (mt String.toList_eq_nil_iff.mp empty), String.ofList_toList]

theorem tokens_of_padded_number :
    let field := " -1.5e3\t"
    ',' ∉ field.toList ∧ Trims field.toList [' '] "-1.5e3".toList ['\t'] ∧
      Grammar.Record.IsNumber "-1.5e3".toList ∧
      tokenize .csv field = [⟨.text, " "⟩, ⟨.number, "-1.5e3"⟩, ⟨.text, "\t"⟩] := by
  have single : ',' ∉ " -1.5e3\t".toList := by decide
  have trims : Trims " -1.5e3\t".toList [' '] "-1.5e3".toList ['\t'] := trims_trim _
  have isNumber : Grammar.Record.IsNumber "-1.5e3".toList :=
    Grammar.Record.spans_number_iff.mp (by decide)
  have tokens := ((tokenize_records.2 _ single).2 _ _ _ trims).2.1 isNumber
  exact ⟨single, trims, isNumber, tokens⟩

end Highlight
