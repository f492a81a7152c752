import Highlight.Proofs.History
import Highlight.Proofs.Spelling
import Highlight.Tokenize

/-!
Lines of commands. What one step can read is said once, with what it leaves behind and whether it
expects a command then; the tokens before a token tell the same. So a command stands first among
the words, quotes and parameters of its part of a line, and a redirection takes no command. A
comment starts behind anything that a word cannot hold, and behind a parameter.
-/

set_option autoImplicit false

namespace Highlight

open Text

section Cuts

variable {α : Type} {separates : α → Bool} {elements passed part : List α}

/-- The cut carries along, newest first, what it has passed since the last separator. -/
theorem infix_of_mem_splitOnPPrepend (clear : ∀ element ∈ passed, separates element = false)
    (member : part ∈ elements.splitOnPPrepend separates passed) :
    part <:+: passed.reverse ++ elements ∧ ∀ element ∈ part, separates element = false := by
  fun_induction List.splitOnPPrepend separates elements passed with
  | case1 passed =>
    obtain rfl : part = passed.reverse := by simpa using member
    exact ⟨(List.prefix_append _ _).isInfix, by simpa using clear⟩
  | case2 element elements passed isSeparator inductionHypothesis =>
    rcases List.mem_cons.mp member with rfl | later
    · exact ⟨(List.prefix_append _ _).isInfix, by simpa using clear⟩
    · obtain ⟨within, outside⟩ := inductionHypothesis (List.forall_mem_nil _) later
      have beyond : elements <:+ passed.reverse ++ element :: elements :=
        ⟨passed.reverse ++ [element], by simp⟩
      exact ⟨within.trans beyond.isInfix, outside⟩
  | case3 element elements passed noSeparator inductionHypothesis =>
    have others := List.forall_mem_cons.mpr ⟨by simpa using noSeparator, clear⟩
    simpa using inductionHypothesis others member

/-- A part of a list that is cut at some elements lies in the list and holds none of them. -/
theorem infix_of_mem_splitOnP (member : part ∈ elements.splitOnP separates) :
    part <:+: elements ∧ ∀ element ∈ part, separates element = false := by
  rw [List.splitOnP_eq_splitOnPPrepend] at member
  exact infix_of_mem_splitOnPPrepend (List.forall_mem_nil _) member

/-- A property holds of at most one element of a list when it holds of none before another one. -/
theorem countP_le_one {holds : α → Bool}
    (first : ∀ front element behind, part = front ++ element :: behind → holds element →
      ∀ other ∈ front, holds other = false) : part.countP holds ≤ 1 := by
  induction part with
  | nil => simp
  | cons element part inductionHypothesis =>
    by_cases isOne : holds element
    · have none : part.countP holds = 0 := by
        rw [List.countP_eq_zero]
        intro other within isOther
        obtain ⟨middle, last, rfl⟩ := List.append_of_mem within
        have earlier := first (element :: middle) other last rfl isOther element (by simp)
        simp [isOne] at earlier
      simp [isOne, none]
    · have later : part.countP holds ≤ 1 := by
        apply inductionHypothesis
        rintro front other behind rfl isOther earlier within
        exact first (element :: front) other behind rfl isOther earlier (by simp [within])
      simpa [isOne] using later

end Cuts

namespace Grammar.Command

open Text.Lexeme

/-- The operators behind which a command is expected. -/
def separators : List String :=
  ["|", "||", "&&", ";", "&"]

theorem not_mem_separators : ∀ choice ∈ redirections, choice ∉ separators := by
  decide

/-! ## What a step reads -/

/-- What a step can read: a kind, unless it is plain text, a text, whether a command is expected
behind it, and what is left. -/
inductive Reading (expected : Bool) :
    Option TokenKind → List Char → Bool → List Char → Prop
  | comment (body : List Char) : Reading expected (some .comment) ('#' :: body) expected []
  | quoted {text : List Char} (rest : List Char) : (∀ c ∈ text.getLast?, c ∈ ['\"', '\'']) →
      Reading expected (some .string) text false rest
  | parameter (text rest : List Char) : Reading expected (some .variable) text false rest
  | separator {text : String} (rest : List Char) : text ∈ separators →
      Reading expected (some .operator) text.toList true rest
  | redirection {text : String} (rest : List Char) : text ∈ redirections →
      Reading expected (some .operator) text.toList false rest
  | continuation : Reading expected (some .punctuation) ['\\'] expected []
  | word {kind? : Option TokenKind} {text rest : List Char} : wordKind? expected text = kind? →
      Stops inWord rest → Reading expected kind? text false rest

/-- Only where a command is expected a word is one, and there every word is one or a flag. -/
theorem wordKind?_cases {expected : Bool} {text : List Char} {kind? : Option TokenKind}
    (found : wordKind? expected text = kind?) :
    kind? = some .attribute ∨ kind? = some .keyword ∧ expected = true ∨
      (kind? = some .number ∨ kind? = none) ∧ expected = false := by
  subst found
  unfold wordKind?
  split
  · exact .inl rfl
  split
  · next isExpected => exact .inr (.inl ⟨rfl, isExpected⟩)
  · next unexpected =>
    refine .inr (.inr ⟨?_, by simpa using unexpected⟩)
    split
    · exact .inl rfl
    · exact .inr rfl

theorem wordLength_spec (taken : Nat) (text : List Char) :
    ∃ count ≤ text.length, wordLength taken text = taken + count ∧
      Stops inWord (text.drop count) := by
  fun_induction wordLength taken text with
  | case1 taken => exact ⟨0, Nat.le_refl _, rfl, by simp [Stops]⟩
  | case2 taken c rest => exact ⟨0, Nat.zero_le _, rfl, by simp [Stops, inWord, isNoneOf]⟩
  | case3 taken c rest _ inductionHypothesis =>
    obtain ⟨count, bound, length, stops⟩ := inductionHypothesis
    refine ⟨count + 2, ?_, ?_, stops⟩
    · simp only [List.length_cons]
      omega
    · rw [length]
      omega
  | case4 taken c rest _ _ inductionHypothesis =>
    obtain ⟨count, bound, length, stops⟩ := inductionHypothesis
    refine ⟨count + 1, ?_, ?_, stops⟩
    · simp only [List.length_cons]
      omega
    · rw [length]
      omega
  | case5 taken c rest _ outside => exact ⟨0, Nat.zero_le _, rfl, by simpa [Stops] using outside⟩

theorem stops_of_reads_word {text rest : List Char} (read : word.Reads text rest) :
    Stops inWord rest := by
  obtain ⟨front, back, rfl, -, others⟩ := reads_andThen_iff.mp read
  obtain ⟨count, -, length, stops⟩ := wordLength_spec 0 (back ++ rest)
  have counted : wordLength 0 (back ++ rest) = back.length := Option.some.inj others
  rw [counted, Nat.zero_add] at length
  rwa [← length, List.drop_left] at stops

theorem getLast?_of_reads_quoted {text rest : List Char} (read : quoted.Reads text rest) :
    ∀ c ∈ text.getLast?, c ∈ ['\"', '\''] := by
  rcases reads_orElse_iff.mp read with double | ⟨-, single⟩
  · obtain ⟨body, rfl, -⟩ := enquoted_of_reads_escapedQuote double
    rw [← List.cons_append, List.getLast?_concat]
    simp
  · obtain ⟨opening, others, rfl, -, closing⟩ := reads_andThen_iff.mp single
    obtain ⟨body, mark, rfl, -, closed⟩ := reads_andThen_iff.mp closing
    obtain ⟨c, rfl, isQuote⟩ := reads_one_iff.mp closed
    rw [← List.append_assoc, List.getLast?_concat]
    obtain rfl : c = '\'' := by simpa using isQuote
    simp

theorem listed_of_reads_operator {text rest : List Char} (read : operator.Reads text rest) :
    String.ofList text ∈ separators ∨ String.ofList text ∈ redirections := by
  rcases reads_orElse_iff.mp read with double | ⟨-, single⟩
  · obtain ⟨choice, listed, rfl⟩ := exists_of_reads_anyOf double
    have members : ∀ choice ∈ ["&&", "||", ">>"],
        choice ∈ separators ∨ choice ∈ redirections := by decide
    rw [String.ofList_toList]
    exact members choice listed
  · obtain ⟨c, rfl, listed⟩ := reads_one_iff.mp single
    have members : ∀ c ∈ ['|', ';', '&', '<', '>'],
        String.ofList [c] ∈ separators ∨ String.ofList [c] ∈ redirections :=
      forall_mem_of_all rfl
    exact members c (by simpa using listed)

theorem advances_parameter : parameter.Advances :=
  advances_andThen (advances_one _) _

theorem advances_quoted : quoted.Advances :=
  advances_orElse (advances_andThen (advances_one _) _) (advances_andThen (advances_one _) _)

theorem advances_operator : operator.Advances :=
  advances_orElse (advances_anyOf (by decide)) (advances_one _)

theorem advances_word : word.Advances :=
  advances_andThen (advances_one _) _

variable {expected next : Bool} {before : Option Char} {offset : Nat} {segments : List Segment}
  {rest : List Char}

theorem reading_of_operator {text : List Char} (read : operator.Reads text rest) :
    Reading expected (some .operator) text (!redirections.contains (String.ofList text)) rest := by
  rcases listed_of_reads_operator read with separates | redirects
  · have reading : Reading expected _ _ true rest := .separator rest separates
    rw [String.toList_ofList] at reading
    have apart : redirections.contains (String.ofList text) = false := by
      simpa using fun redirects => not_mem_separators _ redirects separates
    rwa [apart, Bool.not_false]
  · have reading : Reading expected _ _ false rest := .redirection rest redirects
    rw [String.toList_ofList] at reading
    rwa [List.contains_iff_mem.mpr redirects, Bool.not_true]

theorem reading_of_step
    (read : step expected ⟨before, offset, Segment.characters segments ++ rest⟩ =
      some (segments.map Segment.piece, next)) :
    ∃ kind? text, segments = [⟨kind?, text⟩] ∧ text ≠ [] ∧
      Reading expected kind? text next rest := by
  rcases step_cases read with ⟨comment, rfl⟩ | ⟨string, rfl⟩ | ⟨name, rfl⟩ |
    ⟨length, found, pieces, rfl⟩ | ⟨mark, rfl⟩ | ⟨own, rfl⟩
  · obtain ⟨text, rfl, reads⟩ := Rule.reads_token_iff.mp comment
    obtain ⟨sign, body, rfl, signReads, bodyReads⟩ := reads_andThen_iff.mp reads
    obtain rfl := reads_char_iff.mp signReads
    obtain rfl := eq_nil_of_reads_restOfLine bodyReads
    exact ⟨some .comment, '#' :: body, rfl, List.cons_ne_nil _ _, .comment body⟩
  · obtain ⟨text, rfl, reads⟩ := Rule.reads_token_iff.mp string
    exact ⟨some .string, text, rfl, advances_quoted reads,
      .quoted rest (getLast?_of_reads_quoted reads)⟩
  · obtain ⟨text, rfl, reads⟩ := Rule.reads_token_iff.mp name
    exact ⟨some .variable, text, rfl, advances_parameter reads, .parameter text rest⟩
  · have tokenRead : (Rule.token .operator operator).Reads before offset segments rest :=
      Option.map_eq_some_iff.mpr ⟨length, found, pieces.symm⟩
    obtain ⟨text, rfl, reads⟩ := Rule.reads_token_iff.mp tokenRead
    rw [Segment.characters_cons, Segment.characters_nil, List.append_nil] at found ⊢
    obtain rfl : text.length = length := Option.some.inj (reads.symm.trans found)
    have own : ((Segment.labelled .operator text).text ++ rest).take text.length = text :=
      List.take_left
    rw [own]
    exact ⟨some .operator, text, rfl, advances_operator reads, reading_of_operator reads⟩
  · obtain ⟨text, rfl, reads⟩ := Rule.reads_token_iff.mp mark
    obtain ⟨backslash, others, rfl, markReads, endReads⟩ := reads_andThen_iff.mp reads
    obtain rfl := reads_char_iff.mp markReads
    obtain ⟨rfl, rfl⟩ := reads_atEnd_iff.mp endReads
    exact ⟨some .punctuation, ['\\'], rfl, List.cons_ne_nil _ _, .continuation⟩
  · obtain ⟨text, rfl, reads⟩ := Rule.Reads.of_classified own
    exact ⟨wordKind? expected text, text, rfl, advances_word reads,
      .word rfl (stops_of_reads_word reads)⟩

theorem fits_quoted : quoted.Fits :=
  fits_orElse (fits_escapedQuote _)
    (fits_andThen (fits_one _) (fits_andThen (fits_many _) (fits_one _)))

theorem fits_parameter : parameter.Fits := by
  have braced : (char '{' ++ through (· == '}')).Fits :=
    fits_andThen (fits_one _) (fits_andThen (fits_many _) (fits_one _))
  have named : variableName.Fits :=
    fits_andThen (fits_orElse (fits_one _) (fits_one _)) (fits_many _)
  exact fits_andThen (fits_one _) (fits_orElse braced (fits_orElse named (fits_one _)))

theorem fits_operator : operator.Fits :=
  fits_orElse (fits_anyOf _) (fits_one _)

theorem fits_word : word.Fits := by
  apply fits_andThen (fits_one _)
  intro text length read
  obtain ⟨count, bound, counted, -⟩ := wordLength_spec 0 text
  obtain rfl : wordLength 0 text = length := Option.some.inj read
  omega

theorem step_fits {place : Place} {pieces : List Piece}
    (read : step expected place = some (pieces, next)) :
    Piece.total pieces ≤ place.rest.length := by
  rcases step_cases read with ⟨comment, -⟩ | ⟨string, -⟩ | ⟨name, -⟩ |
    ⟨length, found, rfl, -⟩ | ⟨mark, -⟩ | ⟨own, -⟩
  · exact Rule.fits_token (fits_andThen (fits_one _) fits_restOfLine) _ _ _ comment
  · exact Rule.fits_token fits_quoted _ _ _ string
  · exact Rule.fits_token fits_parameter _ _ _ name
  · simpa [Piece.total, Piece.labelled] using fits_operator _ _ found
  · exact Rule.fits_token (fits_andThen (fits_one _) (fits_ahead _)) _ _ _ mark
  · exact Rule.fits_classified fits_word _ _ _ own

/-! ## Comments -/

/-- May a comment start behind what has been read? It may at the start, behind a character that no
word holds, and behind a parameter. -/
def CommentMayFollow (past : List Segment) : Prop :=
  ∀ c ∈ (Segment.characters past).getLast?,
    isBlank c ∨ c ∈ ['|', ';', '&', '<', '>'] ∨ c ∈ ['\"', '\'', '\\'] ∨
      ∃ earlier name, name ≠ [] ∧ past = earlier ++ [.labelled .variable name]

theorem last_of_operator {choice : String} (listed : choice ∈ separators ++ redirections) :
    ∀ c ∈ choice.toList.getLast?, c ∈ ['|', ';', '&', '<', '>'] := by
  have marks : ∀ choice ∈ separators ++ redirections,
      choice.toList.getLast?.all ['|', ';', '&', '<', '>'].contains := by decide
  intro c last
  have own := marks choice listed
  rw [Option.mem_def.mp last] at own
  simpa using own

theorem commentMayFollow_of_reading {kind? : Option TokenKind} {text : List Char}
    (reading : Reading expected kind? text next rest) (present : text ≠ [])
    (sign : rest.head? = some '#') (past : List Segment) :
    CommentMayFollow (past ++ [⟨kind?, text⟩]) := by
  intro c last
  have own : c ∈ text.getLast? := by
    rw [Segment.characters_append, List.getLast?_append, Segment.characters_cons,
      Segment.characters_nil, List.append_nil, List.getLast?_eq_some_getLast present] at last
    rwa [List.getLast?_eq_some_getLast present]
  cases reading with
  | comment body => simp at sign
  | quoted rest quotes =>
    right; right; left
    exact List.mem_append_left ['\\'] (quotes c own)
  | parameter text rest => exact .inr (.inr (.inr ⟨past, text, present, rfl⟩))
  | separator rest listed =>
    right; left
    exact last_of_operator (List.mem_append_left _ listed) c own
  | redirection rest listed =>
    right; left
    exact last_of_operator (List.mem_append_right _ listed) c own
  | continuation => simp at sign
  | word _ stops =>
    have inside : inWord '#' = false := stops '#' sign
    contradiction

theorem sign_of_reading {text : List Char}
    (reading : Reading expected (some .comment) text next rest) : text.head? = some '#' := by
  cases reading with
  | comment body => rfl
  | word found stops => simpa using wordKind?_cases found

theorem expected_of_reading {text : List Char}
    (reading : Reading expected (some .keyword) text next rest) : expected = true := by
  cases reading with
  | word found stops => simpa using wordKind?_cases found

/-- Where nothing is read, neither a word nor a parameter opens. -/
theorem unread_of_step {c : Char} (nothing : step expected ⟨before, offset, c :: rest⟩ = none) :
    inWord c = false ∧ (rest.head? = some '#' → c ≠ '$') := by
  simp only [step, Option.orElse_eq_orElse, Option.orElse_eq_or, Option.or_eq_none_iff,
    Option.map_eq_none_iff] at nothing
  obtain ⟨-, -, noParameter, -, -, noWord⟩ := nothing
  constructor
  · by_contra inside
    have first : (one inWord).length? (c :: rest) = some 1 := by simpa [one] using inside
    have missed : word.length? (c :: rest) = none := Option.map_eq_none_iff.mp noWord
    change (andThen (one inWord) _).length? (c :: rest) = none at missed
    simp [andThen, first] at missed
  · rintro sign rfl
    obtain ⟨others, rfl⟩ : ∃ others, rest = '#' :: others := List.head?_eq_some_iff.mp sign
    have found : parameter.length? ('$' :: '#' :: others) = some 2 := rfl
    have missed : parameter.length? ('$' :: '#' :: others) = none :=
      Option.map_eq_none_iff.mp noParameter
    rw [found] at missed
    contradiction

theorem commentMayFollow_of_unread {c : Char}
    (nothing : step expected ⟨before, offset, c :: rest⟩ = none)
    (sign : rest.head? = some '#') (past : List Segment) :
    CommentMayFollow (past ++ [.plain [c]]) := by
  obtain ⟨outside, noDollar⟩ := unread_of_step nothing
  intro d last
  obtain rfl : c = d := by simpa [Segment.plain] using last
  have marks : ∀ c ∈ ['\"', '\'', '$', '|', ';', '&', '<', '>', '\\'],
      c = '$' ∨ c ∈ ['|', ';', '&', '<', '>'] ∨ c ∈ ['\"', '\'', '\\'] :=
    forall_mem_of_all rfl
  simp only [inWord, isNoneOf, Bool.and_eq_false_iff, Bool.not_eq_false',
    List.contains_iff_mem] at outside
  rcases outside with blank | listed
  · exact .inl blank
  · rcases marks c listed with dollar | operator | quote
    · exact absurd dollar (noDollar sign)
    · exact .inr (.inl operator)
    · exact .inr (.inr (.inl quote))

theorem commentHistory :
    ScanHistory step (fun _ past rest => rest.head? = some '#' → CommentMayFollow past)
      (fun past token => token.kind = .comment →
        token.text.toList.head? = some '#' ∧ CommentMayFollow past) where
  fits := step_fits
  passes _ nothing sign := commentMayFollow_of_unread nothing sign _
  reads := by
    intro expected next past offset segments rest atPlace read
    obtain ⟨kind?, text, rfl, present, reading⟩ := reading_of_step read
    refine ⟨by simpa using present, ?_, Segment.eachAfter_singleton.mpr ?_⟩
    · exact fun sign => commentMayFollow_of_reading reading present sign past
    · intro kind found isComment
      obtain rfl : kind = .comment := isComment
      obtain rfl : kind? = some .comment := found
      have sign := sign_of_reading reading
      rw [String.toList_ofList]
      refine ⟨sign, atPlace ?_⟩
      rw [Segment.characters_cons, Segment.characters_nil, List.append_nil, List.head?_append, sign,
        Option.some_or]

/-! ## Commands -/

/-- Is a token an operator behind which a command is expected? -/
def separates (token : Token) : Bool :=
  token.kind == .operator && separators.contains token.text

/-- Is a command expected behind a token, when one was or was not expected before it? -/
def expectedAfter (expected : Bool) (token : Token) : Bool :=
  match token.kind with
  | .operator => separates token
  | .text | .punctuation | .comment => expected
  | _ => false

theorem expectedAfter_text (expected : Bool) (token : Token) (isText : token.kind = .text) :
    expectedAfter expected token = expected := by
  simp [expectedAfter, isText]

/-- The tokens that have been read tell whether the scan expects a command. -/
theorem expectedAfter_reading {kind? : Option TokenKind} {text : List Char}
    (reading : Reading expected kind? text next rest) (present : text ≠ []) :
    (Segment.labels [⟨kind?, text⟩]).foldl expectedAfter expected = next := by
  cases reading with
  | comment body => rfl
  | quoted rest quotes => simp [Segment.labels, present, expectedAfter]
  | parameter text rest => simp [Segment.labels, present, expectedAfter]
  | separator rest listed =>
    simp [Segment.labels, present, expectedAfter, separates, listed]
  | redirection rest listed =>
    simp [Segment.labels, present, expectedAfter, separates, not_mem_separators _ listed]
  | continuation => rfl
  | word found stops =>
    rcases wordKind?_cases found with rfl | ⟨rfl, rfl⟩ | ⟨rfl | rfl, rfl⟩ <;>
      simp [Segment.labels, present, expectedAfter]

theorem commandHistory :
    ScanHistory step
      (fun expected past _ => (Segment.labels past).foldl expectedAfter true = expected)
      (fun past token => token.kind = .keyword →
        (Segment.labels past).foldl expectedAfter true = true) where
  fits := step_fits
  passes := by
    intro expected past offset c rest atPlace _
    simpa [Segment.labels_append, Segment.labels, Segment.plain] using atPlace
  reads := by
    intro expected next past offset segments rest atPlace read
    obtain ⟨kind?, text, rfl, present, reading⟩ := reading_of_step read
    refine ⟨by simpa using present, ?_, Segment.eachAfter_singleton.mpr ?_⟩
    · rw [Segment.labels_append, List.foldl_append, atPlace]
      exact expectedAfter_reading reading present
    · intro kind found isKeyword
      obtain rfl : kind = .keyword := isKeyword
      obtain rfl : kind? = some .keyword := found
      rw [atPlace]
      exact expected_of_reading reading

/-- A command comes only where the tokens before it make one expected. -/
theorem expected_before_command {line : String} {front behind : List Token} {command : Token}
    (isCommand : command.kind = .keyword)
    (split : tokenize .shell line = front ++ command :: behind) :
    front.foldl expectedAfter true = true := by
  have isLabel : command.kind ≠ .text := by simp [isCommand]
  obtain ⟨past, rfl, expected⟩ := commandHistory.holds rfl isLabel split
  rw [Segment.tokens, Segment.foldl_tokensAfter expectedAfter_text]
  exact expected isCommand

/-- Where no separator stands, a command is expected only if it was from the start, and only behind
plain text and what ends a line. -/
theorem idle_of_expected {tokens : List Token} {expected : Bool}
    (whole : ∀ token ∈ tokens, separates token = false)
    (isExpected : tokens.foldl expectedAfter expected = true) :
    expected = true ∧ ∀ token ∈ tokens, token.kind ∈ [.text, .punctuation, .comment] := by
  induction tokens generalizing expected with
  | nil => exact ⟨isExpected, List.forall_mem_nil _⟩
  | cons token tokens inductionHypothesis =>
    obtain ⟨first, others⟩ := List.forall_mem_cons.mp whole
    obtain ⟨stillExpected, idle⟩ := inductionHypothesis others isExpected
    obtain ⟨kind, text⟩ := token
    cases kind with
    | text | punctuation | comment =>
      exact ⟨stillExpected, List.forall_mem_cons.mpr ⟨by simp, idle⟩⟩
    | operator => simp [expectedAfter, first] at stillExpected
    | _ => simp [expectedAfter] at stillExpected

/-- In a part of a line without separators nothing but plain text stands before a command. -/
theorem idle_before_command {line : String} {part front behind : List Token} {command : Token}
    (member : part ∈ (tokenize .shell line).splitOnP separates)
    (split : part = front ++ command :: behind) (isCommand : command.kind = .keyword) :
    ∀ token ∈ front, token.kind ∈ [.text, .punctuation, .comment] := by
  obtain ⟨⟨before, after, whole⟩, clear⟩ := infix_of_mem_splitOnP member
  subst split
  have tokens : tokenize .shell line = (before ++ front) ++ command :: (behind ++ after) := by
    simp [← whole]
  have expected := expected_before_command isCommand tokens
  rw [List.foldl_append] at expected
  exact (idle_of_expected (fun token within => clear token (by simp [within])) expected).2

end Grammar.Command

/-! ## Main results -/

/-- In every line of commands a comment starts with a number sign, and right before it stands
nothing, a blank, an operator, a quote, a backslash or a parameter; so it is never glued to a
word. -/
theorem comments_follow_no_word {line : String} {front behind : List Token} {comment : Token}
    (isComment : comment.kind = .comment)
    (split : tokenize .shell line = front ++ comment :: behind) :
    comment.text.toList.head? = some '#' ∧
      ∀ c ∈ (characters front).getLast?,
        isBlank c ∨ c ∈ ['|', ';', '&', '<', '>'] ∨ c ∈ ['\"', '\'', '\\'] ∨
          ∃ earlier name, front = earlier ++ [⟨.variable, name⟩] := by
  have isLabel : comment.kind ≠ .text := by simp [isComment]
  have atStart : line.toList.head? = some '#' → Grammar.Command.CommentMayFollow [] := by
    intro _ c last
    contradiction
  obtain ⟨past, rfl, holds⟩ := Grammar.Command.commentHistory.holds atStart isLabel split
  obtain ⟨sign, mayFollow⟩ := holds isComment
  refine ⟨sign, fun c last => ?_⟩
  rw [Segment.characters_tokens] at last
  rcases mayFollow c last with blank | operator | quote | ⟨earlier, name, present, rfl⟩
  · exact .inl blank
  · exact .inr (.inl operator)
  · exact .inr (.inr (.inl quote))
  · right; right; right
    exact ⟨Segment.tokens earlier, String.ofList name, Segment.tokens_append_labelled _ [] present⟩

/-- A number sign inside a word is part of it, and one behind an operator opens a comment. -/
theorem comment_behind_separator :
    tokenize .shell "ls a#b;#c" =
        [⟨.keyword, "ls"⟩, ⟨.text, " a#b"⟩, ⟨.operator, ";"⟩, ⟨.comment, "#c"⟩] ∧
      "#c".toList.head? = some '#' := by
  let front : List Token := [⟨.keyword, "ls"⟩, ⟨.text, " a#b"⟩, ⟨.operator, ";"⟩]
  have tokens : tokenize .shell "ls a#b;#c" = front ++ ⟨.comment, "#c"⟩ :: [] := by
    decide +kernel
  exact ⟨tokens, (comments_follow_no_word rfl tokens).1⟩

/-- Right behind a quoted text a number sign opens a comment, though no blank and no operator
stands before it. -/
theorem comment_glued_to_quote :
    tokenize .shell "\"a\"#b" = [⟨.string, "\"a\""⟩, ⟨.comment, "#b"⟩] ∧
      isBlank '\"' = false ∧ '\"' ∉ ['|', ';', '&', '<', '>'] := by
  decide +kernel

/-- No command comes behind a redirection where no operator that separates commands stands between
them. -/
theorem redirections_take_no_command {line : String} {front between behind : List Token}
    {redirection word : Token} (isOperator : redirection.kind = .operator)
    (redirects : redirection.text ∈ Grammar.Command.redirections)
    (whole : ∀ token ∈ between, Grammar.Command.separates token = false)
    (split : tokenize .shell line = front ++ redirection :: (between ++ word :: behind)) :
    word.kind ≠ .keyword := by
  intro isCommand
  have tokens : tokenize .shell line = (front ++ redirection :: between) ++ word :: behind := by
    simp [split]
  have expected := Grammar.Command.expected_before_command isCommand tokens
  rw [List.foldl_append, List.foldl_cons] at expected
  have behindIt := (Grammar.Command.idle_of_expected whole expected).1
  simp [Grammar.Command.expectedAfter, Grammar.Command.separates, isOperator,
    Grammar.Command.not_mem_separators _ redirects] at behindIt

/-- The name of a file behind two redirections is no command. -/
theorem word_of_redirection :
    tokenize .shell "a>>< b" =
        [⟨.keyword, "a"⟩, ⟨.operator, ">>"⟩, ⟨.operator, "<"⟩, ⟨.text, " b"⟩] ∧
      TokenKind.text ≠ .keyword := by
  have tokens : tokenize .shell "a>>< b" =
      [⟨.keyword, "a"⟩] ++ ⟨.operator, ">>"⟩ :: ([⟨.operator, "<"⟩] ++ ⟨.text, " b"⟩ :: []) := by
    decide +kernel
  have whole : ∀ token ∈ [(⟨.operator, "<"⟩ : Token)],
      Grammar.Command.separates token = false := by decide
  exact ⟨tokens, redirections_take_no_command rfl (by decide) whole tokens⟩

/-- A redirection with an ampersand right behind it is taken for two operators, of which the second
lets a command follow. -/
theorem command_behind_duplicated_output :
    tokenize .shell "make 2>&1" =
      [⟨.keyword, "make"⟩, ⟨.text, " "⟩, ⟨.number, "2"⟩, ⟨.operator, ">"⟩, ⟨.operator, "&"⟩,
        ⟨.keyword, "1"⟩] := by
  decide +kernel

/-- In every line of commands, cut at the operators that separate them, each part has at most one
command, and no quoted text, parameter, flag, number or redirection stands before it. -/
theorem commands_come_first {line : String} {part : List Token}
    (member : part ∈ (tokenize .shell line).splitOnP Grammar.Command.separates) :
    part.countP (·.kind = .keyword) ≤ 1 ∧
      ∀ front command behind, part = front ++ command :: behind → command.kind = .keyword →
        ∀ token ∈ front,
          token.kind ∉ [.string, .variable, .attribute, .number, .operator] := by
  have idle : ∀ front command behind, part = front ++ command :: behind →
      command.kind = .keyword → ∀ token ∈ front, token.kind ∈ [.text, .punctuation, .comment] :=
    fun _ _ _ split isCommand => Grammar.Command.idle_before_command member split isCommand
  have apart : ∀ kind ∈ [TokenKind.text, .punctuation, .comment],
      kind ≠ .keyword ∧ kind ∉ [TokenKind.string, .variable, .attribute, .number, .operator] := by
    decide
  constructor
  · apply countP_le_one
    intro front command behind split isCommand token within
    have isIdle := idle front command behind split (by simpa using isCommand) token within
    simpa using (apart _ isIdle).1
  · intro front command behind split isCommand token within
    exact (apart _ (idle front command behind split isCommand token within)).2

/-- The name of a file may stand behind a command, and what comes behind a pipe is one again. -/
theorem command_of_each_part :
    (tokenize .shell "a -x > b | c").splitOnP Grammar.Command.separates =
        [[⟨.keyword, "a"⟩, ⟨.text, " "⟩, ⟨.attribute, "-x"⟩, ⟨.text, " "⟩, ⟨.operator, ">"⟩,
            ⟨.text, " b "⟩],
          [⟨.text, " "⟩, ⟨.keyword, "c"⟩]] ∧
      [(⟨.text, " "⟩ : Token), ⟨.keyword, "c"⟩].countP (·.kind = .keyword) ≤ 1 := by
  have parts : (tokenize .shell "a -x > b | c").splitOnP Grammar.Command.separates =
      [[⟨.keyword, "a"⟩, ⟨.text, " "⟩, ⟨.attribute, "-x"⟩, ⟨.text, " "⟩, ⟨.operator, ">"⟩,
          ⟨.text, " b "⟩],
        [⟨.text, " "⟩, ⟨.keyword, "c"⟩]] := by
    decide +kernel
  have member : [⟨.text, " "⟩, ⟨.keyword, "c"⟩] ∈
      (tokenize .shell "a -x > b | c").splitOnP Grammar.Command.separates := by
    simp [parts]
  exact ⟨parts, (commands_come_first member).1⟩

end Highlight
