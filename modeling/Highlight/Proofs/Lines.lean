import Mathlib.Data.List.TakeWhile
import Highlight.Text.Lines

/-!
Lines of a value. Cutting splits at every separator, so the parts and the separators make up the
text; lines differ from the parts only by the carriage returns that they lose.
-/

set_option autoImplicit false

namespace Highlight.Text

theorem cut_eq_splitOn (separator : Char) (text : List Char) :
    cut separator text = text.splitOn separator := by
  fun_induction cut separator text with
  | case1 text exhausted =>
    refine (List.splitOn_eq_singleton ?_).symm
    intro member
    have allPass := List.dropWhile_eq_nil_iff.mp exhausted separator member
    simp at allPass
  | case2 text found rest remaining inductionHypothesis =>
    have head := List.dropWhile_get_zero_not (· != separator) text (by simp [remaining])
    obtain rfl : found = separator := by simpa [remaining] using head
    have absent : found ∉ text.takeWhile (· != found) := by
      intro member
      simpa using List.mem_takeWhile_imp member
    have whole : text = text.takeWhile (· != found) ++ found :: rest := by
      rw [← remaining, List.takeWhile_append_dropWhile]
    have split := List.splitOn_append_cons_self_of_not_mem absent rest
    rw [← whole] at split
    rw [inductionHypothesis, split]

theorem cut_ne_nil (separator : Char) (text : List Char) : cut separator text ≠ [] := by
  rw [cut_eq_splitOn]
  exact List.splitOn_ne_nil separator text

@[simp] theorem cut_nil (separator : Char) : cut separator [] = [[]] := by
  simp [cut_eq_splitOn]

@[simp] theorem cut_cons_self (separator : Char) (rest : List Char) :
    cut separator (separator :: rest) = [] :: cut separator rest := by
  simp [cut_eq_splitOn, List.splitOn_cons_eq_if_modifyHead]

theorem cut_cons_of_ne {separator c : Char} (different : c ≠ separator) (rest : List Char) :
    cut separator (c :: rest) = (cut separator rest).modifyHead (c :: ·) := by
  simp [cut_eq_splitOn, List.splitOn_cons_eq_if_modifyHead, different]

theorem cut_append_cons (separator : Char) (first second : List Char) :
    cut separator (first ++ separator :: second) = cut separator first ++ cut separator second := by
  simp only [cut_eq_splitOn, List.splitOn_append_cons_self]

theorem intercalate_cut (separator : Char) (text : List Char) :
    [separator].intercalate (cut separator text) = text := by
  rw [cut_eq_splitOn, List.intercalate_splitOn]

theorem not_mem_of_mem_cut {separator : Char} {text part : List Char}
    (member : part ∈ cut separator text) : separator ∉ part := by
  induction text generalizing part with
  | nil => simp_all
  | cons c rest inductionHypothesis =>
    by_cases same : c = separator
    · subst same
      rw [cut_cons_self, List.mem_cons] at member
      rcases member with rfl | member
      · simp
      · exact inductionHypothesis member
    · rw [cut_cons_of_ne same] at member
      cases parts : cut separator rest with
      | nil => exact absurd parts (cut_ne_nil separator rest)
      | cons first others =>
        simp only [parts, List.modifyHead_cons, List.mem_cons] at member
        rcases member with rfl | member
        · have firstClean := inductionHypothesis (parts ▸ List.mem_cons_self)
          simpa [Ne.symm same] using firstClean
        · exact inductionHypothesis (parts ▸ List.mem_cons_of_mem _ member)

theorem length_cut (separator : Char) (text : List Char) :
    (cut separator text).length = text.count separator + 1 := by
  induction text with
  | nil => simp
  | cons c rest inductionHypothesis =>
    by_cases same : c = separator
    · subst same
      rw [cut_cons_self, List.length_cons, inductionHypothesis, List.count_cons_self]
    · rw [cut_cons_of_ne same, List.length_modifyHead, inductionHypothesis,
        List.count_cons_of_ne same]

/-! ## Carriage returns -/

theorem withoutReturn_isPrefix (line : List Char) : withoutReturn line <+: line := by
  unfold withoutReturn
  split
  · exact List.dropLast_prefix line
  · exact List.prefix_rfl

theorem withoutReturn_eq_self_iff (line : List Char) :
    withoutReturn line = line ↔ line.getLast? ≠ some '\r' := by
  unfold withoutReturn
  split
  · next returns =>
    have shorter : line.dropLast ≠ line := by
      intro same
      have lengths := congrArg List.length same
      cases line with
      | nil => simp at returns
      | cons c rest => simp at lengths
    simp [shorter, returns]
  · next keeps => simp [keeps]

theorem withoutReturn_append {first second : List Char}
    (keeps : second = [] → first.getLast? ≠ some '\r') :
    withoutReturn (first ++ second) = first ++ withoutReturn second := by
  by_cases empty : second = []
  · simp [empty, withoutReturn, keeps]
  · have last : (first ++ second).getLast? = second.getLast? := by
      simp [List.getLast?_append, List.getLast?_eq_some_getLast empty]
    simp only [withoutReturn, last]
    split
    · exact List.dropLast_append_of_ne_nil empty
    · rfl

/-- A text without one carriage return right before each line feed and at its end. -/
def withoutReturns : List Char → List Char
  | [] => []
  | ['\r'] => []
  | '\r' :: '\n' :: rest => '\n' :: withoutReturns rest
  | c :: rest => c :: withoutReturns rest

theorem linesOf_ne_nil (value : List Char) : linesOf value ≠ [] := by
  simp [linesOf, cut_ne_nil]

/-- There is one more line than there are line feeds. -/
theorem length_linesOf (value : List Char) : (linesOf value).length = value.count '\n' + 1 := by
  rw [linesOf, List.length_map, length_cut]

theorem linesOf_cons_feed (rest : List Char) : linesOf ('\n' :: rest) = [] :: linesOf rest := by
  simp [linesOf, withoutReturn]

theorem linesOf_append_feed (first second : List Char) :
    linesOf (first ++ '\n' :: second) = linesOf first ++ linesOf second := by
  simp only [linesOf, cut_append_cons, List.map_append]

/-- The lines of a text begin with a character of its first line, unless that is a carriage return
that the line loses. -/
theorem linesOf_cons {c : Char} (noFeed : c ≠ '\n') {rest : List Char}
    (keeps : c = '\r' → rest ≠ [] ∧ rest.head? ≠ some '\n') :
    linesOf (c :: rest) = (linesOf rest).modifyHead (c :: ·) := by
  cases parts : cut '\n' rest with
  | nil => exact absurd parts (cut_ne_nil '\n' rest)
  | cons first others =>
    have firstKeeps : first = [] → [c].getLast? ≠ some '\r' := by
      rintro rfl isReturn
      obtain ⟨present, noBreak⟩ := keeps (by simpa using isReturn)
      cases rest with
      | nil => exact present rfl
      | cons d rest =>
        rw [cut_cons_of_ne (by simpa using noBreak)] at parts
        cases inner : cut '\n' rest with
        | nil => exact cut_ne_nil '\n' rest inner
        | cons => simp [inner] at parts
    have firstLine : withoutReturn (c :: first) = c :: withoutReturn first :=
      withoutReturn_append firstKeeps
    simp only [linesOf, cut_cons_of_ne noFeed, parts, List.modifyHead_cons, List.map_cons,
      firstLine]

/-- A carriage return that ends a line is lost. -/
theorem linesOf_cons_return {rest : List Char} (ends : rest = [] ∨ rest.head? = some '\n') :
    linesOf ('\r' :: rest) = linesOf rest := by
  obtain rfl | breaks := ends
  · simp [linesOf, cut_cons_of_ne, withoutReturn]
  · obtain ⟨others, rfl⟩ := List.head?_eq_some_iff.mp breaks
    simp [linesOf, cut_cons_of_ne, withoutReturn]

/-- The lines of a text begin with a passage that stays on the first line. -/
theorem linesOf_append {passage : List Char} (noFeed : '\n' ∉ passage)
    (keeps : passage.getLast? ≠ some '\r') (rest : List Char) :
    linesOf (passage ++ rest) = (linesOf rest).modifyHead (passage ++ ·) := by
  induction passage with
  | nil => exact (congrFun List.modifyHead_id (linesOf rest)).symm
  | cons c passage inductionHypothesis =>
    obtain ⟨noFeedHere, noFeedLater⟩ : '\n' ≠ c ∧ '\n' ∉ passage := by simpa using noFeed
    cases passage with
    | nil =>
      have noReturn : c ≠ '\r' := by simpa using keeps
      rw [List.singleton_append, linesOf_cons (Ne.symm noFeedHere) fun same => absurd same noReturn]
      rfl
    | cons d passage =>
      have following := inductionHypothesis noFeedLater (by simpa using keeps)
      have stays : d ≠ '\n' := fun same => noFeedLater (by simp [same])
      rw [List.cons_append, linesOf_cons (Ne.symm noFeedHere) (by simpa using fun _ => stays),
        following, List.modifyHead_modifyHead]
      rfl

theorem prefix_of_mem_head?_linesOf {text line : List Char} (first : line ∈ (linesOf text).head?) :
    line <+: text := by
  obtain ⟨part, isFirst, rfl⟩ : ∃ part, (cut '\n' text).head? = some part ∧
      withoutReturn part = line := by
    simpa [linesOf] using first
  have starts : part <+: text := by
    rw [cut] at isFirst
    split at isFirst
    · simp_all
    · obtain rfl : text.takeWhile (· != '\n') = part := by simpa using isFirst
      exact List.takeWhile_prefix _
  exact (withoutReturn_isPrefix part).trans starts

/-- Lines put together again lack the carriage returns that they lost, and nothing else. -/
theorem intercalate_linesOf (value : List Char) :
    ['\n'].intercalate (linesOf value) = withoutReturns value := by
  fun_induction withoutReturns value with
  | case1 => simp [linesOf, withoutReturn]
  | case2 => simp [linesOf, cut_cons_of_ne, withoutReturn]
  | case3 rest inductionHypothesis =>
    have lines : linesOf ('\r' :: '\n' :: rest) = [] :: linesOf rest := by
      simp [linesOf, cut_cons_of_ne, withoutReturn]
    rw [lines, List.intercalate_cons_of_ne_nil (linesOf_ne_nil rest), inductionHypothesis]
    rfl
  | case4 c rest notLast notBreak inductionHypothesis =>
    by_cases feed : c = '\n'
    · rw [feed, linesOf_cons_feed, List.intercalate_cons_of_ne_nil (linesOf_ne_nil rest),
        inductionHypothesis]
      rfl
    · have keeps : c = '\r' → rest ≠ [] ∧ rest.head? ≠ some '\n' := by
        intro isReturn
        refine ⟨fun empty => notLast isReturn empty, fun breaks => ?_⟩
        obtain ⟨others, same⟩ := List.head?_eq_some_iff.mp breaks
        exact notBreak others isReturn same
      rw [linesOf_cons feed keeps, ← inductionHypothesis]
      cases lines : linesOf rest with
      | nil => exact absurd lines (linesOf_ne_nil rest)
      | cons first others => exact List.intercalate_cons_cons_left

theorem not_mem_of_mem_linesOf {value line : List Char} (member : line ∈ linesOf value) :
    '\n' ∉ line := by
  obtain ⟨part, partMember, rfl⟩ := List.mem_map.mp member
  exact fun feed => not_mem_of_mem_cut partMember ((withoutReturn_isPrefix part).subset feed)

theorem linesOf_eq_cut_iff (value : List Char) :
    linesOf value = cut '\n' value ↔ ∀ line ∈ cut '\n' value, line.getLast? ≠ some '\r' := by
  simp only [linesOf, ← withoutReturn_eq_self_iff]
  simpa using List.map_eq_map_iff (l := cut '\n' value) (f := withoutReturn) (g := id)

/-- Lines come back from the text that they make up just when there is one, none holds a line feed
and none ends with a carriage return. -/
theorem linesOf_intercalate_eq_self_iff (lines : List (List Char)) :
    linesOf (['\n'].intercalate lines) = lines ↔
      lines ≠ [] ∧ ∀ line ∈ lines, '\n' ∉ line ∧ line.getLast? ≠ some '\r' := by
  have parts (present : lines ≠ []) (feedless : ∀ line ∈ lines, '\n' ∉ line) :
      cut '\n' (['\n'].intercalate lines) = lines := by
    rw [cut_eq_splitOn, List.splitOn_intercalate '\n' feedless present]
  constructor
  · intro same
    have present : lines ≠ [] := same ▸ linesOf_ne_nil _
    have feedless : ∀ line ∈ lines, '\n' ∉ line := by
      intro line member
      rw [← same] at member
      exact not_mem_of_mem_linesOf member
    have whole := parts present feedless
    have keeps := (linesOf_eq_cut_iff (['\n'].intercalate lines)).mp (same.trans whole.symm)
    rw [whole] at keeps
    exact ⟨present, fun line member => ⟨feedless line member, keeps line member⟩⟩
  · rintro ⟨present, clean⟩
    have whole := parts present fun line member => (clean line member).1
    have keeps : ∀ line ∈ cut '\n' (['\n'].intercalate lines), line.getLast? ≠ some '\r' := by
      rw [whole]
      exact fun line member => (clean line member).2
    rw [(linesOf_eq_cut_iff _).mpr keeps, whole]

/-- A text loses nothing just when none of its lines ends with a carriage return. -/
theorem withoutReturns_eq_self_iff (value : List Char) :
    withoutReturns value = value ↔ ∀ line ∈ cut '\n' value, line.getLast? ≠ some '\r' := by
  rw [← linesOf_eq_cut_iff, ← intercalate_linesOf]
  constructor
  · intro same
    have clean : ∀ line ∈ linesOf value, '\n' ∉ line := fun _ => not_mem_of_mem_linesOf
    rw [cut_eq_splitOn, ← List.splitOn_intercalate '\n' clean (linesOf_ne_nil value), same]
  · intro same
    rw [same, cut_eq_splitOn, List.intercalate_splitOn]

end Highlight.Text
