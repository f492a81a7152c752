import Highlight.Json.Reader

/-!
The places at which reading JSON ends. Neither a cursor nor a failure gets beyond the last line of
the text, so the line of a failure is at most one more than the line feeds of the text.
-/

set_option autoImplicit false

namespace Highlight.Json

namespace Mark

theorem line_past (mark : Mark) (c : Char) (rest : List Char) :
    (mark.past c).line + rest.count '\n' = mark.line + (c :: rest).count '\n' := by
  unfold past
  split
  · next feed => simp [feed, Nat.add_assoc, Nat.add_comm 1]
  · next noFeed => simp [noFeed]

theorem line_foldl_past (mark : Mark) (passage rest : List Char) :
    (passage.foldl past mark).line + rest.count '\n' =
      mark.line + (passage ++ rest).count '\n' := by
  induction passage generalizing mark with
  | nil => rfl
  | cons c passage inductionHypothesis =>
    rw [List.foldl_cons, inductionHypothesis, line_past, List.cons_append]

theorem line_afterBytes_le (mark : Mark) (count : Nat) (text : List Char) :
    (mark.afterBytes count text).line ≤ mark.line + text.count '\n' := by
  fun_induction afterBytes mark count text with
  | case1 => omega
  | case2 => omega
  | case3 mark count rest inductionHypothesis =>
    simpa [Nat.add_assoc, Nat.add_comm 1] using inductionHypothesis
  | case4 mark count c rest noFeed fits inductionHypothesis =>
    rwa [line_past] at inductionHypothesis
  | case5 mark count c rest => exact Nat.le_add_right ..

end Mark

namespace Cursor

/-- The last line of the text: the line of the cursor and the line feeds that are left. -/
def lastLine (cursor : Cursor) : Nat :=
  cursor.mark.line + cursor.rest.count '\n'

theorem lastLine_start (text : List Char) : (start text).lastLine = 1 + text.count '\n' := rfl

variable (cursor : Cursor)

@[simp] theorem lastLine_advance : cursor.advance.lastLine = cursor.lastLine := by
  unfold advance
  split
  · rfl
  · next c rest present =>
    rw [lastLine, lastLine, present]
    exact cursor.mark.line_past c rest

@[simp] theorem lastLine_skipBlanks : cursor.skipBlanks.lastLine = cursor.lastLine := by
  rw [lastLine, lastLine, skipBlanks]
  dsimp only
  rw [Mark.line_foldl_past, List.takeWhile_append_dropWhile]

theorem lastLine_advanceBy_le (count : Nat) : (cursor.advanceBy count).lastLine ≤ cursor.lastLine :=
  Nat.add_le_add_left ((List.drop_sublist count cursor.rest).count_le '\n') _

theorem line_le_lastLine : cursor.mark.line ≤ cursor.lastLine :=
  Nat.le_add_right ..

theorem line_afterBytes_le (count : Nat) :
    (cursor.mark.afterBytes count cursor.rest).line ≤ cursor.lastLine :=
  Mark.line_afterBytes_le ..

theorem line_endMark : cursor.endMark.line = cursor.lastLine := by
  simpa [endMark, lastLine] using cursor.mark.line_foldl_past cursor.rest []

end Cursor

/-! ## Readings -/

/-- A failure at one of the lines up to some line. -/
def Failure.Within (limit : Nat) : Failure → Prop
  | placed _ mark => mark.line ≤ limit
  | unplaced _ stopped => stopped.lastLine ≤ limit

/-- A reading that does not get beyond some line, whether it succeeds or fails. -/
def StaysWithin {α : Type} (limit : Nat) (place : α → Cursor) : Except Failure α → Prop
  | .ok found => (place found).lastLine ≤ limit
  | .error failure => failure.Within limit

namespace StaysWithin

variable {α β : Type} {limit : Nat} {place : α → Cursor} {nextPlace : β → Cursor}

theorem bind {first : Except Failure α} {second : α → Except Failure β}
    (stays : StaysWithin limit place first)
    (further : ∀ found, (place found).lastLine ≤ limit →
      StaysWithin limit nextPlace (second found)) :
    StaysWithin limit nextPlace (first >>= second) := by
  cases first with
  | ok found => exact further found stays
  | error failure => exact stays

end StaysWithin

namespace Cursor

variable {α Item State : Type} {limit : Nat} {cursor : Cursor}

theorem fail_stays (bounded : cursor.lastLine ≤ limit) (cause : Cause) {place : α → Cursor} :
    StaysWithin limit place (cursor.fail cause) :=
  Nat.le_trans cursor.line_le_lastLine bounded

theorem failNext_stays (bounded : cursor.lastLine ≤ limit) (cause : Cause)
    {place : α → Cursor} : StaysWithin limit place (cursor.failNext cause) :=
  Nat.le_trans (cursor.line_afterBytes_le 1) bounded

theorem advance_bounded (bounded : cursor.lastLine ≤ limit) : cursor.advance.lastLine ≤ limit := by
  rwa [lastLine_advance]

theorem skipBlanks_bounded (bounded : cursor.lastLine ≤ limit) :
    cursor.skipBlanks.lastLine ≤ limit := by
  rwa [lastLine_skipBlanks]

theorem advanceBy_bounded (bounded : cursor.lastLine ≤ limit) (count : Nat) :
    (cursor.advanceBy count).lastLine ≤ limit :=
  Nat.le_trans (cursor.lastLine_advanceBy_le count) bounded

theorem word_stays (expected : List Char) (bounded : cursor.lastLine ≤ limit) :
    StaysWithin limit id (word expected cursor) := by
  induction expected generalizing cursor with
  | nil => exact bounded
  | cons c expected inductionHypothesis =>
    unfold word
    split
    · exact fail_stays bounded _
    split
    · exact inductionHypothesis (advance_bounded bounded)
    · exact failNext_stays bounded _

/-! ## Strings -/

theorem hexQuad_stays (bounded : cursor.lastLine ≤ limit) :
    StaysWithin limit Prod.snd cursor.hexQuad := by
  unfold hexQuad
  split
  · exact advanceBy_bounded bounded 4
  split
  · exact Nat.le_trans (Nat.le_of_eq cursor.line_endMark) bounded
  · exact Nat.le_trans (cursor.line_afterBytes_le 4) bounded

theorem pairMark_stays (expected : Char) (bounded : cursor.lastLine ≤ limit) :
    StaysWithin limit id (cursor.pairMark expected) := by
  unfold pairMark
  split
  · exact fail_stays bounded _
  split
  · exact advance_bounded bounded
  · exact failNext_stays bounded _

theorem codeUnits_stays (bounded : cursor.lastLine ≤ limit) :
    StaysWithin limit Prod.snd cursor.codeUnits := by
  refine (hexQuad_stays bounded).bind fun (code, next) afterFirst => ?_
  dsimp only
  split
  · exact fail_stays afterFirst _
  split
  · refine (pairMark_stays '\\' afterFirst).bind fun marked afterMark => ?_
    refine (pairMark_stays 'u' afterMark).bind fun lettered afterLetter => ?_
    refine (hexQuad_stays afterLetter).bind fun (low, last) afterSecond => ?_
    dsimp only
    split
    · exact afterSecond
    · exact fail_stays afterSecond _
  · exact afterFirst

theorem escape_stays (bounded : cursor.lastLine ≤ limit) :
    StaysWithin limit Prod.snd cursor.escape := by
  unfold escape
  split
  · exact fail_stays bounded _
  split
  · exact advance_bounded bounded
  split
  · exact codeUnits_stays (advance_bounded bounded)
  · exact failNext_stays bounded _

theorem stringRest_stays (fuel : Nat) (newestFirst : List Char)
    (bounded : cursor.lastLine ≤ limit) :
    StaysWithin limit Prod.snd (stringRest fuel newestFirst cursor) := by
  induction fuel generalizing newestFirst cursor with
  | zero => exact fail_stays bounded _
  | succ fuel inductionHypothesis =>
    unfold stringRest
    split
    · exact fail_stays bounded _
    split
    · exact advance_bounded bounded
    split
    · have escaped := escape_stays (advance_bounded bounded)
      split
      · next read =>
        rw [read] at escaped
        exact inductionHypothesis _ escaped
      · next failed => rwa [failed] at escaped
    split
    · exact failNext_stays bounded _
    · exact inductionHypothesis _ (advance_bounded bounded)

theorem string_stays (bounded : cursor.lastLine ≤ limit) :
    StaysWithin limit Prod.snd cursor.string :=
  stringRest_stays _ _ (advance_bounded bounded)

/-! ## Numerals -/

theorem fractional_stays (isNegative : Bool) (significand : Nat) (exponent : Int)
    (bounded : cursor.lastLine ≤ limit) :
    StaysWithin limit Prod.snd (cursor.fractional isNegative significand exponent) := by
  unfold fractional
  split
  · exact bounded
  · exact fail_stays bounded _

theorem exponentPart_stays (isNegative : Bool) (significand : Nat) (exponent : Int)
    (bounded : cursor.lastLine ≤ limit) :
    StaysWithin limit Prod.snd (cursor.exponentPart isNegative significand exponent) := by
  have signed : (if cursor.advance.nextIs (fun c => c == '+' || c == '-')
      then cursor.advance.advance else cursor.advance).lastLine ≤ limit := by
    split <;> simpa using bounded
  unfold exponentPart
  dsimp only
  generalize (if cursor.advance.nextIs fun c => c == '+' || c == '-' then cursor.advance.advance
    else cursor.advance) = start at signed ⊢
  split
  · exact fail_stays signed _
  split
  · exact failNext_stays signed _
  split
  · exact fractional_stays _ _ _ (advanceBy_bounded signed _)
  split
  · exact fail_stays (advanceBy_bounded signed _) _
  · exact advanceBy_bounded signed _

theorem fractionPart_stays (isNegative : Bool) (significand : Nat) (exponent : Int)
    (bounded : cursor.lastLine ≤ limit) :
    StaysWithin limit Prod.snd (cursor.fractionPart isNegative significand exponent) := by
  have pointed := advance_bounded bounded
  unfold fractionPart
  dsimp only
  split
  · exact failNext_stays pointed _
  split
  · exact exponentPart_stays _ _ _ (advanceBy_bounded pointed _)
  · exact fractional_stays _ _ _ (advanceBy_bounded pointed _)

theorem afterInteger_stays (isNegative : Bool) (significand dropped : Nat)
    (bounded : cursor.lastLine ≤ limit) :
    StaysWithin limit Prod.snd (cursor.afterInteger isNegative significand dropped) := by
  unfold afterInteger
  split
  · exact fractionPart_stays _ _ _ bounded
  split
  · exact exponentPart_stays _ _ _ bounded
  split
  · exact bounded
  · exact fractional_stays _ _ _ bounded

theorem numeral_stays (isNegative : Bool) (bounded : cursor.lastLine ≤ limit) :
    StaysWithin limit Prod.snd (cursor.numeral isNegative) := by
  unfold Cursor.numeral
  split
  · exact fail_stays bounded _
  split
  · split
    · exact failNext_stays (advance_bounded bounded) _
    · exact afterInteger_stays _ _ _ (advance_bounded bounded)
  split
  · exact afterInteger_stays _ _ _ (advanceBy_bounded bounded _)
  · exact failNext_stays bounded _

theorem signedNumeral_stays (bounded : cursor.lastLine ≤ limit) :
    StaysWithin limit Prod.snd cursor.signedNumeral := by
  unfold signedNumeral
  split
  · exact numeral_stays true (advance_bounded bounded)
  · exact numeral_stays false bounded

/-! ## Lists and objects -/

/-- A reader that does not get beyond the lines up to some line when it starts within them. -/
def ReadsWithin (limit : Nat) (read : Cursor → Outcome α) : Prop :=
  ∀ cursor : Cursor, cursor.lastLine ≤ limit → StaysWithin limit Prod.snd (read cursor)

theorem continuedItem_stays {read : Cursor → Outcome Item} (reads : ReadsWithin limit read)
    {further : Item → Cursor → Outcome State}
    (goesOn : ∀ item after, lastLine after ≤ limit →
      StaysWithin limit Prod.snd (further item after)) (bounded : cursor.lastLine ≤ limit) :
    StaysWithin limit Prod.snd (match read cursor with
      | .ok (item, after) => further item after
      | .error failure => .error failure) := by
  have item := reads cursor bounded
  split
  · next found =>
    rw [found] at item
    exact goesOn _ _ item
  · next failed => rwa [failed] at item

theorem items_stays {read : Cursor → Outcome Item} (reads : ReadsWithin limit read) (fuel : Nat)
    (newestFirst : List Item) (bounded : cursor.lastLine ≤ limit) :
    StaysWithin limit Prod.snd (items read fuel newestFirst cursor) := by
  induction fuel generalizing newestFirst cursor with
  | zero => exact fail_stays bounded _
  | succ fuel inductionHypothesis =>
    have readItem (start : Cursor) (starts : start.lastLine ≤ limit) :=
      continuedItem_stays reads (fun item _ => inductionHypothesis (item :: newestFirst)) starts
    have next := skipBlanks_bounded bounded
    unfold items
    dsimp only
    split
    · exact failNext_stays next _
    split
    · exact next
    split
    · exact readItem _ next
    split
    · have start := skipBlanks_bounded (advance_bounded next)
      split
      · exact failNext_stays start _
      split
      · exact failNext_stays start _
      · exact readItem _ start
    · exact failNext_stays next _

theorem colon_stays (bounded : cursor.lastLine ≤ limit) : StaysWithin limit id cursor.colon := by
  have next := skipBlanks_bounded bounded
  unfold colon
  dsimp only
  split
  · exact failNext_stays next _
  split
  · exact advance_bounded next
  · exact failNext_stays next _

theorem continuedMember_stays {read : State → String → Cursor → Outcome State}
    (reads : ∀ state name, ReadsWithin limit (read state name)) (state : State)
    {further : State → Cursor → Outcome State}
    (goesOn : ∀ state after, lastLine after ≤ limit →
      StaysWithin limit Prod.snd (further state after)) (bounded : cursor.lastLine ≤ limit) :
    StaysWithin limit Prod.snd (match cursor.string with
      | .error failure => .error failure
      | .ok (name, afterName) =>
        match read state name afterName with
        | .error failure => .error failure
        | .ok (newState, after) => further newState after) := by
  have named := string_stays bounded
  split
  · next failed => rwa [failed] at named
  · next name afterName found =>
    rw [found] at named
    have member := reads state name afterName named
    split
    · next failed => rwa [failed] at member
    · next found =>
      rw [found] at member
      exact goesOn _ _ member

theorem members_stays {read : State → String → Cursor → Outcome State}
    (reads : ∀ state name, ReadsWithin limit (read state name)) (fuel : Nat) (isFirst : Bool)
    (state : State) (bounded : cursor.lastLine ≤ limit) :
    StaysWithin limit Prod.snd (members read fuel isFirst state cursor) := by
  induction fuel generalizing isFirst state cursor with
  | zero => exact fail_stays bounded _
  | succ fuel inductionHypothesis =>
    have readMember (start : Cursor) (starts : start.lastLine ≤ limit) :=
      continuedMember_stays reads state (fun next _ => inductionHypothesis false next) starts
    have next := skipBlanks_bounded bounded
    unfold members
    dsimp only
    split
    · exact failNext_stays next _
    split
    · exact next
    split
    · split
      · exact readMember _ next
      · exact failNext_stays next _
    split
    · have start := skipBlanks_bounded (advance_bounded next)
      split
      · exact failNext_stays start _
      split
      · exact readMember _ start
      split
      · exact failNext_stays start _
      · exact failNext_stays start _
    · exact failNext_stays next _

/-- The end of a list or an object is within the lines up to some line, and so is what is wrong with
it. -/
def EndsWithin (limit : Nat) (ending : Cursor → Cursor × Option Failure) : Prop :=
  ∀ cursor : Cursor, cursor.lastLine ≤ limit →
    (ending cursor).1.lastLine ≤ limit ∧ ∀ failure ∈ (ending cursor).2, failure.Within limit

theorem endOfList_within : EndsWithin limit endOfList := by
  intro cursor bounded
  have next := skipBlanks_bounded bounded
  unfold endOfList
  dsimp only
  split
  · exact ⟨next, by rintro _ ⟨⟩; exact Nat.le_trans (line_le_lastLine _) next⟩
  split
  · exact ⟨advance_bounded next, by simp⟩
  split
  · have after := skipBlanks_bounded (advance_bounded next)
    exact ⟨after, by rintro _ ⟨⟩; exact Nat.le_trans (line_afterBytes_le _ 1) after⟩
  · exact ⟨next, by rintro _ ⟨⟩; exact Nat.le_trans (line_afterBytes_le _ 1) next⟩

theorem endOfObject_within : EndsWithin limit endOfObject := by
  intro cursor bounded
  have next := skipBlanks_bounded bounded
  unfold endOfObject
  dsimp only
  split
  · exact ⟨next, by rintro _ ⟨⟩; exact Nat.le_trans (line_le_lastLine _) next⟩
  split
  · exact ⟨advance_bounded next, by simp⟩
  split
  · exact ⟨next, by rintro _ ⟨⟩; exact Nat.le_trans (line_afterBytes_le _ 1) next⟩
  · exact ⟨next, by rintro _ ⟨⟩; exact Nat.le_trans (line_afterBytes_le _ 1) next⟩

theorem enclosed_stays {ending : Cursor → Cursor × Option Failure} {read : Cursor → Outcome α}
    (ends : EndsWithin limit ending) (reads : ReadsWithin limit read) :
    ReadsWithin limit (enclosed ending read) := by
  intro cursor bounded
  have inner := reads _ (advance_bounded bounded)
  unfold enclosed
  split
  · next value next found =>
    rw [found] at inner
    have ended := ends next inner
    split
    · next after ending_eq =>
      rw [ending_eq] at ended
      exact ended.1
    · next failure ending_eq =>
      rw [ending_eq] at ended
      exact ended.2 failure rfl
  · next cause stopped failed =>
    rw [failed] at inner
    exact Nat.le_trans (line_le_lastLine _) (ends stopped inner).1
  · next failed => rwa [failed] at inner

theorem list_stays {read : Cursor → Outcome Item} (reads : ReadsWithin limit read) :
    ReadsWithin limit (list read) :=
  enclosed_stays endOfList_within fun _ bounded => items_stays reads _ _ bounded

theorem sortedMember_stays {read : Cursor → Outcome Json} (reads : ReadsWithin limit read)
    (known : List (String × Json)) (name : String) :
    ReadsWithin limit (sortedMember read known name) := by
  intro cursor bounded
  refine (colon_stays bounded).bind fun afterColon colon => ?_
  exact (reads afterColon colon).bind fun _ after => after

theorem object_stays {read : Cursor → Outcome Json} (reads : ReadsWithin limit read) :
    ReadsWithin limit (object read) :=
  enclosed_stays endOfObject_within fun _ bounded =>
    members_stays (sortedMember_stays reads) _ _ _ bounded

/-! ## Values -/

theorem value_stays_of_inner {levels : Nat}
    (inner : ∀ fewer, levels = fewer + 1 → ReadsWithin limit (value fewer)) :
    ReadsWithin limit (value levels) := by
  intro cursor bounded
  have next := skipBlanks_bounded bounded
  unfold value
  dsimp only
  split
  · exact failNext_stays next _
  split
  · exact (word_stays _ next).bind fun _ after => after
  split
  · exact (word_stays _ next).bind fun _ after => after
  split
  · exact (word_stays _ next).bind fun _ after => after
  split
  · exact (signedNumeral_stays next).bind fun _ after => after
  split
  · exact (string_stays next).bind fun _ after => after
  split
  · cases levels with
    | zero => exact failNext_stays next _
    | succ fewer => exact (list_stays (inner fewer rfl) _ next).bind fun _ after => after
  split
  · cases levels with
    | zero => exact failNext_stays next _
    | succ fewer => exact (object_stays (inner fewer rfl) _ next).bind fun _ after => after
  · exact failNext_stays next _

theorem value_stays (levels : Nat) : ReadsWithin limit (value levels) := by
  induction levels with
  | zero => exact value_stays_of_inner fun _ isSuccessor => nomatch isSuccessor
  | succ levels inductionHypothesis =>
    refine value_stays_of_inner fun fewer isSuccessor => ?_
    obtain rfl := Nat.succ.inj isSuccessor
    exact inductionHypothesis

end Cursor

theorem Failure.within_of_readAll {α : Type} {read : Cursor → Outcome α} {text : String}
    (reads : Cursor.ReadsWithin (1 + text.toList.count '\n') read) {failure : Failure}
    (failed : readAll read text = .error failure) :
    failure.Within (1 + text.toList.count '\n') := by
  have stays := reads (.start text.toList) (Nat.le_of_eq (Cursor.lastLine_start _))
  unfold readAll at failed
  cases found : read (.start text.toList) with
  | error own =>
    rw [found] at stays failed
    obtain rfl := Except.error.inj failed
    exact stays
  | ok result =>
    obtain ⟨value, after⟩ := result
    rw [found] at stays failed
    have last := Cursor.skipBlanks_bounded stays
    simp only [bind, Except.bind] at failed
    split at failed
    · contradiction
    · obtain rfl := Except.error.inj failed
      exact Nat.le_trans (Cursor.line_afterBytes_le _ 1) last

theorem Failure.within_of_parse {text : String} {failure : Failure}
    (failed : parse text = .error failure) : failure.Within (1 + text.toList.count '\n') :=
  within_of_readAll (Cursor.value_stays maxLevels) failed

end Highlight.Json
