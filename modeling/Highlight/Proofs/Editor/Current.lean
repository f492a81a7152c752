import Highlight.Proofs.JoinedLines
import Highlight.Proofs.Json.Places
import Highlight.Proofs.Surface.Change
import Highlight.Editor.Frame

/-!
What an editor knows of its value. Whatever is done with the editor, it knows how many lines the
value has now and whether it is JSON now, unless the value is replaced behind the back of the text.
So a line that is flagged is one of the value, and an outline is one of the value.
-/

set_option autoImplicit false

namespace Highlight

/-! ## Validations -/

namespace Validation

variable {language : Language} {value : String}

theorem of_unlooked (unlooked : language ≠ .json ∨ isBlankText value) :
    Validation.of language value = .unchecked := by
  unfold Validation.of
  rw [if_pos]
  simpa using unlooked

theorem of_json (visible : isBlankText value = false) :
    Validation.of .json value =
      match Json.parse value with
      | .ok json => .valid json
      | .error failure => .invalid failure := by
  have looked : ¬(Language.json != Language.json || isBlankText value) := by simp [visible]
  exact if_neg looked

theorem parse_of_json? {json : Json} (known : (Validation.of language value).json? = some json) :
    Json.parse value = .ok json := by
  unfold Validation.of at known
  split at known
  · contradiction
  · cases parsed : Json.parse value with
    | ok own =>
      rw [parsed] at known
      exact congrArg Except.ok (Option.some.inj known)
    | error failure =>
      rw [parsed] at known
      contradiction

theorem lineOf_le {failure : Json.Failure} (failed : Json.parse value = .error failure) :
    lineOf failure ≤ (lines value).length := by
  have within := Json.Failure.within_of_parse failed
  rw [length_lines, Nat.add_comm]
  cases failure with
  | placed cause mark => exact Nat.max_le.mpr ⟨within, Nat.le_add_right 1 _⟩
  | unplaced cause stopped => exact Nat.le_add_right 1 _

theorem one_le_lineOf (failure : Json.Failure) : 1 ≤ lineOf failure := by
  cases failure with
  | placed cause mark => exact Nat.le_max_right ..
  | unplaced cause stopped => exact Nat.le_refl 1

end Validation

theorem FlaggedLines.rows_insert_empty {line lineCount : Nat} (positive : 1 ≤ line)
    (within : line ≤ lineCount) :
    (FlaggedLines.empty.insert line).rows lineCount = [line - 1] := by
  have visible : line ≠ 0 ∧ line - 1 < lineCount := by omega
  simp [rows, insert, empty, insertAscending, visible]

/-! ## Editors -/

/-- Texts of an outline of a value, from some place and with some groups opened. -/
def OutlineOf (value : String) (texts : List ColoredText) : Prop :=
  ∃ json look window openness, Json.parse value = .ok json ∧
    texts = ((OutlineVisit.start look window openness).rows look (openness.rows json)).texts

namespace Editor

/-- What the editor knows of its value holds of the value as it is now. -/
structure IsCurrent (editor : Editor) : Prop where
  lineCount : editor.lineCount = (lines editor.value).length
  validation : editor.validation = .of editor.language editor.value

theorem isCurrent_ofConfig (config : Config) (startup : Startup) :
    (ofConfig config startup).IsCurrent :=
  ⟨rfl, rfl⟩

namespace IsCurrent

variable {editor : Editor} (isCurrent : editor.IsCurrent)

include isCurrent

theorem revalidate : editor.revalidate.IsCurrent :=
  ⟨isCurrent.lineCount, rfl⟩

theorem setLanguage (language : Language) : (editor.setLanguage language).IsCurrent := by
  unfold Editor.setLanguage
  split
  · exact isCurrent
  · exact ⟨isCurrent.lineCount, rfl⟩

theorem setMode (mode : ThemeMode) : (editor.setMode mode).IsCurrent :=
  ⟨isCurrent.lineCount, isCurrent.validation⟩

theorem setSwitch (isOn : Bool) (switch : Switch) : (editor.setSwitch isOn switch).IsCurrent := by
  cases switch <;> exact ⟨isCurrent.lineCount, isCurrent.validation⟩

theorem select (selection : Selection) : (editor.select selection).IsCurrent :=
  ⟨isCurrent.lineCount, isCurrent.validation⟩

theorem withWindow (window : Window) : { editor with window := window }.IsCurrent :=
  ⟨isCurrent.lineCount, isCurrent.validation⟩

theorem withOpenMenu (openMenu : Option OpenMenu) :
    { editor with openMenu := openMenu }.IsCurrent :=
  ⟨isCurrent.lineCount, isCurrent.validation⟩

theorem meet (target : Target) (place : Rect) (isEnabled : Bool) (events : List InputEvent) :
    (editor.meet target place isEnabled events).1.IsCurrent :=
  isCurrent.withWindow _

/-! ### The toolbar -/

theorem choose (menu : Menu) (index : Nat) : (editor.choose menu index).IsCurrent := by
  unfold Editor.choose
  split
  · split
    · exact isCurrent.setLanguage _
    · exact isCurrent
  · split
    · exact isCurrent.setMode _
    · exact isCurrent

theorem meetBox (events : List InputEvent) (switch : Switch) :
    (editor.meetBox events switch).IsCurrent := by
  unfold Editor.meetBox
  dsimp only
  split
  · exact (isCurrent.meet ..).setSwitch _ _
  · exact isCurrent.meet ..

theorem meetItem (menu : Menu) (place : Rect) (events : List InputEvent) (index : Nat) :
    (editor.meetItem menu place events index).IsCurrent := by
  unfold Editor.meetItem
  dsimp only
  split
  · exact (isCurrent.meet ..).choose _ _
  · exact isCurrent.meet ..

theorem meetItems (menu : Menu) (place : Rect) (frames : Nat) (events : List InputEvent) :
    (editor.meetItems menu place frames events).IsCurrent := by
  have met {start : Editor} (startCurrent : start.IsCurrent) (count : Nat) :
      ((List.range count).foldl (fun editor => Editor.meetItem editor menu place events)
        start).IsCurrent :=
    List.foldlRecOn _ _ startCurrent fun _ current index _ =>
      current.meetItem menu place events index
  unfold Editor.meetItems
  dsimp only
  split
  · refine (met ?_ _).meet ..
    split
    · exact isCurrent.meet ..
    · exact isCurrent
  · refine met ?_ _
    split
    · exact isCurrent.meet ..
    · exact isCurrent

theorem toggleMenu (menu : Menu) : (editor.toggleMenu menu).IsCurrent := by
  unfold Editor.toggleMenu
  split
  · exact isCurrent.withOpenMenu _
  · exact ⟨isCurrent.lineCount, isCurrent.validation⟩

theorem meetMenu (events : List InputEvent) (menu : Menu) :
    (editor.meetMenu events menu).IsCurrent := by
  unfold Editor.meetMenu
  have met := isCurrent.meet (.menu menu) (Toolbar.menuPlace editor menu) true events
  dsimp only
  generalize editor.meet (.menu menu) (Toolbar.menuPlace editor menu) true events = visit at met ⊢
  have toggled : (if visit.2 then visit.1.toggleMenu menu else visit.1).IsCurrent := by
    split
    · exact met.toggleMenu menu
    · exact met
  generalize (if visit.2 then visit.1.toggleMenu menu else visit.1) = next at toggled ⊢
  split
  · exact toggled
  split
  · exact toggled
  · next opened _ _ =>
    have shown : (if opened.frames = 0 then next else next.meetItems menu
        (Toolbar.menuPlace editor menu) opened.frames events).IsCurrent := by
      split
      · exact toggled
      · exact toggled.meetItems ..
    split
    · exact shown.withOpenMenu _
    · exact shown.withOpenMenu _

theorem meetToolbar (events : List InputEvent) : (editor.meetToolbar events).IsCurrent := by
  have boxes : (Switch.all.foldl (Editor.meetBox · events)
      (editor.meetMenu events .language)).IsCurrent :=
    List.foldlRecOn _ _ (isCurrent.meetMenu events .language) fun _ current switch _ =>
      current.meetBox events switch
  exact boxes.meetMenu events .theme

/-! ### The text -/

theorem parse_of_outlined {json : Json} (outlined : editor.outlined? = some json) :
    Json.parse editor.value = .ok json := by
  unfold outlined? at outlined
  split at outlined
  · rw [isCurrent.validation] at outlined
    exact Validation.parse_of_json? outlined
  · contradiction

theorem afterSurface {surface : Surface} {report : FrameReport}
    (told : ∀ change ∈ report.change, change = .of surface.value)
    (kept : report.change = none → surface.value = editor.value) :
    (editor.afterSurface surface report).IsCurrent := by
  unfold Editor.afterSurface
  cases reported : report.change with
  | some change =>
    obtain rfl := told change reported
    exact ⟨rfl, rfl⟩
  | none =>
    rw [kept reported]
    exact ⟨isCurrent.lineCount, isCurrent.validation⟩

theorem showText (events : List InputEvent) : (editor.showText events).1.IsCurrent := by
  have change := editor.surface.change_frame editor.settings editor.window events
  have kept := editor.surface.value_frame_of_unchanged editor.settings editor.window events
  unfold Editor.showText
  rcases shown : editor.surface.frame editor.settings editor.window events with
    ⟨surface, window, report⟩
  rw [shown] at change kept
  dsimp only at change kept
  refine (isCurrent.withWindow window).afterSurface ?_ ?_
  · intro own reported
    rw [change] at reported
    split at reported
    · exact (Option.some.inj reported).symm
    · contradiction
  · intro silent
    rw [change] at silent
    split at silent
    · contradiction
    · next unchanged => exact kept (eq_false_of_ne_true unchanged)

/-- An outline is shown only of the value as it is, which it leaves as it is. -/
theorem showSurface (events : List InputEvent) :
    (editor.showSurface events).1.IsCurrent ∧
      ∀ texts ∈ (editor.showSurface events).2.2,
        OutlineOf (editor.showSurface events).1.value texts := by
  unfold Editor.showSurface
  split
  · next json outlined =>
    -- An outline comes from the validation, not from the text.
    have parsed : Json.parse editor.value = .ok json := isCurrent.parse_of_outlined outlined
    refine ⟨⟨isCurrent.lineCount, isCurrent.validation⟩, ?_⟩
    rintro texts ⟨⟩
    exact ⟨json, _, _, editor.openness, parsed, rfl⟩
  · refine ⟨isCurrent.showText events, ?_⟩
    rintro texts ⟨⟩

end IsCurrent

/-! ## Frames and steps -/

/-- An editor that is current, and an outline of its value if it has painted one. -/
structure Shows (state : Editor × EditorPainting) : Prop where
  isCurrent : state.1.IsCurrent
  outline : ∀ texts ∈ state.2.outline, OutlineOf state.1.value texts

namespace Shows

variable {editor : Editor} {painting : EditorPainting}

theorem frame (isCurrent : editor.IsCurrent) (events : List InputEvent) :
    Shows (editor.frame events) := by
  have met := (isCurrent.withWindow (editor.window.begin events)).meetToolbar events
  obtain ⟨shown, outline⟩ := met.showSurface events
  exact ⟨shown.withWindow _, outline⟩

theorem framesAfter (shows : Shows (editor, painting)) (others : List (List InputEvent)) :
    Shows (editor.framesAfter painting others) := by
  induction others generalizing editor painting with
  | nil => exact shows
  | cons events others inductionHypothesis =>
    exact inductionHypothesis (frame shows.isCurrent events)

theorem settleAfter (shows : Shows (editor, painting)) (fuel : Nat) :
    Shows (editor.settleAfter painting fuel) := by
  induction fuel generalizing editor painting with
  | zero => exact shows
  | succ fuel inductionHypothesis =>
    unfold Editor.settleAfter
    split
    · exact inductionHypothesis (frame shows.isCurrent [])
    · exact shows

theorem runFrames (isCurrent : editor.IsCurrent) (events : List InputEvent)
    (others : List (List InputEvent)) : Shows (editor.runFrames events others) :=
  ((frame isCurrent events).framesAfter others).settleAfter _

theorem rest (isCurrent : editor.IsCurrent) : Shows editor.rest :=
  runFrames isCurrent [] []

theorem receive (isCurrent : editor.IsCurrent) (event : InputEvent) :
    Shows (editor.receive event) := by
  unfold Editor.receive
  split
  · exact runFrames isCurrent _ _
  · exact rest isCurrent

theorem click (isCurrent : editor.IsCurrent) (label : String) : Shows (editor.click label) := by
  unfold Editor.click
  split
  · exact receive isCurrent _
  · exact rest isCurrent

theorem openedMenu (isCurrent : editor.IsCurrent) (menu : Menu) :
    (editor.openedMenu menu).IsCurrent := by
  unfold Editor.openedMenu
  split
  · exact isCurrent
  · exact (receive isCurrent _).isCurrent

theorem pick (isCurrent : editor.IsCurrent) (menu : Menu) (item : String) :
    Shows (editor.pick menu item) := by
  have opened := openedMenu isCurrent menu
  unfold Editor.pick
  dsimp only
  split
  · exact receive (receive opened _).isCurrent _
  · exact receive opened _

/-- Every step ends with a frame that shows the value as it is then, apart from one that replaces
the value. -/
theorem step (isCurrent : editor.IsCurrent) {step : EditorStep}
    (keeps : ∀ value, step ≠ .setValue value) : Shows (editor.step step) := by
  cases step with
  | receive event => exact receive isCurrent event
  | select selection => exact rest (isCurrent.select selection)
  | rest => exact rest isCurrent
  | setLanguage language => exact rest (isCurrent.setLanguage language)
  | setValue value => exact absurd rfl (keeps value)
  | revalidate => exact rest isCurrent.revalidate
  | setMode mode => exact rest (isCurrent.setMode mode)
  | switch switch isOn => exact rest (isCurrent.setSwitch isOn switch)
  | click label => exact click isCurrent label
  | choose menu item => exact pick isCurrent menu item

end Shows

theorem IsCurrent.run {editor : Editor} (isCurrent : editor.IsCurrent) {steps : List EditorStep}
    (keeps : ∀ value, .setValue value ∉ steps) : (editor.run steps).IsCurrent := by
  refine List.foldlRecOn steps _ isCurrent fun editor current step member => ?_
  exact (Shows.step current fun value same => keeps value (same ▸ member)).isCurrent

end Editor

/-- Whatever is done with an editor, as long as its value is not replaced behind the back of the
text, it knows the number of lines of the value, and what it knows besides is what reading the value
as JSON leads to: nothing in other languages and where nothing is to be seen; otherwise either the
JSON itself, or a message and one flagged line, which the text has. Where an outline is shown, it is
one of the value. -/
theorem editor_knows_its_value (config : Config) (startup : Startup) {steps : List EditorStep}
    (keeps : ∀ value, .setValue value ∉ steps) :
    let editor := (Editor.start config startup).run steps
    let known := editor.validation
    editor.lineCount = (lines editor.value).length ∧
      (editor.language ≠ .json ∨ isBlankText editor.value →
        known.flagged.toList = [] ∧ known.message? = none ∧ known.json? = none) ∧
      (editor.language = .json → isBlankText editor.value = false →
        (∃ json, Json.parse editor.value = .ok json ∧ known.flagged.toList = [] ∧
          known.message? = none ∧ known.json? = some json) ∨
        ∃ failure, Json.parse editor.value = .error failure ∧
          known.message? = some ("Invalid JSON: " ++ failure.message) ∧ known.json? = none ∧
          let line := Validation.lineOf failure
          known.flagged.toList = [line] ∧ 1 ≤ line ∧ line ≤ editor.lineCount ∧
            known.flagged.rows editor.lineCount = [line - 1]) ∧
      (∀ json ∈ editor.outlined?, Json.parse editor.value = .ok json) ∧
      ∀ step, (∀ value, step ≠ .setValue value) →
        ∀ texts ∈ (editor.step step).2.outline, OutlineOf (editor.step step).1.value texts := by
  intro editor known
  have current : editor.IsCurrent :=
    ((Editor.isCurrent_ofConfig config startup).setMode _).run keeps
  have looked : known = .of editor.language editor.value := current.validation
  refine ⟨current.lineCount, ?_, ?_, fun json => current.parse_of_outlined, ?_⟩
  · intro unlooked
    rw [looked, Validation.of_unlooked unlooked]
    exact ⟨rfl, rfl, rfl⟩
  · intro isJson visible
    rw [looked, isJson, Validation.of_json visible]
    cases parsed : Json.parse editor.value with
    | ok json => exact .inl ⟨json, rfl, rfl, rfl, rfl⟩
    | error failure =>
      have positive := Validation.one_le_lineOf failure
      have within : Validation.lineOf failure ≤ editor.lineCount :=
        current.lineCount ▸ Validation.lineOf_le parsed
      have rows := FlaggedLines.rows_insert_empty positive within
      exact .inr ⟨failure, rfl, rfl, rfl, rfl, positive, within, rows⟩
  · intro step keepsStep
    exact (Editor.Shows.step current keepsStep).outline

/-- A list that is left open is flagged where the text ends. -/
theorem editor_flags_open_list :
    let steps : List EditorStep := [.setLanguage .json, .receive (.typed "[\n1")]
    let editor := (Editor.start .standard ⟨none, "", false, false, false⟩).run steps
    (∀ value, .setValue value ∉ steps) ∧ editor.value = "[\n1" ∧
      ∃ failure, Json.parse editor.value = .error failure ∧
        editor.validation.flagged.toList = [Validation.lineOf failure] ∧
        Validation.lineOf failure ≤ editor.lineCount ∧ Validation.lineOf failure = 2 := by
  intro steps editor
  have keeps : ∀ value, .setValue value ∉ steps := by simp [steps]
  obtain ⟨value, language, flagged⟩ : editor.value = "[\n1" ∧ editor.language = .json ∧
      editor.validation.flagged.toList = [2] := by decide +kernel
  have visible : isBlankText editor.value = false := by rw [value]; decide
  obtain ⟨-, -, known, -⟩ := editor_knows_its_value .standard _ keeps
  rcases known language visible with
    ⟨json, -, unflagged, -⟩ | ⟨failure, failed, -, -, own, -, within, -⟩
  · exact absurd (flagged.symm.trans unflagged) (by simp)
  · exact ⟨keeps, value, failure, failed, own, within, (List.cons.inj (own.symm.trans flagged)).1⟩

end Highlight
