import Highlight.Proofs.Indentation
import Highlight.Proofs.Surface.Focus

/-!
The tab key in the frames of a surface. The frame takes all presses of it that come alone out of its
events, indents once if there was any, and leaves the other events as they were. So presses that
come in frames of their own add up, and presses that come in one frame do not.
-/

set_option autoImplicit false

namespace Highlight

/-- A text as a splice leaves it: with its value, and with the caret where the splice puts it. -/
structure Splice.IsLeft (splice : Splice) (value : String) (memory : SurfaceMemory) : Prop where
  value : value = splice.value
  caret : memory.caret = some (.collapsed splice.caret)

def InputEvent.tab : InputEvent :=
  .pressed (.plain .tab)

/-- Do keys go up in some events, and nothing else? -/
def OnlyReleases (events : List InputEvent) : Prop :=
  ∀ event ∈ events, ∃ press, event = .released press

namespace OnlyReleases

variable {events : List InputEvent}

theorem no_tab (released : OnlyReleases events) : ∀ event ∈ events, event.isPlain .tab = false := by
  intro event member
  obtain ⟨press, rfl⟩ := released event member
  rfl

theorem no_press (released : OnlyReleases events) : events.filterMap (·.press?) = [] := by
  refine List.filterMap_eq_nil_iff.mpr fun event member => ?_
  obtain ⟨press, rfl⟩ := released event member
  rfl

theorem stays (released : OnlyReleases events) : Focus.Stays events := by
  intro event member press isPress
  obtain ⟨press, rfl⟩ := released event member
  contradiction

end OnlyReleases

/-- What one step of indentation at the selection makes of a value. -/
def SurfaceMemory.indented (memory : SurfaceMemory) (value : String) : Splice :=
  insertIndent value (memory.selectionIn value)

/-! ## The events of a frame -/

namespace Draft

variable (draft : Draft) {events : List InputEvent}

theorem indent_of_any (tabs : events.any (·.isPlain .tab)) :
    let (after, others) := draft.indent events
    (draft.memory.indented draft.value).IsLeft after.value after.memory ∧ after.changed ∧
      others = events.filter (!·.isPlain .tab) := by
  rw [indent, if_pos tabs]
  exact ⟨⟨rfl, rfl⟩, rfl, rfl⟩

theorem indent_of_none (none : ∀ event ∈ events, event.isPlain .tab = false) :
    draft.indent events = (draft, events) := by
  have absent : events.any (·.isPlain .tab) = false := List.any_eq_false.mpr (by simpa using none)
  simp [indent, absent]

/-- The other events stay as they are, in their order. -/
theorem events_indent : (draft.indent events).2 = events.filter (!·.isPlain .tab) := by
  cases tabs : events.any (·.isPlain .tab) with
  | true => exact (draft.indent_of_any tabs).2.2
  | false =>
    have none : ∀ event ∈ events, event.isPlain .tab = false := by simpa using tabs
    rw [indent_of_none draft none, List.filter_eq_self.mpr (by simpa using none)]

end Draft

namespace TextField

theorem receiveAll_released (field : TextField) {events : List InputEvent}
    (released : OnlyReleases events) :
    field.receiveAll events = (field, false) := by
  induction events with
  | nil => rfl
  | cons event events inductionHypothesis =>
    obtain ⟨⟨press, rfl⟩, others⟩ := List.forall_mem_cons.mp released
    have same : field.receive (.released press) = (field, false) := rfl
    rw [receiveAll_cons, same, inductionHypothesis others]
    rfl

end TextField

namespace Draft

theorem receive_released (draft : Draft) (settings : SurfaceSettings) {events : List InputEvent}
    (released : OnlyReleases events) :
    draft.receive settings events =
      { draft with
        memory := { draft.memory with caret := some (draft.field settings).caret }
        isMoved := false } := by
  simp only [receive, TextField.receiveAll_released _ released]
  simp [field]

/-- The caret of a splice is in its text, so the text field leaves it where it is. -/
theorem caret_field_of_left {draft : Draft} {splice : Splice}
    (left : splice.IsLeft draft.value draft.memory) (fits : splice.caret ≤ splice.value.length)
    (settings : SurfaceSettings) : (draft.field settings).caret = .collapsed splice.caret := by
  simp [field, left.caret, left.value, CaretState.collapsed, CaretState.within,
    Selection.collapsed, Selection.within, fits]

end Draft

namespace TextFrame

variable (frame : TextFrame) (settings : SurfaceSettings)

theorem edited_of_releases (released : OnlyReleases frame.events) :
    (frame.edited settings).value = frame.draft.value ∧
      (frame.edited settings).changed = frame.draft.changed := by
  unfold edited
  split
  · rw [Draft.receive_released _ _ released]
    exact ⟨rfl, rfl⟩
  · exact ⟨rfl, rfl⟩

/-- A text that a splice has left stays so while keys only go up. -/
theorem left_edited {splice : Splice} (left : splice.IsLeft frame.draft.value frame.draft.memory)
    (fits : splice.caret ≤ splice.value.length) (released : OnlyReleases frame.events) :
    splice.IsLeft (frame.edited settings).value (frame.edited settings).memory := by
  unfold edited
  split
  · rw [Draft.receive_released _ _ released]
    exact ⟨left.value, congrArg some (Draft.caret_field_of_left left fits settings)⟩
  · exact left

end TextFrame

namespace Surface

variable (surface : Surface) (settings : SurfaceSettings) (window : Window)
  (events : List InputEvent)

/-- The value and the memory before anything is done in a frame. -/
def opening : Draft :=
  ⟨surface.value, surface.memory, false, false⟩

theorem takeTabs_of_editable (editable : settings.isReadOnly = false) :
    surface.takeTabs settings true events = surface.opening.indent events := by
  simp [takeTabs, editable, opening]

/-- Without a press of the tab key alone, and without the focus, nothing is done before the text
gets its events. -/
theorem takeTabs_of_none {hadFocus : Bool}
    (none : hadFocus = false ∨ ∀ event ∈ events, event.isPlain .tab = false) :
    surface.takeTabs settings hadFocus events = (surface.opening, events) := by
  rcases none with unfocused | others
  · simp [takeTabs, unfocused, opening]
  · have same : surface.opening.indent events = (surface.opening, events) :=
      surface.opening.indent_of_none others
    unfold takeTabs
    dsimp only
    split
    · exact same
    · rfl

theorem enterText_takes :
    let taken := surface.takeTabs settings (window.focus.isAt surface.target) events
    let entered := surface.enterText settings window events
    entered.draft.value = taken.1.value ∧ entered.draft.memory.caret = taken.1.memory.caret ∧
      entered.draft.changed = taken.1.changed ∧ entered.events = taken.2 :=
  ⟨rfl, rfl, rfl, rfl⟩

theorem frame_takes :
    let entered := surface.enterText settings window events
    let edited := entered.edited settings
    let (after, _, report) := surface.frame settings window events
    after.value = edited.value ∧ after.memory.caret = edited.memory.caret ∧
      report.change = (if edited.changed then some (.of edited.value) else none) ∧
      report.presses = (if entered.hadFocus then events.filterMap (·.press?) else []) ∧
      report.caret =
        (if entered.hasFocus then edited.memory.caret.map (·.selection.caret) else none) :=
  ⟨rfl, rfl, rfl, rfl, rfl⟩

end Surface

/-! ## The frames of a host -/

namespace SurfaceHost

section

variable (host : SurfaceHost)

theorem memory_withMemory (memory : SurfaceMemory) : (host.withMemory memory).memory = memory := by
  simp [SurfaceHost.memory, withMemory]

theorem caret_takePosition : host.takePosition.memory.caret = host.memory.caret := by
  unfold takePosition
  split
  · next position _ =>
    let memory := host.memory
    have moved := host.memory_withMemory { memory with area := memory.area.withOffset position }
    have sameCaret := congrArg SurfaceMemory.caret moved
    exact sameCaret
  · rfl

theorem caret_afterFrame (surface : Surface) (window : Window) (events : List InputEvent) :
    (host.afterFrame surface window events).memory.caret = surface.memory.caret := by
  rw [afterFrame, caret_takePosition]
  exact congrArg SurfaceMemory.caret (host.memory_withMemory surface.memory)

end

variable {host : SurfaceHost} {events : List InputEvent}

theorem frame_of_text (isText : host.cover = none) :
    host.frame events = host.textFrame events := by
  rw [frame, isText]

theorem frame_takes (isText : host.cover = none) (events : List InputEvent) :
    let entered := host.entered events
    let edited := entered.edited host.settings
    let (after, report) := host.frame events
    after.toHostFields = { host.toHostFields with value := edited.value } ∧
      after.memory.caret = edited.memory.caret ∧
      report.change = (if edited.changed then some (.of edited.value) else none) ∧
      report.presses = (if entered.hadFocus then events.filterMap (·.press?) else []) ∧
      report.caret =
        (if entered.hasFocus then edited.memory.caret.map (·.selection.caret) else none) := by
  obtain ⟨value, caret, change, presses, shownCaret⟩ :=
    host.surface.frame_takes host.settings (host.window.begin events) events
  rw [frame_of_text isText]
  refine ⟨?_, ?_, change, presses, shownCaret⟩
  · dsimp only [textFrame]
    rw [toHostFields_afterFrame, value]
    rfl
  · dsimp only [textFrame]
    rw [caret_afterFrame, caret]
    rfl

def indented (host : SurfaceHost) : Splice :=
  host.memory.indented host.value

theorem indented_fits (host : SurfaceHost) :
    host.indented.caret ≤ host.indented.value.length :=
  insertIndent_fits _ _

/-- Behind a splice the next step of indentation goes where its caret is. -/
theorem indented_of_left {splice : Splice} (left : splice.IsLeft host.value host.memory) :
    host.indented = splice.indent := by
  rw [indented, SurfaceMemory.indented, SurfaceMemory.selectionIn, left.caret, left.value]
  rfl

theorem text_of_editable (editable : ¬ host.IsLocked) :
    host.cover = none ∧ host.settings.isReadOnly = false := by
  simpa [HostFields.IsLocked, and_comm] using editable

/-- Without a press of the tab key alone a frame begins as it would without that key, and so does
one without the focus. -/
theorem entered_of_none
    (none : (host.entered events).hadFocus = false ∨
      ∀ event ∈ events, event.isPlain .tab = false) :
    let entered := host.entered events
    entered.draft.value = host.value ∧ entered.draft.memory.caret = host.memory.caret ∧
      entered.draft.changed = false ∧ entered.events = events := by
  have same : host.surface.takeTabs host.settings
      ((host.window.begin events).focus.isAt host.surface.target) events =
        (host.surface.opening, events) := host.surface.takeTabs_of_none _ _ none
  have takes := host.surface.enterText_takes host.settings (host.window.begin events) events
  rw [same] at takes
  exact takes

/-- Where the text has the focus and can be edited, one step of indentation is made if the tab key
was pressed alone, however often, and the other events are left. -/
theorem entered_of_focused (editable : ¬ host.IsLocked) (focused : (host.entered events).hadFocus) :
    let entered := host.entered events
    entered.events = events.filter (!·.isPlain .tab) ∧
      (events.any (·.isPlain .tab) →
        host.indented.IsLeft entered.draft.value entered.draft.memory ∧ entered.draft.changed) ∧
      (events.any (·.isPlain .tab) = false →
        entered.draft.value = host.value ∧ entered.draft.memory.caret = host.memory.caret ∧
          entered.draft.changed = false) := by
  obtain ⟨value, caret, changed, left⟩ :=
    host.surface.enterText_takes host.settings (host.window.begin events) events
  have hadFocus : (host.window.begin events).focus.isAt host.surface.target = true := focused
  rw [hadFocus] at value caret changed left
  have editableSettings := (text_of_editable editable).2
  refine ⟨?_, fun tabs => ?_, fun noTabs => ?_⟩
  · rw [host.surface.takeTabs_of_editable _ _ editableSettings] at left
    exact left.trans (Draft.events_indent _)
  · rw [host.surface.takeTabs_of_editable _ _ editableSettings] at value caret changed
    obtain ⟨indented, isChange, -⟩ := host.surface.opening.indent_of_any tabs
    exact ⟨⟨value.trans indented.value, caret.trans indented.caret⟩, changed.trans isChange⟩
  · have none : ∀ event ∈ events, event.isPlain .tab = false := by simpa using noTabs
    obtain ⟨sameValue, sameCaret, unchanged, -⟩ := entered_of_none (.inr none)
    exact ⟨sameValue, sameCaret, unchanged⟩

/-- A frame in which nothing happens to the text but the tab key. -/
theorem frame_indents (editable : ¬ host.IsLocked) (focused : (host.entered events).hadFocus)
    (tabs : events.any (·.isPlain .tab)) (others : OnlyReleases (events.filter (!·.isPlain .tab))) :
    let (after, report) := host.frame events
    host.indented.IsLeft after.value after.memory ∧
      report.change = some (.of host.indented.value) ∧
      report.presses = events.filterMap (·.press?) ∧
      ((host.entered events).hasFocus → report.caret = some host.indented.caret) := by
  obtain ⟨leftEvents, indents, -⟩ := entered_of_focused editable focused
  obtain ⟨left, isChange⟩ := indents tabs
  have released : OnlyReleases (host.entered events).events := leftEvents.symm ▸ others
  have edited := (host.entered events).left_edited host.settings left host.indented_fits released
  obtain ⟨-, changed⟩ := (host.entered events).edited_of_releases host.settings released
  obtain ⟨fields, caret, change, presses, shownCaret⟩ :=
    frame_takes (text_of_editable editable).1 events
  have value := congrArg HostFields.value fields
  refine ⟨⟨value.trans edited.value, caret.trans edited.caret⟩, ?_, ?_, fun hasFocus => ?_⟩
  · rw [change, changed, if_pos isChange, edited.value]
  · rw [presses, if_pos focused]
  · rw [shownCaret, if_pos hasFocus, edited.caret]
    rfl

/-- A frame in which keys only go up changes nothing, and there is nothing to report. -/
theorem frame_of_releases (isText : host.cover = none) (released : OnlyReleases events) :
    (host.frame events).1.value = host.value ∧ (host.frame events).2.change = none ∧
      (host.frame events).2.presses = [] := by
  obtain ⟨startValue, -, startChanged, others⟩ := entered_of_none (.inr released.no_tab)
  have onlyReleases : OnlyReleases (host.entered events).events := others.symm ▸ released
  obtain ⟨value, changed⟩ := (host.entered events).edited_of_releases host.settings onlyReleases
  obtain ⟨fields, -, change, presses, -⟩ := frame_takes isText events
  refine ⟨?_, ?_, ?_⟩
  · exact (congrArg HostFields.value fields).trans (value.trans startValue)
  · refine change.trans (if_neg ?_)
    exact ne_true_of_eq_false (changed.trans startChanged)
  · rw [released.no_press, ite_self] at presses
    exact presses

/-- A text that a splice has left stays so, and the caret is reported while it has the focus. -/
theorem frame_keeps_left {splice : Splice} (isText : host.cover = none)
    (left : splice.IsLeft host.value host.memory) (fits : splice.caret ≤ splice.value.length)
    (released : OnlyReleases events) :
    splice.IsLeft (host.frame events).1.value (host.frame events).1.memory ∧
      ((host.entered events).hasFocus → (host.frame events).2.caret = some splice.caret) := by
  obtain ⟨value, caret, -, others⟩ := entered_of_none (.inr released.no_tab)
  have onlyReleases : OnlyReleases (host.entered events).events := others.symm ▸ released
  have edited := (host.entered events).left_edited host.settings
    ⟨value.trans left.value, caret.trans left.caret⟩ fits onlyReleases
  obtain ⟨fields, caretAfter, -, -, shownCaret⟩ := frame_takes isText events
  refine ⟨⟨?_, caretAfter.trans edited.caret⟩, fun focused => ?_⟩
  · exact (congrArg HostFields.value fields).trans edited.value
  · refine shownCaret.trans ?_
    rw [if_pos focused, edited.caret]
    rfl

/-! ## Frames with the focus -/

/-- A text that can be edited and keeps the focus. -/
structure IsEditing (host : SurfaceHost) : Prop where
  editable : ¬ host.IsLocked
  kept : host.window.focus.IsKeptBy host.surface.target

theorem IsEditing.frame (editing : host.IsEditing) (stays : Focus.Stays events) :
    (host.frame events).1.IsEditing := by
  have isText := (text_of_editable editing.editable).1
  have fields : (host.frame events).1.toHostFields =
      { host.toHostFields with value := (host.frame events).1.value } :=
    (host.moment_follows events).fields
  have kept := kept_frame isText editing.kept stays
  constructor
  · rw [fields]
    exact editing.editable
  · have shown : (host.frame events).1.shown = host.shown := by rw [fields]
    rw [SurfaceHost.surface, Surface.target, shown]
    exact kept

theorem IsEditing.hadFocus (editing : host.IsEditing) (stays : Focus.Stays events) :
    (host.entered events).hadFocus := by
  have begun : (host.window.focus.begin events).IsKeptBy host.surface.target :=
    editing.kept.begin stays
  exact begun.isAt

theorem IsEditing.hasFocus (editing : host.IsEditing) (stays : Focus.Stays events) :
    (host.entered events).hasFocus :=
  (kept_entered editing.kept stays).isAt

theorem stays_replicate_tab (count : Nat) : Focus.Stays (List.replicate count .tab) := by
  intro event member press isPress
  obtain rfl := List.eq_of_mem_replicate member
  obtain rfl := Option.some.inj isPress
  exact Key.noConfusion

/-- However often the tab key is pressed in a frame, one step of indentation is made. -/
theorem frame_of_tabs (editable : ¬ host.IsLocked) (count : Nat)
    (focused : (host.entered (List.replicate (count + 1) .tab)).hadFocus) :
    let (after, report) := host.frame (List.replicate (count + 1) .tab)
    host.indented.IsLeft after.value after.memory ∧
      report.change = some (.of host.indented.value) ∧
      report.presses = List.replicate (count + 1) (.plain .tab) ∧
      ((host.entered (List.replicate (count + 1) .tab)).hasFocus →
        report.caret = some host.indented.caret) := by
  have presses : (List.replicate (count + 1) InputEvent.tab).filterMap (·.press?) =
      List.replicate (count + 1) (.plain .tab) := List.filterMap_replicate_of_some rfl
  rw [← presses]
  refine frame_indents editable focused (List.any_eq_true.mpr ⟨.tab, by simp, rfl⟩) ?_
  intro event member
  obtain ⟨listed, other⟩ := List.mem_filter.mp member
  obtain rfl := List.eq_of_mem_replicate listed
  exact absurd other (by decide)

/-- Presses of the tab key that come one in a frame, where a splice has left its caret. -/
theorem framesAfter_tabs (editing : host.IsEditing) {splice : Splice}
    (left : splice.IsLeft host.value host.memory) (report : StepReport) (count : Nat) :
    (host.framesAfter report (List.replicate count [.tab])).1.value =
      (Splice.indent^[count] splice).value := by
  induction count generalizing host report splice with
  | zero => exact left.value
  | succ count inductionHypothesis =>
    have stays : Focus.Stays [.tab] := stays_replicate_tab 1
    obtain ⟨indented, -⟩ := frame_of_tabs editing.editable 0 (editing.hadFocus stays)
    rw [indented_of_left left] at indented
    rw [List.replicate_succ, Function.iterate_succ_apply]
    exact inductionHypothesis (editing.frame stays) indented _

/-- Between two steps of a run it is settled who has the focus when the next frame begins, and a
text that keeps the keys for itself keeps the focus. -/
theorem focus_of_seen {fields : HostFields} {steps : List HostStep}
    (seen : host.window = (ran fields steps).1.window) :
    (∀ events, Focus.Stays events →
        (host.entered events).hadFocus = host.window.focus.isAt host.surface.target) ∧
      (host.window.focus.holder = some ⟨host.surface.target, true⟩ →
        host.window.focus.IsKeptBy host.surface.target) := by
  have tidy : host.window.focus.IsTidy := seen ▸ tidy_ran fields steps
  have still : host.window.focus.IsStill := seen ▸ still_ran fields steps
  exact ⟨fun events stays => Focus.isAt_begin still.next stays, tidy.kept still⟩

end SurfaceHost

/-- In a frame that begins with the focus on a text that can be edited, the presses of the tab key
alone are taken out of the events, the others stay in their order, and one step of indentation is
made if there was any such press, before the text gets the other events. So any number of presses
in one frame do what one press does. As long as the text keeps the focus, presses that come one in
a frame make one step each. Between two steps of a run, a text that has the focus has it when the
next frame begins, and keeps it when it has had it for a while. -/
theorem tabs_of_a_frame_indent_once (host : SurfaceHost) (editable : ¬ host.IsLocked) :
    (∀ events : List InputEvent, (host.entered events).hadFocus →
        let entered := host.entered events
        entered.events = events.filter (!·.isPlain .tab) ∧
          if events.any (·.isPlain .tab) then
            host.indented.IsLeft entered.draft.value entered.draft.memory
          else
            entered.draft.value = host.value ∧ entered.draft.memory.caret = host.memory.caret) ∧
      (∀ count : Nat, (host.entered (List.replicate (count + 1) .tab)).hadFocus →
        (host.frame (List.replicate (count + 1) .tab)).1.value = host.indented.value) ∧
      (host.window.focus.IsKeptBy host.surface.target →
        ∀ (report : StepReport) (count : Nat),
          let last := (host.framesAfter report (List.replicate (count + 1) [.tab])).1
          last.value = (Splice.indent^[count] host.indented).value ∧
            last.value.length = host.indented.value.length + 2 * count) ∧
      (∀ (fields : HostFields) (steps : List HostStep),
        host.window = (SurfaceHost.ran fields steps).1.window →
          (∀ events, Focus.Stays events →
              (host.entered events).hadFocus = host.window.focus.isAt host.surface.target) ∧
            (host.window.focus.holder = some ⟨host.surface.target, true⟩ →
              host.window.focus.IsKeptBy host.surface.target)) := by
  refine ⟨fun events focused => ?_, fun count focused => ?_, fun kept report count => ?_,
    fun fields steps seen => SurfaceHost.focus_of_seen seen⟩
  · obtain ⟨others, indents, stays⟩ := SurfaceHost.entered_of_focused editable focused
    refine ⟨others, ?_⟩
    split
    · next tabs => exact (indents tabs).1
    · next noTabs =>
      obtain ⟨value, caret, -⟩ := stays (eq_false_of_ne_true noTabs)
      exact ⟨value, caret⟩
  · exact (SurfaceHost.frame_of_tabs editable count focused).1.value
  · have editing : host.IsEditing := ⟨editable, kept⟩
    have stays : Focus.Stays [.tab] := SurfaceHost.stays_replicate_tab 1
    obtain ⟨first, -⟩ := SurfaceHost.frame_of_tabs editable 0 (editing.hadFocus stays)
    have value : (host.framesAfter report (List.replicate (count + 1) [.tab])).1.value =
        (Splice.indent^[count] host.indented).value :=
      SurfaceHost.framesAfter_tabs (editing.frame stays) first _ count
    refine ⟨value, ?_⟩
    rw [value]
    exact length_iterate_indent _ _ count

/-- Three presses, in one frame and in three. -/
theorem three_tabs_of_a_frame :
    let fields := HostFields.standard ⟨.ofNat 8, .ofNat 8, ⟨.ofNat 1008, .ofNat 752⟩⟩
    let steps := [HostStep.receive (.typed "ab")]
    let host := (SurfaceHost.ran fields steps).1
    (host.frame (List.replicate 3 .tab)).1.value = "ab  " ∧
      ∀ report, (host.framesAfter report (List.replicate 3 [.tab])).1.value = "ab      " := by
  intro fields steps host
  have editable : ¬ host.IsLocked := by
    unfold HostFields.IsLocked
    decide +kernel
  have held : host.window.focus.holder = some ⟨host.surface.target, true⟩ := by decide +kernel
  have focused : (host.entered (List.replicate 3 .tab)).hadFocus := by decide +kernel
  have indented : host.indented = ⟨"ab  ", 4⟩ := by decide +kernel
  obtain ⟨-, once, each, seen⟩ := tabs_of_a_frame_indent_once host editable
  have kept := (seen fields steps rfl).2 held
  constructor
  · rw [once 2 focused, indented]
  · intro report
    rw [(each kept report 2).1, indented]
    decide

/-- Of two presses in one frame one is lost, where two frames make two steps of indentation. A text
that has got the focus only in the last frame does not keep it: on a page on which not everything
fits, the first press moves the focus on, and the second one is lost. -/
theorem tabs_lost_by_a_focused_text :
    let room : Room := ⟨.ofNat 8, .ofNat 8, ⟨.ofNat 1008, .ofNat 752⟩⟩
    let fields := HostFields.standard room
    let host := (SurfaceHost.ran fields []).1
    let low := { fields with
      value := "\n\n\n\n\n\n\n\n"
      settings := { fields.settings with heights := .of (.ofNat 60) (.ofNat 60) } }
    let fresh := (SurfaceHost.ran low [.blur]).1
    (host.window.focus.isAt host.surface.target ∧
        (host.frame [.tab, .tab]).1.value = "  " ∧
        ((host.frame [.tab]).1.frame [.tab]).1.value = "    ") ∧
      (fresh.window.focus.isAt fresh.surface.target ∧
        ((fresh.step (.receive .tab)).1.step (.receive .tab)).1.value =
          "\n\n\n\n\n\n\n\n  ") := by
  decide +kernel

end Highlight
