import Highlight.Proofs.Surface.Tabs

/-!
A press of the tab key, from the frame in which the key goes down to the last one that is due. The
key indents a text that has the focus when that frame begins, and the frames that follow change
nothing. With a modifier key held down it does not indent.
-/

set_option autoImplicit false

namespace Highlight

/-! ## Modifier keys -/

theorem Modifiers.areNone_iff (modifiers : Modifiers) :
    modifiers.areNone ↔ modifiers = none := by
  constructor
  · intro areNone
    obtain ⟨alt, control, shift, macCommand, command, isCommand⟩ := modifiers
    simp only [Modifiers.areNone, Bool.and_eq_true, Bool.not_eq_true'] at areNone
    obtain ⟨⟨⟨rfl, rfl⟩, rfl⟩, rfl⟩ := areNone
    obtain rfl : macCommand = false :=
      eq_false_of_ne_true fun held => Bool.noConfusion (isCommand held)
    rfl
  · rintro rfl
    rfl

/-- Is a modifier key held down with every press of the tab key? -/
def TabsAreModified (events : List InputEvent) : Prop :=
  ∀ press : Press, .pressed press ∈ events → press.key = .tab → press.modifiers ≠ .none

theorem TabsAreModified.no_tab {events : List InputEvent} (modified : TabsAreModified events) :
    ∀ event ∈ events, event.isPlain .tab = false := by
  intro event member
  cases event with
  | pressed press =>
    refine eq_false_of_ne_true fun isPlain => ?_
    obtain ⟨isTab, areNone⟩ : press.key = .tab ∧ press.modifiers.areNone := by
      simpa [InputEvent.isPlain, InputEvent.press?] using isPlain
    exact modified press member isTab (press.modifiers.areNone_iff.mp areNone)
  | typed _ | pasted _ | released _ | clicked _ => rfl

/-! ## The frames of a press -/

namespace SurfaceHost

variable {host : SurfaceHost} {report : StepReport}

/-- What holds after the frame in which the tab key goes down, and is kept by frames in which keys
only go up, holds when the step is over. -/
theorem receive_tab_keeps (Holds : SurfaceHost → StepReport → Prop)
    (frame : ∀ {host : SurfaceHost} {report : StepReport} {events : List InputEvent},
      OnlyReleases events → Holds host report →
        Holds (host.frame events).1 (report.andThen (.of (host.frame events).2)))
    (first : Holds (host.frame [.tab]).1 (.of (host.frame [.tab]).2)) :
    Holds (host.receive .tab).1 (host.receive .tab).2 := by
  have released : OnlyReleases [.released (.plain .tab)] := by simp [OnlyReleases]
  have quiet : OnlyReleases [] := by simp [OnlyReleases]
  exact settleAfter_keeps Holds (fun holds => frame quiet holds) (frame released first) _

theorem isText_frame (isText : host.cover = none) (events : List InputEvent) :
    (host.frame events).1.cover = none :=
  (congrArg HostFields.cover (host.moment_follows events).fields).trans isText

/-- A text that has been indented once, and what has been reported of it. -/
structure Indented (splice : Splice) (isKept : Prop) (host : SurfaceHost) (report : StepReport) :
    Prop where
  isText : host.cover = none
  left : splice.IsLeft host.value host.memory
  changes : report.changes = [.of splice.value]
  presses : report.presses = [.plain .tab]
  kept : isKept → host.IsEditing ∧ report.last.caret = some splice.caret

theorem Indented.frame {splice : Splice} {isKept : Prop} {events : List InputEvent}
    (fits : splice.caret ≤ splice.value.length) (released : OnlyReleases events)
    (indented : Indented splice isKept host report) :
    Indented splice isKept (host.frame events).1 (report.andThen (.of (host.frame events).2)) := by
  obtain ⟨left, caret⟩ := frame_keeps_left indented.isText indented.left fits released
  obtain ⟨-, noChange, noPresses⟩ := frame_of_releases indented.isText released
  refine ⟨isText_frame indented.isText events, left, ?_, ?_, fun isKept => ?_⟩
  · simp [StepReport.andThen, StepReport.of, indented.changes, noChange]
  · simp [StepReport.andThen, StepReport.of, indented.presses, noPresses]
  · obtain ⟨editing, -⟩ := indented.kept isKept
    exact ⟨editing.frame released.stays, caret (editing.hasFocus released.stays)⟩

theorem indented_of_press (editable : ¬ host.IsLocked) (focused : (host.entered [.tab]).hadFocus) :
    Indented host.indented host.IsEditing (host.frame [.tab]).1 (.of (host.frame [.tab]).2) := by
  obtain ⟨left, change, presses, caret⟩ := frame_of_tabs editable 0 focused
  have stays : Focus.Stays [.tab] := stays_replicate_tab 1
  refine ⟨isText_frame (text_of_editable editable).1 _, left, ?_, presses, fun editing => ?_⟩
  · exact congrArg Option.toList change
  · exact ⟨editing.frame stays, caret (editing.hasFocus stays)⟩

/-- A text that does not get the focus, or gets it too late, and what has been reported of it. -/
structure Passed (value : String) (isUntouched : Prop) (host : SurfaceHost) (report : StepReport) :
    Prop where
  isText : host.cover = none
  presses : report.presses = []
  untouched : isUntouched → host.value = value ∧ report.changes = []

theorem Passed.frame {value : String} {isUntouched : Prop} {events : List InputEvent}
    (released : OnlyReleases events) (passed : Passed value isUntouched host report) :
    Passed value isUntouched (host.frame events).1
      (report.andThen (.of (host.frame events).2)) := by
  obtain ⟨same, noChange, noPresses⟩ := frame_of_releases passed.isText released
  refine ⟨isText_frame passed.isText events, ?_, fun isUntouched => ?_⟩
  · simp [StepReport.andThen, StepReport.of, passed.presses, noPresses]
  · obtain ⟨unchanged, noChanges⟩ := passed.untouched isUntouched
    refine ⟨same.trans unchanged, ?_⟩
    simp [StepReport.andThen, StepReport.of, noChanges, noChange]

theorem passed_of_press (isText : host.cover = none)
    (unfocused : (host.entered [.tab]).hadFocus = false) :
    Passed host.value ((host.entered [.tab]).hasFocus = false) (host.frame [.tab]).1
      (.of (host.frame [.tab]).2) := by
  obtain ⟨value, -, unchanged, -⟩ := entered_of_none (.inl unfocused)
  obtain ⟨fields, -, change, presses, -⟩ := frame_takes isText [.tab]
  refine ⟨isText_frame isText _, ?_, fun noFocus => ⟨?_, ?_⟩⟩
  · refine presses.trans (if_neg ?_)
    exact ne_true_of_eq_false unfocused
  · refine (congrArg HostFields.value fields).trans ?_
    simpa [TextFrame.edited, noFocus] using value
  · refine (congrArg Option.toList change).trans ?_
    simp [TextFrame.edited, noFocus, unchanged]

end SurfaceHost

/-- When the tab key is pressed alone on a text that has the focus and can be edited, whatever its
value is and whatever is selected in it, the text becomes what one step of indentation at the
selection makes of it, with the caret behind the step. Listeners are told of that value once, and
of the key once; and a text that keeps the focus shows its caret there when the step is over. In a
frame in which a modifier key is held down with every press of the tab key, and in one that begins
without the focus, nothing is done before the text gets its events, and it gets all of them; and
without the focus nobody is told of the key, and nothing changes as long as the text does not get
the focus in that frame. Between two steps of a run, a text that has the focus has it when the next
frame begins, and keeps it when it has had it for a while. -/
theorem tab_press_indents (host : SurfaceHost) (editable : ¬ host.IsLocked) :
    ((host.entered [.tab]).hadFocus →
        let after := (host.receive .tab).1
        let report := (host.receive .tab).2
        after.value = host.indented.value ∧
          after.memory.caret = some (.collapsed host.indented.caret) ∧
          report.changes = [.of host.indented.value] ∧
          report.presses = [.plain .tab] ∧
          (host.window.focus.IsKeptBy host.surface.target →
            report.last.caret = some host.indented.caret)) ∧
      (∀ events : List InputEvent, TabsAreModified events →
        (∀ draft : Draft, draft.indent events = (draft, events)) ∧
          let entered := host.entered events
          entered.draft.value = host.value ∧ entered.draft.memory.caret = host.memory.caret ∧
            entered.draft.changed = false ∧ entered.events = events) ∧
      (∀ events : List InputEvent,
        (host.entered events).hadFocus = false ∨ (∀ event ∈ events, event.isPlain .tab = false) →
          let entered := host.entered events
          entered.draft.value = host.value ∧ entered.draft.memory.caret = host.memory.caret ∧
            entered.draft.changed = false ∧ entered.events = events) ∧
      ((host.entered [.tab]).hadFocus = false →
        (host.receive .tab).2.presses = [] ∧
          ((host.entered [.tab]).hasFocus = false →
            (host.receive .tab).1.value = host.value ∧ (host.receive .tab).2.changes = [])) ∧
      (∀ (fields : HostFields) (steps : List HostStep),
        host.window = (SurfaceHost.ran fields steps).1.window →
          (host.entered [.tab]).hadFocus = host.window.focus.isAt host.surface.target ∧
            (host.window.focus.holder = some ⟨host.surface.target, true⟩ →
              host.window.focus.IsKeptBy host.surface.target)) := by
  refine ⟨fun focused => ?_, fun events modified => ⟨fun draft => ?_, ?_⟩,
    fun events => SurfaceHost.entered_of_none, fun unfocused => ?_, fun fields steps seen => ?_⟩
  · have indented := SurfaceHost.receive_tab_keeps
      (SurfaceHost.Indented host.indented host.IsEditing)
      (fun released indented => indented.frame host.indented_fits released)
      (SurfaceHost.indented_of_press editable focused)
    refine ⟨indented.left.value, indented.left.caret, indented.changes, indented.presses, ?_⟩
    intro kept
    exact (indented.kept ⟨editable, kept⟩).2
  · exact draft.indent_of_none modified.no_tab
  · exact SurfaceHost.entered_of_none (.inr modified.no_tab)
  · have passed := SurfaceHost.receive_tab_keeps
      (SurfaceHost.Passed host.value ((host.entered [.tab]).hasFocus = false))
      (fun released passed => passed.frame released)
      (SurfaceHost.passed_of_press (SurfaceHost.text_of_editable editable).1 unfocused)
    exact ⟨passed.presses, passed.untouched⟩
  · obtain ⟨hadFocus, keeps⟩ := SurfaceHost.focus_of_seen seen
    exact ⟨hadFocus _ (SurfaceHost.stays_replicate_tab 1), keeps⟩

/-- The host when it has replaced the value and a stretch is selected, with no frame since. -/
def SurfaceHost.showing (host : SurfaceHost) (value : String) (selection : Selection) :
    SurfaceHost :=
  { host.select selection with value := value }

theorem SurfaceHost.window_showing (host : SurfaceHost) (value : String) (selection : Selection) :
    (host.showing value selection).window = host.window := rfl

/-- A selection of which one end is past the end of the text. -/
theorem tab_press_at_stale_selection :
    let fields := HostFields.standard ⟨.ofNat 8, .ofNat 8, ⟨.ofNat 1008, .ofNat 752⟩⟩
    let host := (SurfaceHost.ran fields [.receive (.typed "ab")]).1.showing "a\nb" ⟨9, 1⟩
    (host.receive .tab).1.value = "a  " ∧
      (host.receive .tab).2.changes = [⟨"a  ", ["a  "], 1⟩] ∧
      (host.receive .tab).2.presses = [.plain .tab] ∧
      (host.receive .tab).2.last.caret = some 3 := by
  intro fields host
  have editable : ¬ host.IsLocked := by
    unfold HostFields.IsLocked
    decide +kernel
  have held : host.window.focus.holder = some ⟨host.surface.target, true⟩ := by decide +kernel
  have focused : (host.entered [.tab]).hadFocus := by decide +kernel
  have indented : host.indented = ⟨"a  ", 3⟩ := by decide +kernel
  have oneLine : ChangeReport.of "a  " = ⟨"a  ", ["a  "], 1⟩ := by decide +kernel
  obtain ⟨focusedCase, -, -, -, seen⟩ := tab_press_indents host editable
  have kept := (seen fields _ (SurfaceHost.window_showing _ _ _)).2 held
  obtain ⟨value, -, changes, presses, caret⟩ := focusedCase focused
  rw [indented] at value changes caret
  rw [oneLine] at changes
  exact ⟨value, changes, presses, caret kept⟩

/-- A text that has got the focus only in the last frame loses it with the press, and shows no
caret. -/
theorem caret_lost_with_press :
    let fields := HostFields.standard ⟨.ofNat 8, .ofNat 8, ⟨.ofNat 1008, .ofNat 752⟩⟩
    let low := { fields with
      value := "\n\n\n\n\n\n\n\n"
      settings := { fields.settings with heights := .of (.ofNat 60) (.ofNat 60) } }
    let host := (SurfaceHost.ran low [.blur]).1
    host.window.focus.isAt host.surface.target ∧
      host.indented = ⟨"\n\n\n\n\n\n\n\n  ", 10⟩ ∧
      (host.receive .tab).1.value = host.indented.value ∧
      (host.receive .tab).2.last.caret = none := by
  decide +kernel

end Highlight
