import Highlight.Proofs.Surface.Frame

/-!
Changes of a text in one frame of its surface. A text that is locked stays as it is, and otherwise
it stays as it is unless an event counts as a change. Listeners are told of a frame just when it is
reported as a change, and what they are told is the value at its end.
-/

set_option autoImplicit false

namespace Highlight

namespace TextField

variable {first second third : TextField}

/-- One field after another on the same text: both are locked or none of them is, and between locked
ones the value stays. -/
structure KeepsLock (before after : TextField) : Prop where
  locked : after.locked = before.locked
  value : before.locked → after.value = before.value

namespace KeepsLock

theorem refl (field : TextField) : KeepsLock field field :=
  ⟨rfl, fun _ => rfl⟩

theorem trans (early : KeepsLock first second) (late : KeepsLock second third) :
    KeepsLock first third :=
  ⟨late.locked.trans early.locked, fun locked =>
    (late.value (early.locked.trans locked)).trans (early.value locked)⟩

theorem moveTo (keeps : KeepsLock first second) (offset : Nat) :
    KeepsLock first (second.moveTo offset) :=
  ⟨keeps.locked, keeps.value⟩

variable (field : TextField)

theorem remove (start stop : Nat) : KeepsLock field (field.remove start stop) := by
  unfold TextField.remove
  split
  · exact refl field
  · next unlocked => exact ⟨rfl, fun locked => absurd locked unlocked⟩

theorem removeSelection : KeepsLock field field.removeSelection :=
  (remove field _ _).moveTo _

theorem insert (text : String) : KeepsLock field (field.insert text) := by
  unfold TextField.insert
  split
  · exact removeSelection field
  · next unlocked => exact ⟨rfl, fun locked => absurd locked unlocked⟩

theorem deleteBackward : KeepsLock field field.deleteBackward := by
  unfold TextField.deleteBackward
  dsimp only
  split
  · exact (remove field _ _).moveTo _
  · exact removeSelection field

theorem deleteForward : KeepsLock field field.deleteForward := by
  unfold TextField.deleteForward
  dsimp only
  split
  · exact (remove field _ _).moveTo _
  · exact removeSelection field

theorem outdent : KeepsLock field field.outdent :=
  ((removeSelection field).trans (remove _ _ _)).moveTo _

theorem edited {field next : TextField} {press : Press} (edits : field.edited? press = some next) :
    KeepsLock field next := by
  unfold edited? at edits
  split at edits
  · obtain rfl := Option.some.inj edits
    split
    · exact outdent field
    · exact insert field _
  · obtain rfl := Option.some.inj edits
    exact insert field _
  · obtain rfl := Option.some.inj edits
    exact deleteBackward field
  · obtain rfl := Option.some.inj edits
    exact deleteForward field
  · contradiction

end KeepsLock

section

variable (field : TextField)

theorem moveSideways_eq (extend forward : Bool) :
    ∃ caret, field.moveSideways extend forward = { field with caret := caret } := by
  unfold moveSideways
  dsimp only
  split
  · exact ⟨_, rfl⟩
  · split <;> exact ⟨_, rfl⟩

theorem moveUp_eq (extend : Bool) :
    ∃ caret, field.moveUp extend = { field with caret := caret } := by
  unfold moveUp
  dsimp only
  split <;> exact ⟨_, rfl⟩

theorem moveDown_eq (extend : Bool) :
    ∃ caret, field.moveDown extend = { field with caret := caret } := by
  unfold moveDown
  dsimp only
  split <;> exact ⟨_, rfl⟩

theorem eq_of_moved {next : TextField} {press : Press} (moves : field.moved? press = some next) :
    ∃ caret, next = { field with caret := caret } := by
  unfold moved? at moves
  dsimp only at moves
  split at moves
  · exact Option.some.inj moves ▸ field.moveSideways_eq _ _
  · exact Option.some.inj moves ▸ field.moveSideways_eq _ _
  · exact Option.some.inj moves ▸ field.moveUp_eq _
  · exact Option.some.inj moves ▸ field.moveDown_eq _
  · exact ⟨_, (Option.some.inj moves).symm⟩
  · exact ⟨_, (Option.some.inj moves).symm⟩
  · contradiction

/-- An event keeps the lock, and it changes the value only if it counts as a change. -/
theorem receive_keeps (event : InputEvent) :
    KeepsLock field (field.receive event).1 ∧
      ((field.receive event).2 = false → (field.receive event).1.value = field.value) := by
  cases event with
  | typed text =>
    unfold receive
    dsimp only
    split
    · exact ⟨.insert field text, by simp⟩
    · exact ⟨.refl field, fun _ => rfl⟩
  | pasted text =>
    unfold receive
    dsimp only
    split
    · exact ⟨.insert field text, by simp⟩
    · exact ⟨.refl field, fun _ => rfl⟩
  | pressed press =>
    unfold receive
    dsimp only
    split
    · next moves =>
      obtain ⟨caret, rfl⟩ := field.eq_of_moved moves
      exact ⟨⟨rfl, fun _ => rfl⟩, fun _ => rfl⟩
    split
    · next edits => exact ⟨.edited edits, by simp⟩
    · exact ⟨.refl field, fun _ => rfl⟩
  | released press => exact ⟨.refl field, fun _ => rfl⟩
  | clicked target => exact ⟨.refl field, fun _ => rfl⟩

theorem foldl_receive (changed : Bool) (events : List InputEvent) :
    events.foldl
        (fun (field, changed) event =>
          let (field, changes) := field.receive event
          (field, changed || changes))
        (field, changed) =
      ((field.receiveAll events).1, changed || (field.receiveAll events).2) := by
  induction events generalizing field changed with
  | nil => simp [receiveAll]
  | cons event events inductionHypothesis =>
    have whole := inductionHypothesis (field.receive event).1 (false || (field.receive event).2)
    have others := inductionHypothesis (field.receive event).1 (changed || (field.receive event).2)
    rw [Bool.or_assoc] at whole others
    rw [receiveAll, List.foldl_cons, List.foldl_cons]
    exact others.trans (by rw [whole, Bool.false_or])

theorem receiveAll_cons (event : InputEvent) (events : List InputEvent) :
    field.receiveAll (event :: events) =
      (((field.receive event).1.receiveAll events).1,
        (field.receive event).2 || ((field.receive event).1.receiveAll events).2) := by
  rw [receiveAll, List.foldl_cons, foldl_receive, Bool.false_or]

theorem receiveAll_keeps (events : List InputEvent) :
    KeepsLock field (field.receiveAll events).1 ∧
      ((field.receiveAll events).2 = false → (field.receiveAll events).1.value = field.value) := by
  induction events generalizing field with
  | nil => exact ⟨.refl field, fun _ => rfl⟩
  | cons event events inductionHypothesis =>
    obtain ⟨first, firstValue⟩ := field.receive_keeps event
    obtain ⟨others, othersValue⟩ := inductionHypothesis (field.receive event).1
    rw [receiveAll_cons]
    refine ⟨first.trans others, fun unchanged => ?_⟩
    obtain ⟨firstUnchanged, othersUnchanged⟩ := Bool.or_eq_false_iff.mp unchanged
    exact (othersValue othersUnchanged).trans (firstValue firstUnchanged)

end

end TextField

namespace Draft

variable (draft : Draft)

theorem indent_cases (events : List InputEvent) :
    (draft.indent events).1 = draft ∨ (draft.indent events).1.changed := by
  unfold indent
  split
  · exact .inr rfl
  · exact .inl rfl

variable (settings : SurfaceSettings) (events : List InputEvent)

theorem receive_of_unchanged (unchanged : (draft.receive settings events).changed = false) :
    draft.changed = false ∧ (draft.receive settings events).value = draft.value := by
  obtain ⟨keepsLock, keepsValue⟩ := (draft.field settings).receiveAll_keeps events
  obtain ⟨before, noChange⟩ := Bool.or_eq_false_iff.mp unchanged
  refine ⟨before, ?_⟩
  rcases Bool.and_eq_false_iff.mp noChange with noEvent | editable
  · exact keepsValue noEvent
  · exact keepsLock.value (by simpa [field] using editable)

theorem receive_of_readOnly (readOnly : settings.isReadOnly) :
    (draft.receive settings events).value = draft.value ∧
      (draft.receive settings events).changed = draft.changed := by
  obtain ⟨keepsLock, -⟩ := (draft.field settings).receiveAll_keeps events
  exact ⟨keepsLock.value readOnly, by simp [receive, readOnly]⟩

end Draft

namespace TextFrame

variable {frame : TextFrame} (settings : SurfaceSettings)

theorem edited_of_unchanged (unchanged : (frame.edited settings).changed = false) :
    frame.draft.changed = false ∧ (frame.edited settings).value = frame.draft.value := by
  unfold edited at unchanged ⊢
  split
  · next focused =>
    rw [if_pos focused] at unchanged
    exact Draft.receive_of_unchanged _ _ _ unchanged
  · next unfocused =>
    rw [if_neg unfocused] at unchanged
    exact ⟨unchanged, rfl⟩

theorem edited_of_readOnly (frame : TextFrame) (readOnly : settings.isReadOnly) :
    (frame.edited settings).value = frame.draft.value ∧
      (frame.edited settings).changed = frame.draft.changed := by
  unfold edited
  split
  · exact Draft.receive_of_readOnly _ _ _ readOnly
  · exact ⟨rfl, rfl⟩

theorem changed_edited_of_nil (quiet : frame.events = []) :
    (frame.edited settings).changed = frame.draft.changed := by
  unfold edited
  split
  · rw [quiet]
    simp [Draft.receive, TextField.receiveAll]
  · rfl

end TextFrame

namespace Surface

variable (surface : Surface) (settings : SurfaceSettings) (window : Window)
  (events : List InputEvent)

theorem takeTabs_cases (hadFocus : Bool) :
    (surface.takeTabs settings hadFocus events).1 = ⟨surface.value, surface.memory, false, false⟩ ∨
      (surface.takeTabs settings hadFocus events).1.changed := by
  unfold takeTabs
  dsimp only
  split
  · exact Draft.indent_cases _ events
  · exact .inl rfl

theorem takeTabs_of_readOnly (readOnly : settings.isReadOnly) (hadFocus : Bool) :
    surface.takeTabs settings hadFocus events =
      (⟨surface.value, surface.memory, false, false⟩, events) := by
  simp [takeTabs, readOnly]

/-- What happens in a frame before events arrive at the text changes nothing, or counts as a
change. -/
theorem enterText_cases :
    let draft := (surface.enterText settings window events).draft
    draft.value = surface.value ∧ draft.changed = false ∨ draft.changed := by
  rcases surface.takeTabs_cases settings events (window.focus.isAt surface.target) with
    same | changed
  · left
    simp [enterText, same, SurfaceMemory.document]
  · right
    simpa [enterText] using changed

/-- Listeners are told of a frame just when it counts as a change, and then of the value at its
end. -/
theorem change_frame :
    let (after, _, report) := surface.frame settings window events
    report.change = if report.changed then some (.of after.value) else none := rfl

theorem value_frame_of_unchanged :
    let (after, _, report) := surface.frame settings window events
    report.changed = false → after.value = surface.value := by
  intro unchanged
  obtain ⟨before, kept⟩ := TextFrame.edited_of_unchanged settings unchanged
  rcases surface.enterText_cases settings window events with ⟨same, -⟩ | changed
  · exact kept.trans same
  · exact absurd changed (by simp [before])

theorem frame_of_readOnly (readOnly : settings.isReadOnly) :
    let (after, _, report) := surface.frame settings window events
    after.value = surface.value ∧ report.changed = false := by
  obtain ⟨value, changed⟩ :=
    (surface.enterText settings window events).edited_of_readOnly settings readOnly
  have start : (surface.enterText settings window events).draft.value = surface.value ∧
      (surface.enterText settings window events).draft.changed = false := by
    simp [enterText, surface.takeTabs_of_readOnly settings events readOnly, SurfaceMemory.document]
  exact ⟨value.trans start.1, changed.trans start.2⟩

theorem changed_frame_nil : (surface.frame settings window []).2.2.changed = false := by
  have start : (surface.enterText settings window []).draft.changed = false ∧
      (surface.enterText settings window []).events = [] := by
    simp [enterText]
  exact (TextFrame.changed_edited_of_nil settings start.2).trans start.1

end Surface

end Highlight
