import Mathlib.Data.List.Induction
import Highlight.Proofs.Lines
import Highlight.Proofs.Number.Digits
import Highlight.Proofs.Surface.Frame
import Highlight.Surface.Host

/-!
Runs of a host. A step ends with a frame without events, because a frame in which something happens
makes another one due. What such a frame shows is decided by the fields of the host as they are
then, whatever has been remembered under any name.
-/

set_option autoImplicit false

namespace Highlight

/-- What a report shows is what the fields of a host say. -/
def HostFields.ShownBy (fields : HostFields) (report : FrameReport) : Prop :=
  match fields.cover with
  | none =>
    report.painting.overlay = some
        ((Document.compute fields.value fields.settings.language).paintedText
          fields.settings.appearance) ∧
      report.painting.tints =
        fields.settings.flagged.tints fields.settings.appearance (lines fields.value).length ∧
      report.painting.hasGutter = fields.settings.showsNumbers ∧
      report.layout = fields.settings.layout (lines fields.value).length
  | some _ => report.painting = FrameReport.covered.painting

namespace SurfaceHost

/-- Is every document that is remembered, under any name, a fresh computation? -/
def IsFresh (host : SurfaceHost) : Prop :=
  ∀ entry ∈ host.memories, entry.2.IsFresh

namespace IsFresh

variable {host : SurfaceHost}

theorem start (fields : HostFields) : (start fields).IsFresh := by
  simp [IsFresh, SurfaceHost.start]

theorem memory (isFresh : host.IsFresh) : host.memory.IsFresh := by
  unfold SurfaceHost.memory
  cases found : host.memories.lookup host.shown with
  | none => exact SurfaceMemory.isFresh_fresh
  | some memory =>
    obtain ⟨before, after, split, -⟩ := List.lookup_eq_some_iff.mp found
    exact isFresh (host.shown, memory) (by simp [split])

theorem withMemory (isFresh : host.IsFresh) {memory : SurfaceMemory} (fresh : memory.IsFresh) :
    (host.withMemory memory).IsFresh := by
  unfold IsFresh SurfaceHost.withMemory
  rw [List.forall_mem_cons]
  exact ⟨fresh, fun entry member => isFresh entry (List.mem_filter.mp member).1⟩

theorem takePosition (isFresh : host.IsFresh) : host.takePosition.IsFresh := by
  unfold SurfaceHost.takePosition
  split
  · exact isFresh.withMemory isFresh.memory
  · exact isFresh

theorem afterFrame (isFresh : host.IsFresh) {surface : Surface} (fresh : surface.memory.IsFresh)
    (window : Window) (events : List InputEvent) :
    (host.afterFrame surface window events).IsFresh :=
  takePosition (isFresh.withMemory fresh)

end IsFresh

section

variable (host : SurfaceHost)

theorem window_takePosition : host.takePosition.window = host.window := by
  unfold takePosition
  split <;> rfl

theorem toHostFields_takePosition : host.takePosition.toHostFields = host.toHostFields := by
  unfold takePosition
  split <;> rfl

theorem toHostFields_afterFrame (surface : Surface) (window : Window)
    (events : List InputEvent) :
    (host.afterFrame surface window events).toHostFields =
      { host.toHostFields with value := surface.value } := by
  rw [afterFrame, toHostFields_takePosition]
  rfl

theorem isDue_afterFrame (surface : Surface) (window : Window) {events : List InputEvent}
    (some : events ≠ []) : (host.afterFrame surface window events).window.clock.isDue := by
  rw [afterFrame, window_takePosition]
  simp [Window.finish, Clock.demandIf, Clock.demand, some]

/-- What a frame does: the text is shown by the surface, and a label in its place leaves the value
and what is remembered of documents alone. -/
theorem frame_cases (events : List InputEvent) :
    ∃ surface window report,
      host.frame events = (host.afterFrame surface window events, report) ∧
        match host.cover with
        | none =>
          host.surface.frame host.settings (host.window.begin events) events =
            (surface, window, report.toFrameReport)
        | some _ =>
          surface.value = host.value ∧
            surface.memory.documents = host.memory.documents ∧
            report.toFrameReport = .covered := by
  unfold frame
  cases host.cover with
  | none =>
    rcases shown : host.surface.frame host.settings (host.window.begin events) events with
      ⟨surface, window, report⟩
    exact ⟨surface, window, { report with labels := [] }, by simp only [textFrame, shown], rfl⟩
  | some label => exact ⟨_, _, _, rfl, rfl, rfl, rfl⟩

end

/-- A frame without events shows the fields of the host, and any other makes another one due. -/
theorem frame_follows {host : SurfaceHost} (isFresh : host.IsFresh) (events : List InputEvent) :
    let (after, report) := host.frame events
    after.IsFresh ∧
      (events = [] → after.toHostFields = host.toHostFields ∧
        after.toHostFields.ShownBy report.toFrameReport) ∧
      (events ≠ [] → after.window.clock.isDue) := by
  obtain ⟨surface, window, report, frame_eq, shown⟩ := host.frame_cases events
  rw [frame_eq]
  dsimp only
  cases cover : host.cover with
  | none =>
    rw [cover] at shown
    have fresh : host.surface.memory.IsFresh := isFresh.memory
    have framed := Surface.frame_fresh host.settings (host.window.begin events) fresh events
    rw [shown] at framed
    obtain ⟨memoryFresh, overlay, tints, hasGutter⟩ := framed
    refine ⟨isFresh.afterFrame memoryFresh window events, ?_, host.isDue_afterFrame surface window⟩
    rintro rfl
    have quiet := Surface.frame_nil host.settings (host.window.begin []) fresh
    rw [shown] at quiet
    obtain ⟨value, layout⟩ := quiet
    have same : (host.afterFrame surface window []).toHostFields = host.toHostFields := by
      rw [toHostFields_afterFrame, value]
      rfl
    refine ⟨same, ?_⟩
    rw [same, HostFields.ShownBy, cover]
    rw [value] at overlay tints
    exact ⟨overlay, tints, hasGutter, layout⟩
  | some label =>
    rw [cover] at shown
    obtain ⟨value, documents, covered⟩ := shown
    have memoryFresh : surface.memory.IsFresh := by
      rw [SurfaceMemory.IsFresh, documents]
      exact isFresh.memory
    refine ⟨isFresh.afterFrame memoryFresh window events, ?_, host.isDue_afterFrame surface window⟩
    rintro rfl
    have same : (host.afterFrame surface window []).toHostFields = host.toHostFields := by
      rw [toHostFields_afterFrame, value]
    refine ⟨same, ?_⟩
    rw [same, HostFields.ShownBy, cover, covered]

/-- A host and what its last frames have shown: its fields as they are now. -/
structure Settled (host : SurfaceHost) (report : StepReport) : Prop where
  isFresh : host.IsFresh
  shown : host.toHostFields.ShownBy report.last.toFrameReport

/-- In the middle of a step the last frame may have shown something else, but then it is not the
last one of the step. -/
structure Underway (host : SurfaceHost) (report : StepReport) : Prop where
  isFresh : host.IsFresh
  shown_or_due :
    host.toHostFields.ShownBy report.last.toFrameReport ∨ host.window.clock.isDue

theorem frame_nil_settled {host : SurfaceHost} (isFresh : host.IsFresh) (report : StepReport) :
    Settled (host.frame []).1 (report.andThen (.of (host.frame []).2)) := by
  obtain ⟨nextFresh, shown, -⟩ := frame_follows isFresh []
  exact ⟨nextFresh, (shown rfl).2⟩

theorem frame_underway {host : SurfaceHost} (isFresh : host.IsFresh) (events : List InputEvent)
    {report : StepReport} (last : report.last = (host.frame events).2) :
    Underway (host.frame events).1 report := by
  obtain ⟨nextFresh, shown, due⟩ := frame_follows isFresh events
  refine ⟨nextFresh, ?_⟩
  rw [last]
  by_cases quiet : events = []
  · exact .inl (shown quiet).2
  · exact .inr (due quiet)

theorem Underway.framesAfter {host : SurfaceHost} {report : StepReport}
    (underway : host.Underway report) (others : List (List InputEvent)) :
    Underway (host.framesAfter report others).1 (host.framesAfter report others).2 := by
  induction others generalizing host report with
  | nil => exact underway
  | cons events others inductionHypothesis =>
    exact inductionHypothesis (frame_underway underway.isFresh events rfl)

/-- Frames that are only made because they are due go on showing the fields of the host. -/
theorem Settled.settleAfter {host : SurfaceHost} {report : StepReport}
    (settled : host.Settled report) (fuel : Nat) :
    Settled (host.settleAfter report fuel).1 (host.settleAfter report fuel).2 := by
  induction fuel generalizing host report with
  | zero => exact settled
  | succ fuel inductionHypothesis =>
    unfold SurfaceHost.settleAfter
    split
    · exact inductionHypothesis (frame_nil_settled settled.isFresh report)
    · exact settled

theorem Underway.settleAfter {host : SurfaceHost} {report : StepReport}
    (underway : host.Underway report) (fuel : Nat) :
    Settled (host.settleAfter report (fuel + 1)).1 (host.settleAfter report (fuel + 1)).2 := by
  rcases underway.shown_or_due with shown | due
  · exact Settled.settleAfter ⟨underway.isFresh, shown⟩ (fuel + 1)
  · rw [SurfaceHost.settleAfter, if_pos due]
    exact (frame_nil_settled underway.isFresh report).settleAfter fuel

variable {host : SurfaceHost}

theorem runFrames_settled (isFresh : host.IsFresh) (events : List InputEvent)
    (others : List (List InputEvent)) :
    Settled (host.runFrames events others).1 (host.runFrames events others).2 :=
  ((frame_underway isFresh events rfl).framesAfter others).settleAfter 3

theorem rest_settled (isFresh : host.IsFresh) : Settled host.rest.1 host.rest.2 :=
  runFrames_settled isFresh [] []

theorem receive_settled (isFresh : host.IsFresh) (event : InputEvent) :
    Settled (host.receive event).1 (host.receive event).2 := by
  unfold receive
  split
  · exact runFrames_settled isFresh _ _
  · exact rest_settled isFresh

theorem step_settled (isFresh : host.IsFresh) (step : HostStep) :
    Settled (host.step step).1 (host.step step).2 := by
  cases step with
  | receive event => exact receive_settled isFresh event
  | select selection => exact rest_settled (isFresh.withMemory isFresh.memory)
  | scrollTo position => exact rest_settled isFresh
  | blur => exact rest_settled isFresh
  | rest => exact rest_settled isFresh
  | set fields => exact rest_settled isFresh

theorem opened_settled (fields : HostFields) : Settled (opened fields).1 (opened fields).2 :=
  rest_settled (rest_settled (.start fields)).isFresh

/-- A host that was opened and has made some steps, and the report on the last one. -/
def ran (fields : HostFields) (steps : List HostStep) : SurfaceHost × StepReport :=
  steps.foldl (fun state step => state.1.step step) (opened fields)

@[simp] theorem ran_concat (fields : HostFields) (steps : List HostStep) (step : HostStep) :
    ran fields (steps ++ [step]) = (ran fields steps).1.step step := by
  simp [ran]

theorem ran_settled (fields : HostFields) (steps : List HostStep) :
    Settled (ran fields steps).1 (ran fields steps).2 := by
  induction steps using List.reverseRecOn with
  | nil => exact opened_settled fields
  | append_singleton steps step inductionHypothesis =>
    rw [ran_concat]
    exact step_settled inductionHypothesis.isFresh step

end SurfaceHost

/-- A document has a line at least, so its lines are counted as they are written. -/
theorem digits_layout (settings : SurfaceSettings) (document : Document)
    (nonempty : document.lines ≠ []) :
    (settings.layout document.lineCount).digits = (toString document.lineCount).length := by
  have positive : 1 ≤ document.lineCount := List.length_pos_iff.mpr nonempty
  change digitCount (max document.lineCount 1) = _
  rw [max_eq_left positive, digitCount_eq_length_toString]

/-- Whatever was done with a host before, and whatever it remembers under any name, when a step is
over its text is painted as it is now, in the present language and colors, and the line numbers have
the room that its lines need now. -/
theorem painting_of_present_fields (fields : HostFields) (steps : List HostStep) :
    let (host, report) := SurfaceHost.ran fields steps
    match host.cover with
    | none =>
      let document := Document.compute host.value host.settings.language
      report.last.painting.overlay = some (document.paintedText host.settings.appearance) ∧
        report.last.painting.tints =
          host.settings.flagged.tints host.settings.appearance document.lineCount ∧
        report.last.painting.hasGutter = host.settings.showsNumbers ∧
        report.last.layout = host.settings.layout document.lineCount ∧
        report.last.layout.digits = (toString document.lineCount).length
    | some _ => report.last.painting.overlay = none := by
  obtain ⟨-, shown⟩ := SurfaceHost.ran_settled fields steps
  unfold HostFields.ShownBy at shown
  dsimp only
  split at shown
  · obtain ⟨overlay, tints, hasGutter, layout⟩ := shown
    have nonempty : (Document.compute (SurfaceHost.ran fields steps).1.value
        (SurfaceHost.ran fields steps).1.settings.language).lines ≠ [] := by
      simp [Document.compute, lines, Text.linesOf_ne_nil]
    refine ⟨overlay, tints, hasGutter, layout, ?_⟩
    rw [layout]
    exact digits_layout _ _ nonempty
  · rw [shown]
    rfl

end Highlight
