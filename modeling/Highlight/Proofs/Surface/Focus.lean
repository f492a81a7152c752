import Highlight.Proofs.Surface.Moments
import Highlight.Proofs.Window.Focus

/-!
The focus over a run of a host. What each frame keeps is kept by a run, and a step ends with a frame
without events, so between two steps there is no move left to be made. A text that keeps the keys
for itself has the focus from then on until it is taken away.
-/

set_option autoImplicit false

namespace Highlight

/-! ## One frame -/

namespace Surface

variable (surface : Surface) (settings : SurfaceSettings) (window : Window)
  (events : List InputEvent)

/-- The focus in the middle of a frame: the page may be visited before the text, and the text is. -/
theorem focus_enterText (Enters Met : Focus → Prop)
    (visit : ∀ {focus : Focus} (target : Target), Enters focus → Enters (focus.visit target))
    (meet : ∀ {focus : Focus}, Enters focus →
      Met ((focus.visit surface.target).keepKeys surface.target))
    (enters : Enters (window.offerIf settings.takesFocus surface.target).focus) :
    Met (surface.enterText settings window events).window.focus :=
  meet (Window.focus_enterArea _ _ _ visit enters)

theorem window_frame :
    ∃ area view content wanted reason,
      (surface.frame settings window events).2.1 =
        ((surface.enterText settings window events).window.leaveArea surface.name area view content
          wanted).1.demandIf reason := by
  unfold frame
  exact ⟨_, _, _, _, _, rfl⟩

theorem focus_frame {Met : Focus → Prop}
    (visit : ∀ {focus : Focus} (target : Target), Met focus → Met (focus.visit target))
    (met : Met (surface.enterText settings window events).window.focus) :
    Met (surface.frame settings window events).2.1.focus := by
  obtain ⟨area, view, content, wanted, reason, left⟩ :=
    surface.window_frame settings window events
  rw [left]
  exact Window.focus_leaveArea _ _ _ visit met view content wanted

theorem placed_frame :
    ∃ choice ∈ (surface.frame settings window events).2.1.placed,
      choice.target = surface.target := by
  obtain ⟨area, view, content, wanted, reason, left⟩ :=
    surface.window_frame settings window events
  rw [left]
  have met : ⟨surface.target, (surface.enterText settings window events).text.outline⟩ ∈
      (surface.enterText settings window events).window.placed :=
    List.mem_append_right _ (List.mem_singleton.mpr rfl)
  exact ⟨_, Window.placed_leaveArea _ _ _ met view content wanted, rfl⟩

end Surface

namespace SurfaceHost

variable {host : SurfaceHost} {events : List InputEvent}

/-- A frame of the text before any event has arrived at it. -/
def entered (host : SurfaceHost) (events : List InputEvent) : TextFrame :=
  host.surface.enterText host.settings (host.window.begin events) events

/-- The focus after a frame of the text: what holds when the text has been met is kept by the visits
that follow, until the frame ends. -/
theorem focus_textFrame (Met After : Focus → Prop) (events : List InputEvent)
    (met : Met (host.entered events).window.focus)
    (visit : ∀ {focus : Focus} (target : Target), Met focus → Met (focus.visit target))
    (finish : ∀ {focus : Focus} {placed : List Placed},
      (∃ choice ∈ placed, choice.target = host.surface.target) → Met focus →
        After (focus.finish placed)) :
    After (host.textFrame events).1.window.focus := by
  dsimp only [textFrame, afterFrame]
  rw [window_takePosition]
  apply finish
  · exact host.surface.placed_frame host.settings _ events
  · exact host.surface.focus_frame host.settings _ events visit met

theorem focus_coveredFrame (Met After : Focus → Prop) (label : String) (events : List InputEvent)
    (begun : Met (host.window.focus.begin events))
    (visit : ∀ {focus : Focus} (target : Target), Met focus → Met (focus.visit target))
    (finish : ∀ {focus : Focus} (placed : List Placed), Met focus → After (focus.finish placed)) :
    After (host.coveredFrame label events).1.window.focus := by
  dsimp only [coveredFrame, afterFrame, Surface.enterCover, Surface.leaveCover]
  rw [window_takePosition]
  apply finish
  apply Window.focus_leaveArea _ _ _ visit
  exact Window.focus_enterArea _ _ _ visit begun

theorem tidy_entered (ready : (host.window.focus.begin events).IsReady) :
    (host.entered events).window.focus.IsTidy := by
  refine host.surface.focus_enterText host.settings _ events Focus.IsOrderly Focus.IsTidy
    (fun target orderly => (orderly.visit target).orderly)
    (fun orderly => (orderly.visit _).keepKeys _) ?_
  exact Window.focus_offerIf _ Focus.IsOrderly _ _ (ready.offer _) ready.tidy.orderly

theorem tidy_frame (tidy : host.window.focus.IsTidy) (events : List InputEvent) :
    (host.frame events).1.window.focus.IsTidy := by
  have ready := tidy.begin events
  unfold frame
  cases host.cover with
  | none =>
    exact focus_textFrame Focus.IsTidy Focus.IsTidy events (tidy_entered ready)
      (fun target tidy => tidy.orderly.visit target) (fun _ tidy => tidy.finish _)
  | some label =>
    exact focus_coveredFrame Focus.IsTidy Focus.IsTidy label events ready.tidy
      (fun target tidy => tidy.orderly.visit target) (fun placed tidy => tidy.finish placed)

theorem still_entered (still : (host.window.focus.begin events).IsStill) :
    (host.entered events).window.focus.IsStill := by
  refine host.surface.focus_enterText host.settings _ events Focus.IsStill Focus.IsStill
    (fun target still => still.visit target) (fun still => (still.visit _).keepKeys _) ?_
  exact Window.focus_offerIf _ Focus.IsStill _ _ (still.offer _) still

/-- A frame in which no key is pressed leaves no move to be made. -/
theorem still_frame (quiet : events.filterMap (·.press?) = []) :
    (host.frame events).1.window.focus.IsStill := by
  have still : (host.window.focus.begin events).IsStill := Focus.still_begin quiet
  unfold frame
  cases host.cover with
  | none =>
    exact focus_textFrame Focus.IsStill Focus.IsStill events (still_entered still)
      (fun target still => still.visit target) (fun _ still => still.finish _)
  | some label =>
    exact focus_coveredFrame Focus.IsStill Focus.IsStill label events still
      (fun target still => still.visit target) (fun placed still => still.finish placed)

theorem kept_entered (kept : host.window.focus.IsKeptBy host.surface.target)
    (stays : Focus.Stays events) :
    (host.entered events).window.focus.IsKeptBy host.surface.target := by
  let IsKept (focus : Focus) : Prop := focus.IsKeptBy host.surface.target
  have begun : IsKept (host.window.focus.begin events) := kept.begin stays
  refine host.surface.focus_enterText host.settings _ events IsKept IsKept
    (fun target kept => kept.visit target) (fun kept => (kept.visit _).keepKeys) ?_
  refine Window.focus_offerIf _ IsKept _ _ ?_ begun
  exact (begun.offer host.surface.target).symm ▸ begun

/-- A text that keeps the focus still has it after a frame that does not take it away. -/
theorem kept_frame (isText : host.cover = none)
    (kept : host.window.focus.IsKeptBy host.surface.target) (stays : Focus.Stays events) :
    (host.frame events).1.window.focus.IsKeptBy host.surface.target := by
  let IsKept (focus : Focus) : Prop := focus.IsKeptBy host.surface.target
  unfold frame
  rw [isText]
  exact focus_textFrame IsKept IsKept events (kept_entered kept stays)
    (fun target kept => kept.visit target) (fun present kept => kept.finish present)

/-! ## Runs -/

/-- What every frame keeps is kept by some frames in a row. -/
theorem Passes.keeps (Holds : SurfaceHost → Prop)
    (frame : ∀ {host : SurfaceHost} (events : List InputEvent),
      Holds host → Holds (host.frame events).1)
    {first last : SurfaceHost} {moments : List Moment} (passes : Passes first moments last)
    (holds : Holds first) : Holds last := by
  induction passes with
  | nothing => exact holds
  | frame events _ inductionHypothesis => exact inductionHypothesis (frame events holds)

theorem tidy_step (tidy : host.window.focus.IsTidy) (step : HostStep) :
    (host.step step).1.window.focus.IsTidy := by
  have prepared : (host.prepared step).window.focus.IsTidy := by
    cases step with
    | blur => exact tidy.takeAway
    | _ => exact tidy
  obtain ⟨moments, passes, -, -⟩ := host.step_recounts step
  exact passes.keeps (·.window.focus.IsTidy) (fun events tidy => tidy_frame tidy events) prepared

theorem tidy_ran (fields : HostFields) (steps : List HostStep) :
    (ran fields steps).1.window.focus.IsTidy := by
  induction steps using List.reverseRecOn with
  | nil => exact tidy_step (tidy_step Focus.tidy_start .rest) .rest
  | append_singleton steps step inductionHypothesis =>
    rw [ran_concat]
    exact tidy_step inductionHypothesis step

/-- Was the last frame one without events? -/
def IsAtRest (host : SurfaceHost) : Prop :=
  ∃ before : SurfaceHost, host = (before.frame []).1

/-- A frame in which something happens is not the last one of a step. -/
theorem frame_rests_or_due (host : SurfaceHost) (events : List InputEvent) :
    (host.frame events).1.IsAtRest ∨ (host.frame events).1.window.clock.isDue := by
  by_cases quiet : events = []
  · subst quiet
    exact .inl ⟨host, rfl⟩
  · obtain ⟨surface, window, report, frame_eq, -⟩ := host.frame_cases events
    rw [frame_eq]
    exact .inr (host.isDue_afterFrame surface window quiet)

theorem framesAfter_rests_or_due {host : SurfaceHost} (report : StepReport)
    (rests : host.IsAtRest ∨ host.window.clock.isDue) (others : List (List InputEvent)) :
    (host.framesAfter report others).1.IsAtRest ∨
      (host.framesAfter report others).1.window.clock.isDue := by
  induction others generalizing host report with
  | nil => exact rests
  | cons events others inductionHypothesis =>
    exact inductionHypothesis _ (host.frame_rests_or_due events)

/-- What frames without events keep is kept by those that are due. -/
theorem settleAfter_keeps {report : StepReport} (Holds : SurfaceHost → StepReport → Prop)
    (frame : ∀ {host : SurfaceHost} {report : StepReport}, Holds host report →
      Holds (host.frame []).1 (report.andThen (.of (host.frame []).2)))
    (holds : Holds host report) (fuel : Nat) :
    Holds (host.settleAfter report fuel).1 (host.settleAfter report fuel).2 := by
  induction fuel generalizing host report with
  | zero => exact holds
  | succ fuel inductionHypothesis =>
    unfold settleAfter
    split
    · exact inductionHypothesis (frame holds)
    · exact holds

theorem settleAfter_rests {host : SurfaceHost} (report : StepReport) (rests : host.IsAtRest)
    (fuel : Nat) : (host.settleAfter report fuel).1.IsAtRest :=
  settleAfter_keeps (fun host _ => host.IsAtRest) (fun {host _} _ => ⟨host, rfl⟩) rests fuel

theorem settleAfter_rests_of_due {host : SurfaceHost} (report : StepReport)
    (rests : host.IsAtRest ∨ host.window.clock.isDue) (fuel : Nat) :
    (host.settleAfter report (fuel + 1)).1.IsAtRest := by
  rcases rests with rests | due
  · exact settleAfter_rests report rests (fuel + 1)
  · rw [settleAfter, if_pos due]
    exact settleAfter_rests _ ⟨host, rfl⟩ fuel

theorem runFrames_rests (host : SurfaceHost) (events : List InputEvent)
    (others : List (List InputEvent)) : (host.runFrames events others).1.IsAtRest :=
  settleAfter_rests_of_due _
    (framesAfter_rests_or_due _ (host.frame_rests_or_due events) others) 3

theorem receive_rests (host : SurfaceHost) (event : InputEvent) :
    (host.receive event).1.IsAtRest := by
  unfold receive
  split
  · exact host.runFrames_rests _ _
  · exact host.runFrames_rests [] []

/-- A step ends with a frame without events. -/
theorem step_rests (host : SurfaceHost) (step : HostStep) : (host.step step).1.IsAtRest := by
  cases step with
  | receive event => exact host.receive_rests event
  | select selection => exact runFrames_rests _ [] []
  | scrollTo position => exact runFrames_rests _ [] []
  | blur => exact runFrames_rests _ [] []
  | rest => exact runFrames_rests _ [] []
  | set fields => exact runFrames_rests _ [] []

theorem ran_rests (fields : HostFields) (steps : List HostStep) :
    (ran fields steps).1.IsAtRest := by
  induction steps using List.reverseRecOn with
  | nil => exact runFrames_rests _ [] []
  | append_singleton steps step _ =>
    rw [ran_concat]
    exact step_rests _ step

theorem still_ran (fields : HostFields) (steps : List HostStep) :
    (ran fields steps).1.window.focus.IsStill := by
  obtain ⟨before, last⟩ := ran_rests fields steps
  rw [last]
  exact still_frame rfl

end SurfaceHost

end Highlight
