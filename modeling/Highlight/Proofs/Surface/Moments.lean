import Highlight.Proofs.Surface.Change
import Highlight.Proofs.Surface.Run

/-!
The frames of a step, one after another. The events of a step arrive in its frames, each once and in
order, and nothing else does; the report of the step is put together from those of its frames. The
value is the one that listeners were told of last, if they were told of any.
-/

set_option autoImplicit false

namespace Highlight

/-- The end of a frame: the events that arrived in it, the host as it is then, and what it has
learned. -/
structure Moment where
  events : List InputEvent
  host : SurfaceHost
  report : HostReport

/-- The value of the last of some changes; another one if there are none. -/
def ChangeReport.lastValue (value : String) (changes : List ChangeReport) : String :=
  (changes.getLast?.map (·.value)).getD value

namespace Moment

def change? (moment : Moment) : Option ChangeReport :=
  moment.report.change

def changes (moments : List Moment) : List ChangeReport :=
  moments.filterMap change?

theorem lastValue_changes_cons (value : String) (moment : Moment) (moments : List Moment) :
    ChangeReport.lastValue value (changes (moment :: moments)) =
      ChangeReport.lastValue ((moment.change?.map (·.value)).getD value) (changes moments) := by
  cases reported : moment.change? with
  | none => rw [changes, List.filterMap_cons_none reported]; rfl
  | some change =>
    rw [changes, List.filterMap_cons_some reported, ChangeReport.lastValue, List.getLast?_cons,
      ← changes, ChangeReport.lastValue]
    cases (changes moments).getLast? <;> rfl

end Moment

/-- The changes in a report are those of some frames. -/
structure StepReport.Sums (report : StepReport) (moments : List Moment) : Prop where
  changed : report.changed = moments.any (·.report.changed)
  changes : report.changes = Moment.changes moments

namespace HostFields

/-- Can the value not be edited on the surface? It is locked, or something else is shown. -/
def IsLocked (fields : HostFields) : Prop :=
  fields.settings.isReadOnly ∨ fields.cover.isSome

end HostFields

namespace HostStep

/-- The fields that a step gives to the host. -/
def given? : HostStep → Option HostFields
  | set fields => some fields
  | receive _ | select _ | scrollTo _ | blur | rest => none

def events : HostStep → List InputEvent
  | receive event => event.frames.flatten
  | select _ | scrollTo _ | blur | rest | set _ => []

end HostStep

namespace SurfaceHost

/-- The host in a step before its first frame. -/
def prepared (host : SurfaceHost) : HostStep → SurfaceHost
  | .receive _ | .rest => host
  | .select selection => host.select selection
  | .scrollTo position => host.scrollTo position
  | .blur => host.blur
  | .set fields => { host with toHostFields := fields }

theorem toHostFields_prepared (host : SurfaceHost) (step : HostStep) :
    (host.prepared step).toHostFields = step.given?.getD host.toHostFields := by
  cases step <;> rfl

def moment (host : SurfaceHost) (events : List InputEvent) : Moment :=
  ⟨events, (host.frame events).1, (host.frame events).2⟩

/-! ## One frame -/

end SurfaceHost

/-- What a frame has to do with the value. -/
structure Moment.Follows (host : SurfaceHost) (moment : Moment) : Prop where
  fields : moment.host.toHostFields = { host.toHostFields with value := moment.host.value }
  /-- A change is reported with the value at the end of the frame. -/
  change : moment.change? =
    if moment.report.changed then some (.of moment.host.value) else none
  kept : moment.report.changed = false → moment.host.value = host.value
  calm : host.IsLocked ∨ moment.events = [] → moment.report.changed = false

namespace SurfaceHost

theorem moment_follows (host : SurfaceHost) (events : List InputEvent) :
    (host.moment events).Follows host := by
  obtain ⟨surface, window, report, frame_eq, shown⟩ := host.frame_cases events
  have fields := host.toHostFields_afterFrame surface window events
  have value : (host.afterFrame surface window events).value = surface.value :=
    congrArg HostFields.value fields
  rw [← value] at fields
  rw [moment, frame_eq]
  cases cover : host.cover with
  | none =>
    rw [cover] at shown
    have change := host.surface.change_frame host.settings (host.window.begin events) events
    have kept := host.surface.value_frame_of_unchanged host.settings (host.window.begin events)
      events
    rw [shown] at change kept
    dsimp only at change kept
    rw [← value] at change kept
    refine ⟨fields, change, kept, ?_⟩
    rintro (locked | quiet)
    · have readOnly : host.settings.isReadOnly := by simpa [HostFields.IsLocked, cover] using locked
      have unchanged := host.surface.frame_of_readOnly host.settings (host.window.begin events)
        events readOnly
      rw [shown] at unchanged
      exact unchanged.2
    · obtain rfl : events = [] := quiet
      have unchanged := host.surface.changed_frame_nil host.settings (host.window.begin [])
      rwa [shown] at unchanged
  | some label =>
    rw [cover] at shown
    obtain ⟨sameValue, -, covered⟩ := shown
    have unchanged : report.changed = false := congrArg FrameReport.changed covered
    have noChange : report.change = none := congrArg FrameReport.change covered
    exact ⟨fields, noChange.trans (by simp [unchanged]), fun _ => value.trans sameValue,
      fun _ => unchanged⟩

/-! ## Several frames -/

/-- A host goes through frames, which leave moments, and is another host at the end. -/
inductive Passes : SurfaceHost → List Moment → SurfaceHost → Prop
  | nothing (host : SurfaceHost) : Passes host [] host
  | frame {host last : SurfaceHost} {moments : List Moment} (events : List InputEvent) :
      Passes (host.frame events).1 moments last → Passes host (host.moment events :: moments) last

namespace Passes

variable {first last : SurfaceHost} {moments : List Moment}

theorem append {others : List Moment} {final : SurfaceHost} (passes : Passes first moments last)
    (further : Passes last others final) : Passes first (moments ++ others) final := by
  induction passes with
  | nothing => exact further
  | frame events _ inductionHypothesis => exact .frame events (inductionHypothesis further)

theorem change (passes : Passes first moments last) :
    ∀ moment ∈ moments, moment.change? =
      if moment.report.changed then some (.of moment.host.value) else none := by
  induction passes with
  | nothing => simp
  | @frame host _ _ events _ inductionHypothesis =>
    exact List.forall_mem_cons.mpr ⟨(host.moment_follows events).change, inductionHypothesis⟩

theorem value (passes : Passes first moments last) :
    last.value = ChangeReport.lastValue first.value (Moment.changes moments) := by
  induction passes with
  | nothing => rfl
  | @frame host last moments events _ inductionHypothesis =>
    have follows := host.moment_follows events
    have own : (host.moment events).host.value =
        ((host.moment events).change?.map (·.value)).getD host.value := by
      rw [follows.change]
      split
      · rfl
      · next unchanged => exact follows.kept (by simpa using unchanged)
    refine inductionHypothesis.trans ?_
    rw [Moment.lastValue_changes_cons, ← own]
    rfl

/-- Where the value cannot be edited, or no event arrives, there is no change. -/
theorem unchanged (passes : Passes first moments last)
    (calm : first.IsLocked ∨ moments.flatMap (·.events) = []) :
    ∀ moment ∈ moments, moment.report.changed = false := by
  induction passes with
  | nothing => simp
  | @frame host last moments events _ inductionHypothesis =>
    have follows := host.moment_follows events
    have calmFrame : host.IsLocked ∨ events = [] :=
      calm.imp_right fun none => (List.append_eq_nil_iff.mp none).1
    refine List.forall_mem_cons.mpr ⟨follows.calm calmFrame, inductionHypothesis ?_⟩
    -- A frame changes no field but the value, so what was locked stays locked.
    refine calm.imp (fun locked => ?_) fun none => (List.append_eq_nil_iff.mp none).2
    have fields : (host.frame events).1.toHostFields =
      { host.toHostFields with value := (host.frame events).1.value } := follows.fields
    rw [fields]
    exact locked

end Passes

/-- A host goes through frames in which some events arrive, and is told what is reported of them. -/
def Recounts (host : SurfaceHost) (events : List InputEvent) (last : SurfaceHost × StepReport) :
    Prop :=
  ∃ moments, Passes host moments last.1 ∧ last.2.Sums moments ∧ moments.flatMap (·.events) = events

namespace Recounts

variable {first host : SurfaceHost} {report : StepReport} {earlier : List InputEvent}

theorem start (host : SurfaceHost) (events : List InputEvent) :
    Recounts host events ((host.frame events).1, .of (host.frame events).2) := by
  refine ⟨[host.moment events], .frame events (.nothing _), ⟨?_, ?_⟩, List.append_nil events⟩
  · exact (Bool.or_false _).symm
  · change (host.moment events).change?.toList = _
    cases reported : (host.moment events).change? with
    | none => rw [Moment.changes, List.filterMap_cons_none reported]; rfl
    | some change => rw [Moment.changes, List.filterMap_cons_some reported]; rfl

theorem frame (recounts : Recounts first earlier (host, report)) (events : List InputEvent) :
    Recounts first (earlier ++ events)
      ((host.frame events).1, report.andThen (.of (host.frame events).2)) := by
  obtain ⟨moments, passes, sums, arrived⟩ := recounts
  obtain ⟨own, ownPasses, ownSums, ownArrived⟩ := start host events
  refine ⟨moments ++ own, passes.append ownPasses, ⟨?_, ?_⟩, ?_⟩
  · rw [List.any_append, ← sums.changed, ← ownSums.changed]
    rfl
  · rw [Moment.changes, List.filterMap_append, ← Moment.changes, ← Moment.changes, ← sums.changes,
      ← ownSums.changes]
    rfl
  · rw [List.flatMap_append, arrived, ownArrived]

theorem framesAfter (recounts : Recounts first earlier (host, report))
    (others : List (List InputEvent)) :
    Recounts first (earlier ++ others.flatten) (host.framesAfter report others) := by
  induction others generalizing host report earlier with
  | nil =>
    rw [List.flatten_nil, List.append_nil]
    exact recounts
  | cons events others inductionHypothesis =>
    rw [List.flatten_cons, ← List.append_assoc]
    exact inductionHypothesis (recounts.frame events)

theorem settleAfter (recounts : Recounts first earlier (host, report)) (fuel : Nat) :
    Recounts first earlier (host.settleAfter report fuel) := by
  induction fuel generalizing host report with
  | zero => exact recounts
  | succ fuel inductionHypothesis =>
    unfold SurfaceHost.settleAfter
    split
    · have quiet := recounts.frame []
      rw [List.append_nil] at quiet
      exact inductionHypothesis quiet
    · exact recounts

end Recounts

theorem runFrames_recounts (host : SurfaceHost) (events : List InputEvent)
    (others : List (List InputEvent)) :
    Recounts host (events ++ others.flatten) (host.runFrames events others) :=
  ((Recounts.start host events).framesAfter others).settleAfter _

theorem rest_recounts (host : SurfaceHost) : Recounts host [] host.rest :=
  host.runFrames_recounts [] []

theorem receive_recounts (host : SurfaceHost) (event : InputEvent) :
    Recounts host event.frames.flatten (host.receive event) := by
  unfold receive
  split
  · next frames => rw [frames]; exact host.runFrames_recounts _ _
  · next frames => rw [frames]; exact host.rest_recounts

/-- The frames of a step receive the events of the step and no others. -/
theorem step_recounts (host : SurfaceHost) (step : HostStep) :
    Recounts (host.prepared step) step.events (host.step step) := by
  cases step with
  | receive event => exact host.receive_recounts event
  | select selection => exact rest_recounts _
  | scrollTo position => exact rest_recounts _
  | blur => exact rest_recounts _
  | rest => exact rest_recounts _
  | set fields => exact rest_recounts _

end SurfaceHost

end Highlight
