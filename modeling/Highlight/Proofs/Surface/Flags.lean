import Mathlib.Data.List.Dedup
import Mathlib.Data.List.Forall2
import Highlight.Proofs.Surface.Run

/-!
Runs that differ in the flagged lines only. Flags are painted and nothing else: two hosts that do
the same but for the lines that they flag stay the same but for those, and what they learn differs
at most in the tints behind lines and in how their numbers are painted.
-/

set_option autoImplicit false

namespace Highlight

/-! ## The same but for flags -/

def SurfaceSettings.withFlagged (settings : SurfaceSettings) (flagged : FlaggedLines) :
    SurfaceSettings :=
  { settings with flagged := flagged }

def HostFields.withFlagged (fields : HostFields) (flagged : FlaggedLines) : HostFields :=
  { fields with settings := fields.settings.withFlagged flagged }

def SurfaceHost.withFlagged (host : SurfaceHost) (flagged : FlaggedLines) : SurfaceHost :=
  { host with settings := host.settings.withFlagged flagged }

/-- The line numbers that are painted, in order, however often and in whatever color. -/
def Painting.numbers (painting : Painting) : List String :=
  (painting.labels.map (·.text)).dedup

structure Painting.SameButFlags (first second : Painting) : Prop where
  overlay : second.overlay = first.overlay
  numbers : second.numbers = first.numbers
  hasGutter : second.hasGutter = first.hasGutter
  hasPlaceholder : second.hasPlaceholder = first.hasPlaceholder

structure FrameReport.SameButFlags (first second : FrameReport) : Prop where
  presses : second.presses = first.presses
  changed : second.changed = first.changed
  change : second.change = first.change
  caret : second.caret = first.caret
  layout : second.layout = first.layout
  isScrolling : second.isScrolling = first.isScrolling
  painting : first.painting.SameButFlags second.painting

structure HostReport.SameButFlags (first second : HostReport) : Prop where
  frame : first.toFrameReport.SameButFlags second.toFrameReport
  labels : second.labels = first.labels

structure StepReport.SameButFlags (first second : StepReport) : Prop where
  presses : second.presses = first.presses
  changed : second.changed = first.changed
  changes : second.changes = first.changes
  wasScrolling : second.wasScrolling = first.wasScrolling
  last : first.last.SameButFlags second.last

/-- Steps that give the host the same fields but for the flagged lines, or else are the same. -/
inductive HostStep.SameButFlags : HostStep → HostStep → Prop
  | same (step : HostStep) : SameButFlags step step
  | set (fields : HostFields) (flagged : FlaggedLines) :
      SameButFlags (.set fields) (.set (fields.withFlagged flagged))

/-- What a host does next. It can look at its fields for that: one that changes a field keeps the
others as they are then. -/
def HostChoice : Type :=
  HostFields → HostStep

/-- Two choices that are the same but for flags, whichever lines are flagged when they are made. -/
def HostChoice.SameButFlags (first second : HostChoice) : Prop :=
  ∀ (fields : HostFields) (flagged : FlaggedLines),
    (first fields).SameButFlags (second (fields.withFlagged flagged))

/-! ## Line numbers -/

theorem lineLabel_injective : Function.Injective lineLabel := by
  intro row other same
  exact Nat.succ.inj (eq_of_toString_eq same)

namespace FlaggedLines

variable (flagged : FlaggedLines) (appearance : Appearance)

theorem texts_label (row : Nat) :
    ∃ count, (flagged.label appearance row).map (·.text) =
      List.replicate (count + 1) (lineLabel row) := by
  unfold label
  split
  · exact ⟨1, by simp⟩
  · exact ⟨0, rfl⟩

end FlaggedLines

theorem dedup_replicate_append {α : Type} [DecidableEq α] {member : α} {others : List α}
    (absent : member ∉ others) (count : Nat) :
    (List.replicate (count + 1) member ++ others).dedup = member :: others.dedup := by
  induction count with
  | zero => exact List.dedup_cons_of_notMem absent
  | succ count inductionHypothesis =>
    rw [List.replicate_succ, List.cons_append, List.dedup_cons_of_mem, inductionHypothesis]
    exact List.mem_append_left _ (List.mem_replicate.mpr ⟨Nat.succ_ne_zero count, rfl⟩)

/-- However often each number is painted, the numbers are those of the rows. -/
theorem dedup_flatMap_label (flagged : FlaggedLines) (appearance : Appearance) {rows : List Nat}
    (distinct : rows.Nodup) :
    ((rows.flatMap (flagged.label appearance)).map (·.text)).dedup = rows.map lineLabel := by
  induction rows with
  | nil => rfl
  | cons row rows inductionHypothesis =>
    obtain ⟨absent, others⟩ := List.nodup_cons.mp distinct
    obtain ⟨count, texts⟩ := flagged.texts_label appearance row
    have absentText : lineLabel row ∉ (rows.flatMap (flagged.label appearance)).map (·.text) := by
      rw [← List.mem_dedup, inductionHypothesis others,
        List.mem_map_of_injective lineLabel_injective]
      exact absent
    rw [List.flatMap_cons, List.map_append, texts, dedup_replicate_append absentText,
      inductionHypothesis others, List.map_cons]

/-! ## One frame -/

namespace SurfaceSettings

variable (settings : SurfaceSettings) (flagged : FlaggedLines)

@[simp] theorem language_withFlagged :
    (settings.withFlagged flagged).language = settings.language := rfl

@[simp] theorem layout_withFlagged (lineCount : Nat) :
    (settings.withFlagged flagged).layout lineCount = settings.layout lineCount := rfl

@[simp] theorem numberedRows_withFlagged (view : AreaView) (area : ScrollArea) (lineCount : Nat) :
    (settings.withFlagged flagged).numberedRows view area lineCount =
      settings.numberedRows view area lineCount := rfl

theorem painting_withFlagged (document : Document) (rows : RowRange) (isInView : Bool) :
    (settings.painting document rows isInView).SameButFlags
      ((settings.withFlagged flagged).painting document rows isInView) := by
  refine ⟨rfl, ?_, rfl, rfl⟩
  have distinct : (List.range' rows.first (rows.stop - rows.first)).Nodup := List.nodup_range'
  unfold Painting.numbers painting withFlagged
  dsimp only
  split
  · exact (dedup_flatMap_label flagged _ distinct).trans
      (dedup_flatMap_label settings.flagged _ distinct).symm
  · rfl

end SurfaceSettings

@[simp] theorem TextFrame.edited_withFlagged (frame : TextFrame) (settings : SurfaceSettings)
    (flagged : FlaggedLines) :
    frame.edited (settings.withFlagged flagged) = frame.edited settings := rfl

namespace Surface

variable (surface : Surface) (settings : SurfaceSettings) (flagged : FlaggedLines) (window : Window)
  (events : List InputEvent)

@[simp] theorem enterText_withFlagged :
    surface.enterText (settings.withFlagged flagged) window events =
      surface.enterText settings window events := rfl

/-- What a frame does does not depend on flags. -/
theorem frame_withFlagged :
    (surface.frame (settings.withFlagged flagged) window events).1 =
        (surface.frame settings window events).1 ∧
      (surface.frame (settings.withFlagged flagged) window events).2.1 =
        (surface.frame settings window events).2.1 := by
  simp only [frame, enterText_withFlagged, TextFrame.edited_withFlagged,
    SurfaceSettings.language_withFlagged, SurfaceSettings.layout_withFlagged]
  exact ⟨rfl, rfl⟩

theorem report_withFlagged :
    (surface.frame settings window events).2.2.SameButFlags
      (surface.frame (settings.withFlagged flagged) window events).2.2 := by
  simp only [frame, enterText_withFlagged, TextFrame.edited_withFlagged,
    SurfaceSettings.language_withFlagged, SurfaceSettings.layout_withFlagged,
    SurfaceSettings.numberedRows_withFlagged]
  exact ⟨rfl, rfl, rfl, rfl, rfl, rfl, settings.painting_withFlagged flagged _ _ _⟩

end Surface

namespace SurfaceHost

variable (host : SurfaceHost) (flagged : FlaggedLines)

@[simp] theorem surface_withFlagged : (host.withFlagged flagged).surface = host.surface := rfl

@[simp] theorem window_withFlagged : (host.withFlagged flagged).window = host.window := rfl

@[simp] theorem cover_withFlagged : (host.withFlagged flagged).cover = host.cover := rfl

@[simp] theorem settings_withFlagged :
    (host.withFlagged flagged).settings = host.settings.withFlagged flagged := rfl

@[simp] theorem wantedPosition_withFlagged :
    (host.withFlagged flagged).wantedPosition = host.wantedPosition := rfl

theorem takePosition_withFlagged :
    (host.withFlagged flagged).takePosition = host.takePosition.withFlagged flagged := by
  unfold takePosition
  rw [wantedPosition_withFlagged]
  cases host.wantedPosition with
  | none => rfl
  | some position => rfl

theorem afterFrame_withFlagged (surface : Surface) (window : Window) (events : List InputEvent) :
    (host.withFlagged flagged).afterFrame surface window events =
      (host.afterFrame surface window events).withFlagged flagged :=
  takePosition_withFlagged
    { host.withMemory surface.memory with
      value := surface.value
      window := window.finish events } flagged

theorem textFrame_withFlagged (events : List InputEvent) :
    ((host.withFlagged flagged).textFrame events).1 =
        (host.textFrame events).1.withFlagged flagged ∧
      (host.textFrame events).2.SameButFlags ((host.withFlagged flagged).textFrame events).2 := by
  obtain ⟨surface, window⟩ := host.surface.frame_withFlagged host.settings flagged
    (host.window.begin events) events
  have reports := host.surface.report_withFlagged host.settings flagged
    (host.window.begin events) events
  simp only [textFrame, surface_withFlagged, window_withFlagged, settings_withFlagged, surface,
    window]
  exact ⟨host.afterFrame_withFlagged flagged _ _ events, reports, rfl⟩

theorem frame_withFlagged (events : List InputEvent) :
    ((host.withFlagged flagged).frame events).1 = (host.frame events).1.withFlagged flagged ∧
      (host.frame events).2.SameButFlags ((host.withFlagged flagged).frame events).2 := by
  unfold frame
  rw [cover_withFlagged]
  cases host.cover with
  | none => exact host.textFrame_withFlagged flagged events
  | some label =>
    exact ⟨afterFrame_withFlagged .., ⟨rfl, rfl, rfl, rfl, rfl, rfl, rfl, rfl, rfl, rfl⟩, rfl⟩

end SurfaceHost

/-! ## Steps and runs -/

namespace StepReport.SameButFlags

theorem of {first second : HostReport} (same : first.SameButFlags second) :
    (StepReport.of first).SameButFlags (.of second) where
  presses := same.frame.presses
  changed := same.frame.changed
  changes := congrArg Option.toList same.frame.change
  wasScrolling := same.frame.isScrolling
  last := same

theorem andThen {first second next otherNext : StepReport} (same : first.SameButFlags second)
    (nextSame : next.SameButFlags otherNext) :
    (first.andThen next).SameButFlags (second.andThen otherNext) where
  presses := congrArg₂ (· ++ ·) same.presses nextSame.presses
  changed := congrArg₂ (· || ·) same.changed nextSame.changed
  changes := congrArg₂ (· ++ ·) same.changes nextSame.changes
  wasScrolling := congrArg₂ (· || ·) same.wasScrolling nextSame.wasScrolling
  last := nextSame.last

end StepReport.SameButFlags

namespace SurfaceHost

structure SameButFlags (first second : SurfaceHost × StepReport) : Prop where
  host : ∃ flagged, second.1 = first.1.withFlagged flagged
  report : first.2.SameButFlags second.2

namespace SameButFlags

variable {host other : SurfaceHost} {report otherReport : StepReport}

theorem frame (same : SameButFlags (host, report) (other, otherReport))
    (events : List InputEvent) :
    SameButFlags ((host.frame events).1, report.andThen (.of (host.frame events).2))
      ((other.frame events).1, otherReport.andThen (.of (other.frame events).2)) := by
  obtain ⟨⟨flagged, rfl⟩, reports⟩ := same
  obtain ⟨hosts, frames⟩ := host.frame_withFlagged flagged events
  exact ⟨⟨flagged, hosts⟩, reports.andThen (.of frames)⟩

theorem framesAfter (same : SameButFlags (host, report) (other, otherReport))
    (others : List (List InputEvent)) :
    SameButFlags (host.framesAfter report others) (other.framesAfter otherReport others) := by
  induction others generalizing host report other otherReport with
  | nil => exact same
  | cons events others inductionHypothesis => exact inductionHypothesis (same.frame events)

theorem settleAfter (same : SameButFlags (host, report) (other, otherReport)) (fuel : Nat) :
    SameButFlags (host.settleAfter report fuel) (other.settleAfter otherReport fuel) := by
  induction fuel generalizing host report other otherReport with
  | zero => exact same
  | succ fuel inductionHypothesis =>
    -- Both stop after the same frame, because flags make no frame due.
    have clocks : other.window.clock = host.window.clock := by
      obtain ⟨⟨flagged, rfl⟩, -⟩ := same
      rfl
    unfold SurfaceHost.settleAfter
    rw [clocks]
    split
    · exact inductionHypothesis (same.frame [])
    · exact same

end SameButFlags

variable (host : SurfaceHost) (flagged : FlaggedLines)

theorem runFrames_withFlagged (events : List InputEvent) (others : List (List InputEvent)) :
    SameButFlags (host.runFrames events others)
      ((host.withFlagged flagged).runFrames events others) := by
  obtain ⟨hosts, frames⟩ := host.frame_withFlagged flagged events
  have start : SameButFlags ((host.frame events).1, .of (host.frame events).2)
      (((host.withFlagged flagged).frame events).1,
        .of ((host.withFlagged flagged).frame events).2) := ⟨⟨flagged, hosts⟩, .of frames⟩
  exact (start.framesAfter others).settleAfter _

theorem rest_withFlagged : SameButFlags host.rest (host.withFlagged flagged).rest :=
  host.runFrames_withFlagged flagged [] []

theorem receive_withFlagged (event : InputEvent) :
    SameButFlags (host.receive event) ((host.withFlagged flagged).receive event) := by
  unfold receive
  split
  · exact host.runFrames_withFlagged flagged _ _
  · exact host.rest_withFlagged flagged

theorem step_withFlagged (step : HostStep) :
    SameButFlags (host.step step) ((host.withFlagged flagged).step step) := by
  cases step with
  | receive event => exact host.receive_withFlagged flagged event
  | select selection => exact (host.select selection).rest_withFlagged flagged
  | scrollTo position => exact (host.scrollTo position).rest_withFlagged flagged
  | blur => exact host.blur.rest_withFlagged flagged
  | rest => exact host.rest_withFlagged flagged
  | set fields =>
    exact rest_withFlagged { host with toHostFields := fields } fields.settings.flagged

theorem step_sameButFlags {step otherStep : HostStep} (same : step.SameButFlags otherStep) :
    SameButFlags (host.step step) ((host.withFlagged flagged).step otherStep) := by
  cases same with
  | same step => exact host.step_withFlagged flagged step
  | set fields given => exact rest_withFlagged { host with toHostFields := fields } given

theorem opened_withFlagged (fields : HostFields) :
    SameButFlags (opened fields) (opened (fields.withFlagged flagged)) := by
  have started : start (fields.withFlagged flagged) = (start fields).withFlagged flagged := rfl
  obtain ⟨⟨kept, first⟩, -⟩ := (start fields).rest_withFlagged flagged
  rw [opened, opened, started, first]
  exact (start fields).rest.1.rest_withFlagged kept

def follow (choice : HostChoice) : SurfaceHost × StepReport :=
  host.step (choice host.toHostFields)

/-- A host that was opened and has made its choices, and the report on the last one. -/
def followed (fields : HostFields) (choices : List HostChoice) : SurfaceHost × StepReport :=
  choices.foldl (fun state choice => state.1.follow choice) (opened fields)

theorem follow_sameButFlags {choice otherChoice : HostChoice}
    (same : choice.SameButFlags otherChoice) :
    SameButFlags (host.follow choice) ((host.withFlagged flagged).follow otherChoice) :=
  host.step_sameButFlags flagged (same host.toHostFields flagged)

theorem followed_sameButFlags (fields : HostFields) {choices otherChoices : List HostChoice}
    (same : List.Forall₂ HostChoice.SameButFlags choices otherChoices) :
    SameButFlags (followed fields choices)
      (followed (fields.withFlagged flagged) otherChoices) := by
  unfold followed
  have start := opened_withFlagged flagged fields
  generalize opened fields = state at start
  generalize opened (fields.withFlagged flagged) = other at start
  induction same generalizing state other with
  | nil => exact start
  | cons sameChoice _ inductionHypothesis =>
    obtain ⟨kept, isKept⟩ := start.host
    refine inductionHypothesis _ _ ?_
    change SameButFlags (state.1.follow _) (other.1.follow _)
    rw [isKept]
    exact state.1.follow_sameButFlags kept sameChoice

end SurfaceHost

/-- Whichever lines are flagged at any time, two runs that are otherwise the same have the same
value, the same memory and the same window, and all that is reported of them is the same: changes,
keys, the caret, the layout and the painted text. Only the tints may differ, and how often and in
which color a line number is painted. -/
theorem flags_change_no_run (fields : HostFields) (flagged : FlaggedLines)
    {choices otherChoices : List HostChoice}
    (same : List.Forall₂ HostChoice.SameButFlags choices otherChoices) :
    let run := SurfaceHost.followed fields choices
    let other := SurfaceHost.followed (fields.withFlagged flagged) otherChoices
    (∃ otherFlagged, other.1 = run.1.withFlagged otherFlagged) ∧ run.2.SameButFlags other.2 := by
  intro run other
  have sameRuns : SurfaceHost.SameButFlags run other :=
    SurfaceHost.followed_sameButFlags flagged fields same
  exact ⟨sameRuns.host, sameRuns.report⟩

/-- Lines that are flagged in one of two runs, some of which the text does not have, are painted in
this run only. -/
theorem flags_painted_in_one_run :
    let fields := HostFields.standard ⟨.ofNat 8, .ofNat 8, ⟨.ofNat 1008, .ofNat 752⟩⟩
    let typed : HostChoice := fun _ => .receive (.typed "x")
    let flags (lines : List Nat) : HostChoice :=
      fun given => .set (given.withFlagged (.ofList lines))
    let run := SurfaceHost.followed fields [typed, HostStep.set]
    let other := SurfaceHost.followed (fields.withFlagged (.ofList [0, 9])) [typed, flags [0, 1, 9]]
    List.Forall₂ HostChoice.SameButFlags [typed, HostStep.set] [typed, flags [0, 1, 9]] ∧
      run.2.last.painting.tints ≠ other.2.last.painting.tints ∧
      run.2.SameButFlags other.2 := by
  have same : List.Forall₂ HostChoice.SameButFlags
      [fun _ => .receive (.typed "x"), HostStep.set]
      [fun _ => .receive (.typed "x"),
        fun given => .set (given.withFlagged (.ofList [0, 1, 9]))] :=
    .cons (fun _ _ => .same _) (.cons (fun given _ => .set given _) .nil)
  exact ⟨same, by decide +kernel, (flags_change_no_run _ _ same).2⟩

end Highlight
