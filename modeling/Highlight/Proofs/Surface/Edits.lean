import Highlight.Proofs.Surface.Moments

/-!
Edits over a run of a host. Listeners hear of every edit, when it is made and with the value that it
leads to, and of nothing else. A surface that is locked or covered has no edits, and when it is
opened again nothing comes back of what was done to it before.
-/

set_option autoImplicit false

namespace Highlight

namespace SurfaceHost

variable (host : SurfaceHost) (step : HostStep)

theorem value_prepared :
    (host.prepared step).value = (step.given?.map (·.value)).getD host.value := by
  cases step <;> rfl

theorem value_step :
    (host.step step).1.value =
      ChangeReport.lastValue (host.prepared step).value (host.step step).2.changes := by
  obtain ⟨moments, passes, sums, -⟩ := host.step_recounts step
  rw [passes.value, sums.changes]

theorem changed_step_iff : (host.step step).2.changed ↔ (host.step step).2.changes ≠ [] := by
  obtain ⟨moments, passes, sums, -⟩ := host.step_recounts step
  rw [sums.changed, sums.changes, List.any_eq_true, Moment.changes, ne_eq,
    List.filterMap_eq_nil_iff]
  constructor
  · rintro ⟨moment, member, changed⟩ none
    have silent := none moment member
    rw [passes.change moment member, if_pos changed] at silent
    contradiction
  · intro some
    by_contra unchanged
    refine some fun moment member => ?_
    rw [passes.change moment member, if_neg]
    exact fun changed => unchanged ⟨moment, member, changed⟩

/-- Where the value cannot be edited, or nothing is done at the keyboard, no change is reported. -/
theorem changes_step_of_calm (calm : (host.prepared step).IsLocked ∨ step.events = []) :
    (host.step step).2.changes = [] := by
  obtain ⟨moments, passes, sums, arrived⟩ := host.step_recounts step
  rw [← arrived] at calm
  rw [sums.changes, Moment.changes, List.filterMap_eq_nil_iff]
  intro moment member
  rw [passes.change moment member, passes.unchanged calm moment member]
  rfl

end SurfaceHost

/-- Listeners hear of every edit in the step in which it is made, and they hear of a value with its
lines at the moment when it is the value of the surface. What they hear last is the value at the end
of the step. A value that the host gives is not reported to it. -/
theorem listeners_hear_every_edit (fields : HostFields) (steps : List HostStep) (step : HostStep) :
    let host := (SurfaceHost.ran fields steps).1
    let after := (host.step step).1
    let report := (host.step step).2
    (step.given? = none → after.value ≠ host.value → report.changes ≠ []) ∧
      (∃ moments, (host.prepared step).Passes moments after ∧
        report.changes = Moment.changes moments ∧
        ∀ moment ∈ moments, ∀ change ∈ moment.change?,
          change.value = moment.host.value ∧ change.lines = lines change.value ∧
            change.lineCount = change.lines.length) ∧
      (∀ change ∈ report.changes.getLast?, change.value = after.value) ∧
      (report.changed ↔ report.changes ≠ []) ∧
      (∀ given ∈ step.given?, report.changes = [] ∧ after.value = given.value) := by
  intro host after report
  have value : after.value = ChangeReport.lastValue (host.prepared step).value report.changes :=
    host.value_step step
  have prepared := host.value_prepared step
  refine ⟨?_, ?_, ?_, host.changed_step_iff step, ?_⟩
  · intro ungiven different silent
    rw [silent, prepared, ungiven] at value
    exact different value
  · obtain ⟨moments, passes, sums, -⟩ := host.step_recounts step
    refine ⟨moments, passes, sums.changes, ?_⟩
    intro moment member change reported
    rw [passes.change moment member] at reported
    split at reported
    · obtain rfl := Option.some.inj reported
      exact ⟨rfl, rfl, rfl⟩
    · contradiction
  · intro change last
    rw [value, ChangeReport.lastValue, last]
    rfl
  · intro given isGiven
    have quiet : step.events = [] := by
      cases step with
      | set => rfl
      | _ => contradiction
    have silent : report.changes = [] := host.changes_step_of_calm step (.inr quiet)
    rw [silent, prepared, isGiven] at value
    exact ⟨silent, value⟩

/-- Lines that are typed at once are one change. -/
example :
    let fields := HostFields.standard ⟨.ofNat 8, .ofNat 8, ⟨.ofNat 1008, .ofNat 752⟩⟩
    (SurfaceHost.ran fields [.receive (.typed "a\nb")]).2.changes =
      [⟨"a\nb", ["a", "b"], 2⟩] := by
  decide +kernel

/-! ## Locked surfaces -/

def StepReport.IsSilent (report : StepReport) : Prop :=
  report.changed = false ∧ report.changes = []

namespace SurfaceHost

def lastGiven (fields : HostFields) (steps : List HostStep) : HostFields :=
  (steps.filterMap HostStep.given?).getLast?.getD fields

theorem lastGiven_concat (fields : HostFields) (steps : List HostStep) (step : HostStep) :
    lastGiven fields (steps ++ [step]) = step.given?.getD (lastGiven fields steps) := by
  rw [lastGiven, List.filterMap_append]
  cases given : step.given? with
  | none =>
    rw [List.filterMap_cons_none given, List.filterMap_nil, List.append_nil]
    rfl
  | some fields =>
    rw [List.filterMap_cons_some given, List.filterMap_nil, List.getLast?_concat]
    rfl

theorem lastGiven_append_set (fields given : HostFields) (earlier later : List HostStep) :
    lastGiven fields (earlier ++ .set given :: later) = lastGiven given later := by
  have isGiven : (HostStep.set given).given? = some given := rfl
  rw [lastGiven, List.filterMap_append, List.filterMap_cons_some isGiven, List.getLast?_append,
    List.getLast?_cons]
  rfl

theorem step_of_calm (host : SurfaceHost) (step : HostStep)
    (calm : step.events = [] ∨ step.given? = none ∧ host.IsLocked) :
    (host.step step).1.value = (step.given?.map (·.value)).getD host.value ∧
      (host.step step).2.IsSilent := by
  have silent : (host.step step).2.changes = [] := by
    refine host.changes_step_of_calm step ?_
    rcases calm with quiet | ⟨ungiven, locked⟩
    · exact .inr quiet
    · left
      rw [toHostFields_prepared, ungiven]
      exact locked
  refine ⟨?_, ?_, silent⟩
  · rw [value_step, silent, value_prepared]
    rfl
  · rw [← Bool.not_eq_true, changed_step_iff]
    exact not_not.mpr silent

/-- As long as the keyboard is only used while the value cannot be edited, the value is the one that
the host gave last, and no change is reported. -/
theorem ran_of_calm {fields : HostFields} {steps : List HostStep}
    (calm : ∀ earlier step, earlier ++ [step] <+: steps →
      step.events = [] ∨ (ran fields earlier).1.IsLocked) :
    (ran fields steps).1.value = (lastGiven fields steps).value ∧
      (ran fields steps).2.IsSilent := by
  induction steps using List.reverseRecOn with
  | nil =>
    obtain ⟨first, -⟩ := step_of_calm (start fields) .rest (.inl rfl)
    obtain ⟨second, silent⟩ := step_of_calm (start fields).rest.1 .rest (.inl rfl)
    exact ⟨second.trans first, silent⟩
  | append_singleton steps step inductionHypothesis =>
    have before := inductionHypothesis fun earlier own isEarlier =>
      calm earlier own (isEarlier.trans (List.prefix_append steps [step]))
    have calmStep : step.events = [] ∨ step.given? = none ∧ (ran fields steps).1.IsLocked := by
      -- A step that gives fields replaces the lock too, but no events arrive in it.
      cases step with
      | set given => exact .inl rfl
      | _ => exact (calm steps _ List.prefix_rfl).imp_right fun locked => ⟨rfl, locked⟩
    obtain ⟨value, silent⟩ := step_of_calm _ _ calmStep
    rw [ran_concat, lastGiven_concat]
    refine ⟨?_, silent⟩
    rw [value, before.1]
    cases step.given? <;> rfl

theorem ran_of_locked {fields : HostFields} {steps : List HostStep}
    (locked : ∀ earlier, earlier <+: steps → (ran fields earlier).1.IsLocked) :
    (ran fields steps).1.value = (lastGiven fields steps).value ∧
      (ran fields steps).2.IsSilent := by
  refine ran_of_calm fun earlier step isEarlier => .inr (locked earlier ?_)
  exact (List.prefix_append earlier [step]).trans isEarlier

theorem calm_append {fields : HostFields} {steps later : List HostStep}
    (locked : ∀ earlier, earlier <+: steps → (ran fields earlier).1.IsLocked)
    (quiet : ∀ step ∈ later, step.events = []) (earlier : List HostStep) (step : HostStep)
    (isEarlier : earlier ++ [step] <+: steps ++ later) :
    step.events = [] ∨ (ran fields earlier).1.IsLocked := by
  -- The step is one of the first steps, the first of the later ones, or after that.
  rcases List.prefix_or_prefix_of_prefix isEarlier (List.prefix_append steps later) with
    within | beyond
  · exact .inr (locked earlier ((List.prefix_append earlier [step]).trans within))
  rcases List.prefix_concat_iff.mp beyond with rfl | ⟨others, rfl⟩
  · exact .inr (locked earlier (List.prefix_append earlier [step]))
  · rw [List.append_assoc, List.prefix_append_right_inj] at isEarlier
    exact .inl (quiet step (isEarlier.subset (by simp)))

end SurfaceHost

/-- While the value cannot be edited on a surface, whatever is done to it changes nothing and is no
change for listeners, so only the host changes the value. When the host makes it editable again, the
value is the one that it gives, nothing is reported, and the frames of a later step receive the
events of this step only. -/
theorem locked_surface_has_no_edits (fields : HostFields) (steps : List HostStep) :
    (∀ step : HostStep, step.given? = none → (SurfaceHost.ran fields steps).1.IsLocked →
        let host := (SurfaceHost.ran fields steps).1
        (host.step step).1.value = host.value ∧ (host.step step).2.IsSilent) ∧
      ((∀ earlier, earlier <+: steps → (SurfaceHost.ran fields earlier).1.IsLocked) →
        (SurfaceHost.ran fields steps).1.value = (SurfaceHost.lastGiven fields steps).value ∧
        (∀ earlier, earlier <+: steps → (SurfaceHost.ran fields earlier).2.IsSilent) ∧
        ∀ (reopened : HostFields) (quiet : List HostStep), (∀ step ∈ quiet, step.events = []) →
          let (host, report) := SurfaceHost.ran fields (steps ++ .set reopened :: quiet)
          host.value = (SurfaceHost.lastGiven reopened quiet).value ∧ report.IsSilent ∧
            ∀ step, (host.prepared step).Recounts step.events (host.step step)) := by
  refine ⟨fun step ungiven locked => ?_, fun locked => ⟨?_, ?_, ?_⟩⟩
  · have calm := SurfaceHost.step_of_calm _ _ (.inr ⟨ungiven, locked⟩)
    rwa [ungiven] at calm
  · exact (SurfaceHost.ran_of_locked locked).1
  · intro earlier isEarlier
    have lockedSoFar : ∀ own, own <+: earlier → (SurfaceHost.ran fields own).1.IsLocked :=
      fun own isOwn => locked own (isOwn.trans isEarlier)
    exact (SurfaceHost.ran_of_locked lockedSoFar).2
  · intro reopened quiet isQuiet
    have later : ∀ step ∈ HostStep.set reopened :: quiet, step.events = [] :=
      List.forall_mem_cons.mpr ⟨rfl, isQuiet⟩
    obtain ⟨value, silent⟩ := SurfaceHost.ran_of_calm (SurfaceHost.calm_append locked later)
    rw [SurfaceHost.lastGiven_append_set] at value
    exact ⟨value, silent, SurfaceHost.step_recounts _⟩

/-- What is typed on a locked surface does not come back when the surface is editable again. -/
theorem typing_on_locked_surface :
    let fields := HostFields.standard ⟨.ofNat 8, .ofNat 8, ⟨.ofNat 1008, .ofNat 752⟩⟩
    let locked := { fields with settings := { fields.settings with isReadOnly := true } }
    let typing := [HostStep.receive (.typed "a")]
    let reopened := SurfaceHost.ran locked (typing ++ [.set fields, .rest])
    (SurfaceHost.ran locked typing).2.IsSilent ∧
      reopened.1.value = "" ∧ reopened.2.IsSilent ∧
        (reopened.1.step (.receive (.typed "b"))).1.value = "b" := by
  intro fields locked typing reopened
  have isLocked : ∀ earlier, earlier <+: typing → (SurfaceHost.ran locked earlier).1.IsLocked := by
    intro earlier isEarlier
    unfold HostFields.IsLocked
    rcases List.prefix_concat_iff.mp (List.nil_append typing ▸ isEarlier) with rfl | nothing
    · decide +kernel
    · obtain rfl := List.prefix_nil.mp nothing
      decide +kernel
  have isQuiet : ∀ step ∈ [HostStep.rest], step.events = [] := by decide
  have typed : (reopened.1.step (.receive (.typed "b"))).1.value = "b" := by decide +kernel
  have given : (SurfaceHost.lastGiven fields [.rest]).value = "" := rfl
  -- What is left holds of any such run, which need not be computed.
  clear_value typing locked
  obtain ⟨-, whileLocked⟩ := locked_surface_has_no_edits locked typing
  obtain ⟨-, silent, afterwards⟩ := whileLocked isLocked
  obtain ⟨value, stillSilent, -⟩ := afterwards fields [.rest] isQuiet
  exact ⟨silent typing (List.prefix_refl typing), value.trans given, stillSilent, typed⟩

end Highlight
