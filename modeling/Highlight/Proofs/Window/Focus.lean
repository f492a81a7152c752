import Highlight.Window.ScrollArea

/-!
The focus through the parts of a frame. While the focus is to be passed on, nobody has it, and when
it has been settled who gets it in the next frame, there is nothing else to be done. From this it
follows that a target which keeps the keys for itself has the focus until it is taken away.
-/

set_option autoImplicit false

namespace Highlight

namespace Focus

variable {focus : Focus} {target : Target}

/-- The focus when no target is being visited. -/
structure IsTidy (focus : Focus) : Prop where
  passedOn : focus.isPassedOn → focus.holder = none
  next : focus.next.isSome → focus.move = none ∧ focus.isPassedOn = false

/-- The focus at the beginning of a frame. -/
structure IsReady (focus : Focus) : Prop where
  passedOn : focus.isPassedOn → focus.holder = none ∧ focus.before = none
  next : focus.next = none

/-- The focus when targets are being visited. It may have been offered to one although it is to be
passed on, but then that one did not have it before. -/
structure IsOrderly (focus : Focus) : Prop where
  passedOn : focus.isPassedOn → focus.holder = none ∨ focus.before = none
  next : focus.next.isSome → focus.move = none ∧ focus.isPassedOn = false

/-- The focus when no key is left that would move it. -/
structure IsStill (focus : Focus) : Prop where
  next : focus.next = none
  move : focus.move = none

/-- A target has the focus and keeps the keys for itself that would move it. -/
structure IsKeptBy (focus : Focus) (target : Target) : Prop extends focus.IsStill where
  holder : focus.holder = some ⟨target, true⟩
  passedOn : focus.isPassedOn = false

theorem IsTidy.orderly (tidy : focus.IsTidy) : focus.IsOrderly :=
  ⟨fun passedOn => .inl (tidy.passedOn passedOn), tidy.next⟩

theorem IsReady.tidy (ready : focus.IsReady) : focus.IsTidy :=
  ⟨fun passedOn => (ready.passedOn passedOn).1, by simp [ready.next]⟩

theorem tidy_start : start.IsTidy :=
  ⟨by simp [start], by simp [start]⟩

theorem IsTidy.isPassedOn_of_holder (tidy : focus.IsTidy) {holder : Holder}
    (held : focus.holder = some holder) : focus.isPassedOn = false := by
  cases passedOn : focus.isPassedOn with
  | false => rfl
  | true =>
    rw [tidy.passedOn passedOn] at held
    contradiction

theorem IsTidy.kept (tidy : focus.IsTidy) (still : focus.IsStill)
    (held : focus.holder = some ⟨target, true⟩) : focus.IsKeptBy target where
  toIsStill := still
  holder := held
  passedOn := tidy.isPassedOn_of_holder held

theorem IsKeptBy.isAt (kept : focus.IsKeptBy target) : focus.isAt target := by
  simp [Focus.isAt, kept.holder]

/-! ## The beginning of a frame -/

theorem IsReady.receive (ready : focus.IsReady) (isKept : Bool) (press : Press) :
    (focus.receive isKept press).IsReady := by
  unfold Focus.receive
  split
  · exact ⟨fun passedOn => ⟨rfl, (ready.passedOn passedOn).2⟩, ready.next⟩
  · split
    · exact ready
    · exact ⟨ready.passedOn, ready.next⟩
  · exact ready

theorem IsTidy.begin (tidy : focus.IsTidy) (events : List InputEvent) :
    (focus.begin events).IsReady := by
  unfold Focus.begin
  dsimp only
  refine List.foldlRecOn _ _ ⟨?_, rfl⟩ fun _ ready press _ => ready.receive _ press
  cases next : focus.next with
  | none =>
    intro passedOn
    simp only [tidy.passedOn passedOn, Option.map_none, and_self]
  | some given =>
    -- Whoever gets the focus now, it is not to be passed on.
    intro passedOn
    have settled := (tidy.next (by simp [next])).2
    simp [Focus.give, settled] at passedOn

theorem holder_receive (isKept : Bool) {press : Press} (stays : press.key ≠ .escape) :
    (focus.receive isKept press).holder = focus.holder := by
  unfold Focus.receive
  split
  · next escapes => exact absurd escapes stays
  · split <;> rfl
  · rfl

theorem receive_of_kept {press : Press} (stays : press.key ≠ .escape) :
    focus.receive true press = focus := by
  unfold Focus.receive
  split
  · next escapes => exact absurd escapes stays
  · exact if_pos rfl
  · rfl

/-- None of some events takes the focus away. -/
def Stays (events : List InputEvent) : Prop :=
  ∀ event ∈ events, ∀ press ∈ event.press?, press.key ≠ .escape

theorem stays_of_mem {events : List InputEvent} (stays : Stays events) {press : Press}
    (member : press ∈ events.filterMap (·.press?)) : press.key ≠ .escape := by
  obtain ⟨event, listed, pressed⟩ := List.mem_filterMap.mp member
  exact stays event listed press pressed

theorem holder_begin (next : focus.next = none) {events : List InputEvent} (stays : Stays events) :
    (focus.begin events).holder = focus.holder := by
  unfold Focus.begin
  simp only [next]
  refine List.foldlRecOn (motive := fun after : Focus => after.holder = focus.holder) _ _ rfl ?_
  intro after same press member
  rw [holder_receive _ (stays_of_mem stays member), same]

theorem isAt_begin (next : focus.next = none) {events : List InputEvent} (stays : Stays events) :
    (focus.begin events).isAt target = focus.isAt target := by
  unfold Focus.isAt
  rw [holder_begin next stays]

theorem still_begin {events : List InputEvent} (quiet : events.filterMap (·.press?) = []) :
    (focus.begin events).IsStill := by
  unfold Focus.begin
  rw [quiet]
  exact ⟨rfl, rfl⟩

theorem IsKeptBy.begin (kept : focus.IsKeptBy target) {events : List InputEvent}
    (stays : Stays events) : (focus.begin events).IsKeptBy target := by
  unfold Focus.begin
  simp only [kept.next, kept.holder, Option.any_some]
  refine List.foldlRecOn (motive := fun after : Focus => after.IsKeptBy target) _ _
    ⟨⟨rfl, rfl⟩, rfl, kept.passedOn⟩ ?_
  intro after stillKept press member
  rw [receive_of_kept (stays_of_mem stays member)]
  exact stillKept

/-! ## Visits -/

theorem IsReady.offer (ready : focus.IsReady) (target : Target) :
    (focus.offer target).IsOrderly := by
  unfold Focus.offer
  split
  · exact ⟨fun passedOn => .inr (ready.passedOn passedOn).2, by simp [Focus.give, ready.next]⟩
  · exact ready.tidy.orderly

theorem IsOrderly.pass (orderly : focus.IsOrderly) (target : Target) :
    (focus.pass target).IsTidy := by
  unfold Focus.pass
  split
  · next passes =>
    have passedOn : focus.isPassedOn = true := (Bool.and_eq_true_iff.mp passes).1
    exact ⟨by simp, fun settled => absurd passedOn (by simp [(orderly.next settled).2])⟩
  · next stays =>
    -- If the focus is still to be passed on, this target had it before, and nobody has it now.
    have nobody : focus.isPassedOn → focus.holder = none := by
      intro passedOn
      have before : focus.before = some target := by simpa [passedOn] using stays
      exact (orderly.passedOn passedOn).resolve_right (by simp [before])
    have tidy : focus.IsTidy := ⟨nobody, orderly.next⟩
    -- Forward and backward from the one that has the focus, forward and backward from nobody, and
    -- no such move.
    split
    · next move =>
      split
      · exact ⟨fun _ => rfl, fun settled => absurd (orderly.next settled).1 (by simp [move])⟩
      · exact tidy
    · next holder move =>
      split
      · exact ⟨nobody, fun _ => ⟨rfl, tidy.isPassedOn_of_holder holder⟩⟩
      · exact tidy
    · split
      · exact tidy
      · next held =>
        exact ⟨fun passedOn => absurd passedOn held, fun _ => ⟨rfl, eq_false_of_ne_true held⟩⟩
    · split
      · exact tidy
      · next held =>
        exact ⟨fun passedOn => absurd passedOn held, fun _ => ⟨rfl, eq_false_of_ne_true held⟩⟩
    · exact tidy

theorem IsOrderly.visit (orderly : focus.IsOrderly) (target : Target) :
    (focus.visit target).IsTidy :=
  let tidy := orderly.pass target
  ⟨tidy.passedOn, tidy.next⟩

theorem IsStill.pass (still : focus.IsStill) (target : Target) : (focus.pass target).IsStill := by
  unfold Focus.pass
  rw [still.move]
  split
  · exact ⟨still.next, still.move⟩
  · split <;> first | contradiction | exact still

theorem IsStill.visit (still : focus.IsStill) (target : Target) : (focus.visit target).IsStill :=
  let passed := still.pass target
  ⟨passed.next, passed.move⟩

theorem IsKeptBy.visit (kept : focus.IsKeptBy target) (visited : Target) :
    (focus.visit visited).IsKeptBy target := by
  have same : focus.pass visited = focus := by
    simp [Focus.pass, kept.passedOn, kept.move, kept.holder]
  unfold Focus.visit
  rw [same]
  exact ⟨⟨kept.next, kept.move⟩, kept.holder, kept.passedOn⟩

theorem IsStill.offer (still : focus.IsStill) (target : Target) : (focus.offer target).IsStill := by
  unfold Focus.offer
  split
  · exact ⟨still.next, still.move⟩
  · exact still

theorem IsKeptBy.offer (kept : focus.IsKeptBy target) (other : Target) :
    focus.offer other = focus := by
  simp [Focus.offer, kept.holder]

/-! ## Keys that are kept, and the end of a frame -/

theorem IsTidy.keepKeys (tidy : focus.IsTidy) (target : Target) :
    (focus.keepKeys target).IsTidy := by
  unfold Focus.keepKeys
  split
  · next hasFocus =>
    obtain ⟨holder, held, -⟩ := (Option.any_eq_true _ _).mp (Bool.and_eq_true_iff.mp hasFocus).1
    exact ⟨fun passedOn => absurd passedOn (by simp [tidy.isPassedOn_of_holder held]), tidy.next⟩
  · exact tidy

theorem IsStill.keepKeys (still : focus.IsStill) (target : Target) :
    (focus.keepKeys target).IsStill := by
  unfold Focus.keepKeys
  split
  · exact ⟨still.next, still.move⟩
  · exact still

theorem IsKeptBy.keepKeys (kept : focus.IsKeptBy target) :
    (focus.keepKeys target).IsKeptBy target := by
  unfold Focus.keepKeys
  split
  · exact ⟨⟨kept.next, kept.move⟩, rfl, kept.passedOn⟩
  · exact kept

variable {placed : List Placed}

theorem IsTidy.moveToward (tidy : focus.IsTidy) (direction : Direction) (placed : List Placed) :
    (focus.moveToward direction placed).IsTidy := by
  unfold Focus.moveToward
  cases held : focus.holder with
  | none => exact tidy
  | some holder =>
    have settled := tidy.isPassedOn_of_holder held
    dsimp only
    split
    · exact ⟨fun passedOn => absurd passedOn (by simp [Focus.give, settled]), tidy.next⟩
    · exact ⟨fun passedOn => absurd passedOn (by simp [settled]), tidy.next⟩

theorem IsTidy.dropLost (tidy : focus.IsTidy) (placed : List Placed) :
    (focus.dropLost placed).IsTidy := by
  unfold Focus.dropLost
  split
  · split
    · exact ⟨fun _ => rfl, tidy.next⟩
    · exact tidy
  · exact tidy

theorem IsTidy.finish (tidy : focus.IsTidy) (placed : List Placed) :
    (focus.finish placed).IsTidy := by
  unfold Focus.finish
  dsimp only
  split
  · exact (tidy.moveToward _ placed).dropLost placed
  · exact tidy.dropLost placed

theorem IsTidy.takeAway (tidy : focus.IsTidy) : focus.takeAway.IsTidy :=
  ⟨fun _ => rfl, tidy.next⟩

theorem IsStill.finish_eq (still : focus.IsStill) (placed : List Placed) :
    focus.finish placed = focus.dropLost placed := by
  simp only [Focus.finish, still.move]

theorem IsStill.finish (still : focus.IsStill) (placed : List Placed) :
    (focus.finish placed).IsStill := by
  rw [still.finish_eq]
  unfold Focus.dropLost
  split
  · split
    · exact ⟨still.next, still.move⟩
    · exact still
  · exact still

/-- A target that keeps the focus does not lose it as long as it is there. -/
theorem IsKeptBy.finish (kept : focus.IsKeptBy target)
    (present : ∃ choice ∈ placed, choice.target = target) :
    (focus.finish placed).IsKeptBy target := by
  have listed : placed.any (·.target == target) = true := by simpa using present
  rw [kept.finish_eq]
  unfold Focus.dropLost
  simp only [kept.holder, listed, Bool.not_true, Bool.and_false]
  exact kept

end Focus

/-! ## Windows -/

namespace Window

variable (window : Window)

theorem focus_offerIf (Holds : Focus → Prop) (takesFocus : Bool) (target : Target)
    (offer : Holds (window.focus.offer target)) (stays : Holds window.focus) :
    Holds (window.offerIf takesFocus target).focus := by
  unfold offerIf
  split
  · exact offer
  · exact stays

variable (name : String) (area : ScrollArea)

/-- What every visit keeps is kept when an area begins. -/
theorem focus_enterArea {Holds : Focus → Prop}
    (visit : ∀ {focus} (target : Target), Holds focus → Holds (focus.visit target))
    (holds : Holds window.focus) : Holds (window.enterArea name area).1.focus := by
  unfold enterArea demandIf
  dsimp only
  split
  · split
    · exact visit _ holds
    · exact holds
  · exact holds

/-- What every visit keeps is kept when an area ends. -/
theorem focus_leaveArea {Holds : Focus → Prop}
    (visit : ∀ {focus} (target : Target), Holds focus → Holds (focus.visit target))
    (holds : Holds window.focus) (view : AreaView) (content : Size) (wanted : Option Rect) :
    Holds (window.leaveArea name area view content wanted).1.focus := by
  unfold leaveArea demandIf
  dsimp only
  refine List.foldlRecOn (motive := fun window : Window => Holds window.focus) _ _ holds ?_
  intro window holds axis _
  exact visit _ holds

/-- What has been met stays where it is when an area ends. -/
theorem placed_leaveArea {choice : Placed} (met : choice ∈ window.placed) (view : AreaView)
    (content : Size) (wanted : Option Rect) :
    choice ∈ (window.leaveArea name area view content wanted).1.placed := by
  unfold leaveArea demandIf
  dsimp only
  refine List.foldlRecOn (motive := fun window : Window => choice ∈ window.placed) _ _ met ?_
  intro window met axis _
  exact List.mem_append_left _ met

end Window

end Highlight
