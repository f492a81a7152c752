import Highlight.Proofs.Number.Extended
import Highlight.Surface.Basic

/-!
The heights of a surface. Whatever heights are wanted for it, in whatever order and however often,
the bounds that it keeps are in order, so that its box has a height whatever it shows. What is kept
of a wanted height that is no number, or that is too small, is the least height possible.
-/

set_option autoImplicit false

namespace Highlight

namespace HeightBounds

/-- Bounds that stand for two heights in order, none of them negative. -/
structure StandFor (bounds : HeightBounds) (least greatest : ExtendedRat) : Prop where
  least_stands : bounds.least.reading? = some least
  greatest_stands : bounds.greatest.reading? = some greatest
  nonneg : 0 ≤ least
  ordered : least ≤ greatest

/-- What is kept of two wanted heights. -/
theorem standFor_of (wantedLeast wantedGreatest : Single) :
    let least := wantedLeast.reading?.getD 0 ⊔ 0
    (of wantedLeast wantedGreatest).StandFor least
      (wantedGreatest.reading?.getD least ⊔ least) := by
  intro least
  have leastStands : (wantedLeast.max (.zero false)).reading? = some least :=
    Binary.reading?_max_of_right Binary.reading?_zero
  exact {
    least_stands := leastStands
    greatest_stands := Binary.reading?_max_of_right leastStands
    nonneg := le_sup_right
    ordered := le_sup_right }

namespace StandFor

variable {bounds : HeightBounds} {least greatest : ExtendedRat}
  (standFor : bounds.StandFor least greatest)

include standFor

theorem fit?_eq (height : Single) :
    bounds.fit? height = some (height.clamp bounds.least bounds.greatest) := by
  have inOrder : bounds.least.atMost bounds.greatest :=
    Binary.atMost_iff_exists_reading.mpr
      ⟨least, greatest, standFor.least_stands, standFor.greatest_stands, standFor.ordered⟩
  exact Binary.clamp?_eq_some_iff.mpr ⟨inOrder, rfl⟩

theorem boxHeight?_eq (available : Single) (fillsHeight : Bool) (contentHeight : Single) :
    Extent.boxHeight? available fillsHeight bounds contentHeight =
      some (Extent.boxHeight available fillsHeight bounds contentHeight) := by
  cases fillsHeight with
  | true => rfl
  | false =>
    unfold Extent.boxHeight Extent.boxHeight?
    rw [if_neg Bool.false_ne_true, standFor.fit?_eq, Option.getD_some]

/-- A box that does not fill the height there is has the height that its content needs, moved within
the bounds. -/
theorem reading?_boxHeight (available contentHeight : Single) :
    (Extent.boxHeight available false bounds contentHeight).reading? =
      (contentHeight.add Extent.chrome).reading?.map fun needed =>
        least ⊔ (needed ⊓ greatest) := by
  rw [Extent.boxHeight, Extent.boxHeight?, if_neg Bool.false_ne_true, standFor.fit?_eq,
    Option.getD_some]
  exact Binary.reading?_clamp standFor.least_stands standFor.greatest_stands standFor.ordered

end StandFor

end HeightBounds

namespace SurfaceSettings

/-- The settings when heights have been wanted, one pair after the other. -/
def wantAll (settings : SurfaceSettings) (wanted : List (Single × Single)) : SurfaceSettings :=
  wanted.foldl (fun settings (least, greatest) => settings.wantHeights least greatest) settings

theorem wantHeights_standFor (settings : SurfaceSettings) (wantedLeast wantedGreatest : Single) :
    ∃ least greatest,
      (settings.wantHeights wantedLeast wantedGreatest).heights.StandFor least greatest :=
  ⟨_, _, HeightBounds.standFor_of wantedLeast wantedGreatest⟩

theorem wantAll_standFor {settings : SurfaceSettings}
    (start : ∃ least greatest, settings.heights.StandFor least greatest)
    (wanted : List (Single × Single)) :
    ∃ least greatest, (settings.wantAll wanted).heights.StandFor least greatest := by
  induction wanted generalizing settings with
  | nil => exact start
  | cons pair others inductionHypothesis =>
    exact inductionHypothesis (settings.wantHeights_standFor pair.1 pair.2)

end SurfaceSettings

/-- A surface has bounds from the start, and takes others whenever heights are wanted for it. The
bounds are always numbers in order, none of them negative. So its box has a height, whatever its
content needs: all there is, or what the content needs, moved within the bounds. -/
theorem box_has_height (settings : SurfaceSettings) (wanted : List (Single × Single)) :
    let heights := ({ settings with heights := .standard }.wantAll wanted).heights
    ¬heights.least.isNaN ∧ ¬heights.greatest.isNaN ∧
      ∃ least greatest : ExtendedRat,
        heights.least.reading? = some least ∧ heights.greatest.reading? = some greatest ∧
        0 ≤ least ∧ least ≤ greatest ∧
        (∀ available fillsHeight contentHeight,
          Extent.boxHeight? available fillsHeight heights contentHeight =
            some (Extent.boxHeight available fillsHeight heights contentHeight)) ∧
        ∀ available contentHeight,
          (Extent.boxHeight available false heights contentHeight).reading? =
            (contentHeight.add Extent.chrome).reading?.map fun needed =>
              least ⊔ (needed ⊓ greatest) := by
  intro heights
  obtain ⟨least, greatest, standFor⟩ : ∃ least greatest, heights.StandFor least greatest :=
    SurfaceSettings.wantAll_standFor ⟨_, _, HeightBounds.standFor_of _ _⟩ wanted
  have leastIs := Binary.not_isNaN_of_reading? standFor.least_stands
  have greatestIs := Binary.not_isNaN_of_reading? standFor.greatest_stands
  refine ⟨leastIs, greatestIs, least, greatest, standFor.least_stands,
    standFor.greatest_stands, standFor.nonneg, standFor.ordered, ?_, ?_⟩
  · exact standFor.boxHeight?_eq
  · exact standFor.reading?_boxHeight

/-- Of two heights in the wrong order the least one counts. -/
example : HeightBounds.of (.ofNat 300) (.ofNat 100) = ⟨.ofNat 300, .ofNat 300⟩ := by
  decide

/-- Kept as they are, they would leave a box without a height. -/
example (available contentHeight : Single) :
    Extent.boxHeight? available false ⟨.ofNat 300, .ofNat 100⟩ contentHeight = none :=
  rfl

end Highlight
