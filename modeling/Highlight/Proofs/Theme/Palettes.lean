import Highlight.Proofs.Grammar.CharacterRuns
import Highlight.Proofs.Painting

/-!
Two palettes, of which each presentation uses one. A generated secret consists of runs only, so none
of its tokens falls back on the color of plain text; all other languages are painted by what their
tokens are. A theme's other palette does not show.
-/

set_option autoImplicit false

namespace Highlight

open Text
open Grammar.CharacterRuns (kinds areRuns_tokenize)

/-! ## Colors of kinds -/

namespace Theme

variable {first second : Theme}

theorem syntacticColor_congr (same : first.syntaxColors = second.syntaxColors)
    (kind : TokenKind) : first.syntacticColor kind = second.syntacticColor kind := by
  cases kind <;> simp only [syntacticColor, same]

/-- The kinds of runs take their colors from the palette of characters. -/
theorem characterColor_congr (same : first.characters = second.characters) {kind : TokenKind}
    (listed : kind ∈ kinds) : first.characterColor kind = second.characterColor kind := by
  simp only [kinds, List.mem_cons, List.not_mem_nil, or_false] at listed
  rcases listed with rfl | rfl | rfl | rfl <;> simp only [characterColor, same]

end Theme

theorem Language.presentation_of_ne {language : Language} (other : language ≠ .randomString) :
    language.presentation = .syntactic := by
  cases language <;> first | rfl | contradiction

/-! ## Sections of a document -/

/-- What the sections of a job color, in order. -/
def LayoutJob.stretches (job : LayoutJob) : List ColoredText :=
  job.sections.filterMap job.stretch?

namespace Document

/-- The sections of a document that are tokens: all but the line breaks. -/
def tokenSections (document : Document) (appearance : Appearance) : List ColoredText :=
  (document.layoutJob appearance).stretches.filter (·.text ≠ "\n")

theorem stretches_layoutJob (document : Document) (appearance : Appearance) :
    (document.layoutJob appearance).stretches = document.paintedText appearance := by
  have sections := LayoutJob.map_stretch?_sectionsFrom [] (document.paintedText appearance)
    (LayoutJob.sectionsFrom 0 (document.paintedText appearance))
  have found := congrArg (List.filterMap id) sections
  rw [List.filterMap_map, List.filterMap_map] at found
  rw [LayoutJob.stretches, layoutJob, LayoutJob.ofStretches_eq]
  exact found.trans List.filterMap_some

variable (value : String) {first second : Appearance}

theorem tokenSections_compute (language : Language) (appearance : Appearance) :
    (compute value language).tokenSections appearance =
      (compute value language).tokens.flatten.map (paintedToken appearance language) := by
  rw [tokenSections, stretches_layoutJob, filter_paintedText]

/-- The tokens of generated secrets are runs. -/
theorem kind_mem_kinds {token : Token}
    (member : token ∈ (compute value .randomString).tokens.flatten) : token.kind ∈ kinds := by
  obtain ⟨tokens, line, inLine⟩ := List.mem_flatten.mp member
  obtain ⟨text, -, rfl⟩ := List.mem_map.mp line
  exact (areRuns_tokenize text).classified token inLine

end Document

/-- The tokens of a generated secret are painted alike in any two themes with the same colors for
characters, whatever the colors by what tokens are; and those of any other document in any two
themes with the same colors by what tokens are, whatever the colors for characters. -/
theorem palettes_are_separate (value : String) (first second : Appearance) :
    (first.theme.characters = second.theme.characters →
      (Document.compute value .randomString).tokenSections first =
        (Document.compute value .randomString).tokenSections second) ∧
      ∀ language ≠ Language.randomString, first.theme.syntaxColors = second.theme.syntaxColors →
        (Document.compute value language).tokenSections first =
          (Document.compute value language).tokenSections second := by
  refine ⟨fun same => ?_, fun language other same => ?_⟩
  · rw [Document.tokenSections_compute, Document.tokenSections_compute]
    refine List.map_congr_left fun token member => ?_
    have listed := Document.kind_mem_kinds value member
    have color : first.tokenColor .randomString token.kind =
        second.tokenColor .randomString token.kind :=
      congrArg PaintedColor.of (Theme.characterColor_congr same listed)
    exact congrArg (ColoredText.mk token.text) color
  · rw [Document.tokenSections_compute, Document.tokenSections_compute]
    refine List.map_congr_left fun token _ => ?_
    have color : first.tokenColor .syntactic token.kind = second.tokenColor .syntactic token.kind :=
      congrArg PaintedColor.of (Theme.syntacticColor_congr same token.kind)
    rw [Document.paintedToken, Document.paintedToken, Language.presentation_of_ne other, color]

/-- A secret in two themes that differ in all other colors, and a query in two themes that differ in
the colors for characters. -/
theorem palettes_of_mixed_themes :
    let mixed : Appearance :=
      ⟨{ Theme.light with characters := .dark }, Appearance.standardFontSize⟩
    Appearance.dark.theme.syntaxColors ≠ mixed.theme.syntaxColors ∧
      Appearance.dark.theme.characters = mixed.theme.characters ∧
      (Document.compute "aB3!\n_9" .randomString).tokenSections .dark =
        (Document.compute "aB3!\n_9" .randomString).tokenSections mixed ∧
      Language.sql ≠ .randomString ∧ Appearance.light.theme.characters ≠ mixed.theme.characters ∧
      Appearance.light.theme.syntaxColors = mixed.theme.syntaxColors ∧
      (Document.compute "SELECT 1" .sql).tokenSections .light =
        (Document.compute "SELECT 1" .sql).tokenSections mixed := by
  intro mixed
  refine ⟨by decide, rfl, ?_, by decide, by decide, rfl, ?_⟩
  · exact (palettes_are_separate "aB3!\n_9" .dark mixed).1 rfl
  · exact (palettes_are_separate "SELECT 1" .light mixed).2 .sql (by decide) rfl

end Highlight
