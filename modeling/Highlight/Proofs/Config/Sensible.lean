import Mathlib.Data.List.InsertIdx
import Highlight.Config.File
import Highlight.Editor.Basic
import Highlight.Proofs.Number.Order

/-!
Settings that make sense. Completing and sanitizing leads to them from any settings, and leaves them
as they are; so whatever there is in a file, an editor gets settings that make sense, and finds the
theme that they name.
-/

set_option autoImplicit false

namespace Highlight

namespace Config

/-- The lengths are in their ranges, and the names are known. -/
structure InRange (config : Config) : Prop where
  fontSize_finite : config.fontSize.isFinite
  le_fontSize : 6 ≤ config.fontSize.value
  fontSize_le : config.fontSize.value ≤ 72
  minHeight_finite : config.minHeight.isFinite
  le_minHeight : 60 ≤ config.minHeight.value
  maxHeight_finite : config.maxHeight.isFinite
  minHeight_le_maxHeight : config.minHeight.value ≤ config.maxHeight.value
  knowsCurrentTheme : config.knowsCurrentTheme
  knowsLanguage : (Language.ofName? config.defaultLanguage).isSome

structure Sensible (config : Config) : Prop where
  fontSize_finite : config.fontSize.isFinite
  le_fontSize : 6 ≤ config.fontSize.value
  fontSize_le : config.fontSize.value ≤ 72
  minHeight_finite : config.minHeight.isFinite
  le_minHeight : 60 ≤ config.minHeight.value
  maxHeight_finite : config.maxHeight.isFinite
  minHeight_le_maxHeight : config.minHeight.value ≤ config.maxHeight.value
  knowsLanguage : (Language.ofName? config.defaultLanguage).isSome
  knowsDark : (config.findTheme? "Dark").isSome
  knowsLight : (config.findTheme? "Light").isSome
  /-- Whatever the system prefers, there is a theme to show. -/
  knowsCurrent : ∀ prefersLight,
    (config.findTheme? (ThemeMode.resolve ⟨config.currentTheme⟩ prefersLight)).isSome

/-! ## Lengths -/

theorem isFinite_leastFontSize : leastFontSize.isFinite := by decide +kernel

theorem isFinite_greatestFontSize : greatestFontSize.isFinite := by decide +kernel

theorem isFinite_leastMinHeight : leastMinHeight.isFinite := by decide +kernel

theorem value_leastFontSize : leastFontSize.value = 6 := by decide +kernel

theorem value_greatestFontSize : greatestFontSize.value = 72 := by decide +kernel

theorem value_leastMinHeight : leastMinHeight.value = 60 := by decide +kernel

theorem isFinite_finiteOr {fallback : Single} (finite : fallback.isFinite) (length : Single) :
    (finiteOr fallback length).isFinite := by
  unfold finiteOr
  split
  · assumption
  · exact finite

theorem sensibleFontSize_sensible (size : Single) :
    (sensibleFontSize size).isFinite ∧ 6 ≤ (sensibleFontSize size).value ∧
      (sensibleFontSize size).value ≤ 72 := by
  unfold sensibleFontSize
  split
  · next finite =>
    rw [← value_leastFontSize, ← value_greatestFontSize]
    refine Binary.clamp_of_isFinite finite isFinite_leastFontSize isFinite_greatestFontSize ?_
    rw [value_leastFontSize, value_greatestFontSize]
    norm_num
  · decide +kernel

theorem sensibleMinHeight_sensible (height : Single) :
    (sensibleMinHeight height).isFinite ∧ 60 ≤ (sensibleMinHeight height).value := by
  have finite : (finiteOr standard.minHeight height).isFinite :=
    isFinite_finiteOr (by decide +kernel) height
  obtain ⟨maxFinite, -, least⟩ := Binary.max_of_isFinite finite isFinite_leastMinHeight
  rw [value_leastMinHeight] at least
  exact ⟨maxFinite, least⟩

theorem sensibleMaxHeight_sensible {minHeight : Single} (minFinite : minHeight.isFinite)
    (height : Single) :
    (sensibleMaxHeight minHeight height).isFinite ∧
      minHeight.value ≤ (sensibleMaxHeight minHeight height).value := by
  have finite : (finiteOr standard.maxHeight height).isFinite :=
    isFinite_finiteOr (by decide +kernel) height
  obtain ⟨maxFinite, -, least⟩ := Binary.max_of_isFinite finite minFinite
  exact ⟨maxFinite, least⟩

/-! ## Themes -/

theorem findTheme?_isSome_iff {config : Config} {name : String} :
    (config.findTheme? name).isSome ↔ ∃ theme ∈ config.themes, theme.name = name := by
  simp [findTheme?, List.find?_isSome]

/-- A theme is put at the end of the first ones or before others, which stay. -/
theorem mem_themes_withLight {config : Config} {theme : Theme} (known : theme ∈ config.themes) :
    theme ∈ config.withLight.themes := by
  unfold withLight
  split
  · exact known
  · rw [List.mem_insertIdx (Nat.min_le_left _ _)]
    exact .inr known

theorem withDark_knowsDark (config : Config) : (config.withDark.findTheme? "Dark").isSome := by
  unfold withDark
  split
  · assumption
  · exact findTheme?_isSome_iff.mpr ⟨.dark, List.mem_cons_self, rfl⟩

theorem withLight_knowsLight (config : Config) : (config.withLight.findTheme? "Light").isSome := by
  unfold withLight
  split
  · assumption
  · refine findTheme?_isSome_iff.mpr ⟨.light, ?_, rfl⟩
    rw [List.mem_insertIdx (Nat.min_le_left _ _)]
    exact .inl rfl

theorem withBuiltins_knowsDark (config : Config) :
    (config.withBuiltins.findTheme? "Dark").isSome := by
  obtain ⟨theme, known, name⟩ := findTheme?_isSome_iff.mp config.withDark_knowsDark
  exact findTheme?_isSome_iff.mpr ⟨theme, mem_themes_withLight known, name⟩

theorem withBuiltins_knowsLight (config : Config) :
    (config.withBuiltins.findTheme? "Light").isSome :=
  config.withDark.withLight_knowsLight

theorem withBuiltins_eq_self {config : Config} (dark : (config.findTheme? "Dark").isSome)
    (light : (config.findTheme? "Light").isSome) : config.withBuiltins = config := by
  have withDark : config.withDark = config := if_pos dark
  rw [withBuiltins, withDark]
  exact if_pos light

/-- A known current theme is one of the themes, or the system chooses between two of them. -/
theorem findTheme?_resolve {config : Config} (dark : (config.findTheme? "Dark").isSome)
    (light : (config.findTheme? "Light").isSome) (known : config.knowsCurrentTheme)
    (prefersLight : Bool) :
    (config.findTheme? (ThemeMode.resolve ⟨config.currentTheme⟩ prefersLight)).isSome := by
  by_cases system : config.currentTheme = "System"
  · rw [system]
    cases prefersLight
    · exact dark
    · exact light
  · have named : ThemeMode.resolve ⟨config.currentTheme⟩ prefersLight = config.currentTheme := by
      simp [ThemeMode.resolve, ThemeMode.isSystem, ThemeMode.system, system]
    rw [named]
    rw [knowsCurrentTheme, Bool.or_eq_true] at known
    rcases known with builtin | found
    · have cases : config.currentTheme = "Dark" ∨ config.currentTheme = "Light" := by
        simpa [ThemeMode.builtin, ThemeMode.system, ThemeMode.dark, ThemeMode.light, system]
          using builtin
      rcases cases with isDark | isLight
      · rw [isDark]
        exact dark
      · rw [isLight]
        exact light
    · exact found

/-! ## Sanitizing -/

theorem sanitize_inRange (config : Config) : config.sanitize.InRange := by
  obtain ⟨fontFinite, fontLeast, fontMost⟩ := sensibleFontSize_sensible config.fontSize
  obtain ⟨minFinite, minLeast⟩ := sensibleMinHeight_sensible config.minHeight
  obtain ⟨maxFinite, ordered⟩ := sensibleMaxHeight_sensible minFinite config.maxHeight
  constructor
  case knowsCurrentTheme =>
    by_cases known : config.knowsCurrentTheme
    · have kept : config.sanitize.currentTheme = config.currentTheme := if_pos known
      rw [Config.knowsCurrentTheme, kept]
      exact known
    · have replaced : config.sanitize.currentTheme = "System" := if_neg known
      rw [Config.knowsCurrentTheme, replaced]
      rfl
  case knowsLanguage =>
    unfold sanitize
    dsimp only
    split
    · assumption
    · decide +kernel
  all_goals assumption

theorem InRange.sanitize_eq_self {config : Config} (inRange : config.InRange) :
    config.sanitize = config := by
  have fontSize : sensibleFontSize config.fontSize = config.fontSize := by
    rw [sensibleFontSize, if_pos inRange.fontSize_finite]
    refine Binary.clamp_eq_self inRange.fontSize_finite isFinite_leastFontSize
      isFinite_greatestFontSize ?_ ?_
    · rw [value_leastFontSize]
      exact inRange.le_fontSize
    · rw [value_greatestFontSize]
      exact inRange.fontSize_le
  have minHeight : sensibleMinHeight config.minHeight = config.minHeight := by
    rw [sensibleMinHeight, finiteOr, if_pos inRange.minHeight_finite]
    refine Binary.max_eq_left_of_le inRange.minHeight_finite isFinite_leastMinHeight ?_
    rw [value_leastMinHeight]
    exact inRange.le_minHeight
  have maxHeight : sensibleMaxHeight config.minHeight config.maxHeight = config.maxHeight := by
    rw [sensibleMaxHeight, finiteOr, if_pos inRange.maxHeight_finite]
    exact Binary.max_eq_left_of_le inRange.maxHeight_finite inRange.minHeight_finite
      inRange.minHeight_le_maxHeight
  simp only [sanitize, fontSize, minHeight, maxHeight, if_pos inRange.knowsCurrentTheme,
    if_pos inRange.knowsLanguage]

theorem sanitize_sensible {config : Config} (dark : (config.findTheme? "Dark").isSome)
    (light : (config.findTheme? "Light").isSome) : config.sanitize.Sensible := by
  have inRange := config.sanitize_inRange
  exact { inRange with
    knowsDark := dark
    knowsLight := light
    knowsCurrent := findTheme?_resolve dark light inRange.knowsCurrentTheme }

theorem Sensible.knowsCurrentTheme {config : Config} (sensible : config.Sensible) :
    config.knowsCurrentTheme := by
  have known := sensible.knowsCurrent false
  rw [Config.knowsCurrentTheme, Bool.or_eq_true]
  by_cases system : config.currentTheme = "System"
  · rw [system]
    exact .inl rfl
  · refine .inr ?_
    simpa [ThemeMode.resolve, ThemeMode.isSystem, ThemeMode.system, system] using known

theorem Sensible.inRange {config : Config} (sensible : config.Sensible) : config.InRange :=
  { sensible with knowsCurrentTheme := sensible.knowsCurrentTheme }

theorem sensible_of_loaded (config : Config) : config.withBuiltins.sanitize.Sensible :=
  sanitize_sensible config.withBuiltins_knowsDark config.withBuiltins_knowsLight

/-- Settings that make sense are left alone. -/
theorem Sensible.loaded_eq_self {config : Config} (sensible : config.Sensible) :
    config.withBuiltins.sanitize = config := by
  rw [withBuiltins_eq_self sensible.knowsDark sensible.knowsLight,
    sensible.inRange.sanitize_eq_self]

theorem standard_sensible : standard.Sensible := by
  have loaded : standard.withBuiltins.sanitize = standard := by decide +kernel
  rw [← loaded]
  exact sensible_of_loaded standard

/-! ## Files -/

theorem sensible_of_load {slot : Slot} {config : Config} (loaded : load slot = .ok config) :
    config.Sensible := by
  unfold load at loaded
  split at loaded
  · split at loaded
    · contradiction
    split at loaded
    · contradiction
    · obtain rfl := Except.ok.inj loaded
      exact sensible_of_loaded _
  · contradiction
  · contradiction

theorem loadOrCreate_sensible (slot : Slot) : (loadOrCreate slot).1.Sensible := by
  unfold loadOrCreate
  split
  · cases loaded : load _ with
    | error failure => exact standard_sensible
    | ok config => exact sensible_of_load loaded
  · exact standard_sensible
  · exact standard_sensible

end Config

/-- Whatever is at the place of the file, an editor gets settings that make sense, and shows the
theme that they name or that the system prefers, rather than the one in place of a missing theme. -/
theorem editor_finds_configured_theme (slot : Config.Slot) (startup : Startup)
    (prefersLight : Bool) :
    let config := (Config.loadOrCreate slot).1
    let mode : ThemeMode := ⟨config.currentTheme⟩
    let editor := Editor.ofConfig config startup
    config.Sensible ∧ ∃ theme ∈ config.themes, theme.name = mode.resolve prefersLight ∧
      editor.findTheme? (mode.resolve prefersLight) = some theme ∧
      editor.resolveMode prefersLight mode = (mode, theme) := by
  intro config mode editor
  have sensible : config.Sensible := Config.loadOrCreate_sensible slot
  obtain ⟨theme, found⟩ := Option.isSome_iff_exists.mp (sensible.knowsCurrent prefersLight)
  have editorFound : editor.findTheme? (mode.resolve prefersLight) = some theme := found
  refine ⟨sensible, theme, List.mem_of_find?_eq_some found, ?_, editorFound, ?_⟩
  · simpa using List.find?_some found
  · rw [Editor.resolveMode, editorFound]

end Highlight
