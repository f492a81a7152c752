import Mathlib.Data.List.Perm.Basic
import Highlight.Proofs.Config.Sensible

/-!
Completing and sanitizing settings. Each is done once and for all, and neither disturbs what the
other does: completing adds themes under names that are known without them, and sanitizing leaves
the themes alone. So all ways to do both, in any order and however often, end in the same settings.
-/

set_option autoImplicit false

namespace Highlight.Config

/-! ## Adding a theme -/

/-- One theme is added unless a theme has its name; all else stays as it is. -/
structure Adds (theme : Theme) (config completed : Config) : Prop where
  others : completed = { config with themes := completed.themes }
  sublist : config.themes.Sublist completed.themes
  perm : completed.themes.Perm
    ((if (config.findTheme? theme.name).isSome then [] else [theme]) ++ config.themes)
  found : ∀ name, completed.findTheme? name =
    (config.findTheme? name).or (if theme.name = name then some theme else none)

variable {theme : Theme} {config : Config}

theorem adds_of_known (known : (config.findTheme? theme.name).isSome) :
    Adds theme config config where
  others := rfl
  sublist := .refl _
  perm := by rw [if_pos known, List.nil_append]
  found name := by
    split
    · next isName =>
      subst isName
      rw [Option.or_of_isSome known]
    · rw [Option.or_none]

/-- It does not matter where a missing theme is put. -/
theorem adds_of_missing (missing : ¬(config.findTheme? theme.name).isSome)
    {front back : List Theme} (themes : config.themes = front ++ back) :
    Adds theme config { config with themes := front ++ theme :: back } where
  others := rfl
  sublist := by
    rw [themes]
    exact (List.Sublist.refl front).append (List.sublist_cons_self theme back)
  perm := by
    rw [if_neg missing, themes]
    exact List.perm_middle
  found name := by
    rw [Option.not_isSome_iff_eq_none] at missing
    simp only [findTheme?, themes, List.find?_append, Option.or_eq_none_iff] at missing ⊢
    by_cases isName : theme.name = name
    · subst isName
      simp [missing.1, missing.2]
    · simp [isName]

theorem withDark_adds (config : Config) : Adds .dark config config.withDark := by
  unfold withDark
  split
  · next known => exact adds_of_known known
  · next missing => exact adds_of_missing missing (List.nil_append _).symm

theorem withLight_adds (config : Config) : Adds .light config config.withLight := by
  unfold withLight
  split
  · next known => exact adds_of_known known
  · next missing =>
    have second : config.themes.insertIdx (min config.themes.length 1) .light =
        config.themes.take 1 ++ .light :: config.themes.drop 1 := by
      cases config.themes <;> simp
    rw [second]
    exact adds_of_missing missing (List.take_append_drop 1 _).symm

theorem Adds.findTheme?_eq_some {completed : Config} (adds : Adds theme config completed)
    {name : String} {own : Theme} (found : config.findTheme? name = some own) :
    completed.findTheme? name = some own := by
  rw [adds.found, found, Option.some_or]

/-- The themes that are always known and are missing in some settings. -/
def missingThemes (config : Config) : List Theme :=
  [.dark, .light].filter fun theme => (config.findTheme? theme.name).isNone

theorem withBuiltins_others (config : Config) :
    config.withBuiltins = { config with themes := config.withBuiltins.themes } := by
  have dark := config.withDark_adds.others
  have light := config.withDark.withLight_adds.others
  rw [withBuiltins, light, dark]

theorem themes_sublist_withBuiltins (config : Config) :
    config.themes.Sublist config.withBuiltins.themes :=
  config.withDark_adds.sublist.trans config.withDark.withLight_adds.sublist

theorem findTheme?_withBuiltins_eq_some {name : String}
    (found : config.findTheme? name = some theme) :
    config.withBuiltins.findTheme? name = some theme :=
  config.withDark.withLight_adds.findTheme?_eq_some (config.withDark_adds.findTheme?_eq_some found)

/-- Names other than those of the added themes are as they were. -/
theorem Adds.findTheme?_of_ne {completed : Config} (adds : Adds theme config completed)
    {name : String} (other : theme.name ≠ name) :
    completed.findTheme? name = config.findTheme? name := by
  rw [adds.found, if_neg other, Option.or_none]

theorem themes_withBuiltins_perm (config : Config) :
    config.withBuiltins.themes.Perm (config.missingThemes ++ config.themes) := by
  have missing : config.missingThemes =
      (if (config.findTheme? Theme.dark.name).isSome then [] else [.dark]) ++
        if (config.findTheme? Theme.light.name).isSome then [] else [.light] := by
    rw [missingThemes, List.filter_cons, List.filter_cons, List.filter_nil]
    cases config.findTheme? Theme.dark.name <;> cases config.findTheme? Theme.light.name <;> rfl
  have light := config.withDark.withLight_adds.perm
  rw [config.withDark_adds.findTheme?_of_ne (by decide)] at light
  rw [missing]
  exact light.trans <| (config.withDark_adds.perm.append_left _).trans <| by
    rw [← List.append_assoc]
    exact List.perm_append_comm.append_right _

/-- The names that only completing adds are known as modes in any case. -/
theorem knowsCurrentTheme_withBuiltins (config : Config) :
    config.withBuiltins.knowsCurrentTheme = config.knowsCurrentTheme := by
  have name : config.withBuiltins.currentTheme = config.currentTheme :=
    by rw [withBuiltins_others]
  rw [knowsCurrentTheme, knowsCurrentTheme, name]
  by_cases builtin : ThemeMode.builtin.contains ⟨config.currentTheme⟩
  · rw [builtin, Bool.true_or, Bool.true_or]
  · have noMode : ∀ mode ∈ ThemeMode.builtin, mode.name ≠ config.currentTheme := by
      rintro mode member same
      exact builtin (List.contains_iff_mem.mpr (same ▸ member))
    have notDark : Theme.dark.name ≠ config.currentTheme := noMode .dark (by decide)
    have notLight : Theme.light.name ≠ config.currentTheme := noMode .light (by decide)
    rw [withBuiltins, config.withDark.withLight_adds.findTheme?_of_ne notLight,
      config.withDark_adds.findTheme?_of_ne notDark]

/-! ## Both repairs -/

section

variable {other : Config} (same : other.themes = config.themes)

include same

theorem themes_withDark_congr : other.withDark.themes = config.withDark.themes := by
  unfold withDark findTheme?
  rw [same]
  by_cases known : (config.themes.find? (·.name == Theme.dark.name)).isSome
  · rw [if_pos known, if_pos known, same]
  · rw [if_neg known, if_neg known]

theorem themes_withLight_congr : other.withLight.themes = config.withLight.themes := by
  unfold withLight findTheme?
  rw [same]
  by_cases known : (config.themes.find? (·.name == Theme.light.name)).isSome
  · rw [if_pos known, if_pos known, same]
  · rw [if_neg known, if_neg known]

theorem themes_withBuiltins_congr : other.withBuiltins.themes = config.withBuiltins.themes :=
  themes_withLight_congr (themes_withDark_congr same)

end

theorem sanitize_withBuiltins (config : Config) :
    config.withBuiltins.sanitize = config.sanitize.withBuiltins := by
  have themes : config.sanitize.withBuiltins.themes = config.withBuiltins.themes :=
    themes_withBuiltins_congr rfl
  have known := config.knowsCurrentTheme_withBuiltins
  rw [config.sanitize.withBuiltins_others, themes]
  rw [config.withBuiltins_others] at known ⊢
  simp only [sanitize, known]

theorem withBuiltins_idem (config : Config) :
    config.withBuiltins.withBuiltins = config.withBuiltins :=
  withBuiltins_eq_self config.withBuiltins_knowsDark config.withBuiltins_knowsLight

theorem sanitize_idem (config : Config) : config.sanitize.sanitize = config.sanitize :=
  config.sanitize_inRange.sanitize_eq_self

/-- What can be done to settings so that they make sense. -/
inductive Repair where
  | complete
  | sanitize
  deriving DecidableEq

namespace Repair

def apply : Repair → Config → Config
  | complete, config => config.withBuiltins
  | sanitize, config => config.sanitize

def run (repairs : List Repair) (config : Config) : Config :=
  repairs.foldl (fun config repair => repair.apply config) config

variable (repair : Repair) (repairs : List Repair) (config : Config)

theorem apply_idem : repair.apply (repair.apply config) = repair.apply config := by
  cases repair with
  | complete => exact config.withBuiltins_idem
  | sanitize => exact config.sanitize_idem

theorem apply_comm (other : Repair) :
    repair.apply (other.apply config) = other.apply (repair.apply config) := by
  cases repair <;> cases other
  · rfl
  · exact config.sanitize_withBuiltins.symm
  · exact config.sanitize_withBuiltins
  · rfl

theorem run_apply : run repairs (repair.apply config) = repair.apply (run repairs config) := by
  induction repairs generalizing config with
  | nil => rfl
  | cons next repairs inductionHypothesis =>
    calc run (next :: repairs) (repair.apply config)
        = run repairs (repair.apply (next.apply config)) := by rw [apply_comm]; rfl
      _ = repair.apply (run (next :: repairs) config) := inductionHypothesis _

/-- A repair has nothing to do after a run that it is part of. -/
theorem apply_run_of_mem {repair : Repair} {repairs : List Repair} (member : repair ∈ repairs) :
    repair.apply (run repairs config) = run repairs config := by
  induction repairs generalizing config with
  | nil => simp at member
  | cons next repairs inductionHypothesis =>
    rcases List.mem_cons.mp member with rfl | later
    · have first : run (repair :: repairs) config = repair.apply (run repairs config) :=
        run_apply repair repairs config
      rw [first, apply_idem]
    · exact inductionHypothesis (next.apply config) later

theorem run_of_fixed (fixed : ∀ repair : Repair, repair.apply config = config) :
    run repairs config = config := by
  induction repairs with
  | nil => rfl
  | cons next repairs inductionHypothesis =>
    have first : run (next :: repairs) config = run repairs (next.apply config) := rfl
    rw [first, fixed next, inductionHypothesis]

/-- A run of which both repairs are part can be taken to start with them; and what they lead to is
left alone by the rest of the run. -/
theorem run_eq_of_mem {repairs : List Repair} (completes : complete ∈ repairs)
    (sanitizes : sanitize ∈ repairs) : run repairs config = config.withBuiltins.sanitize := by
  have fixed (repair : Repair) :
      repair.apply config.withBuiltins.sanitize = config.withBuiltins.sanitize := by
    cases repair with
    | complete =>
      exact withBuiltins_eq_self config.withBuiltins_knowsDark config.withBuiltins_knowsLight
    | sanitize => exact sanitize_idem _
  calc run repairs config
      = complete.apply (run repairs config) := (apply_run_of_mem config completes).symm
    _ = run repairs config.withBuiltins := (run_apply complete repairs config).symm
    _ = sanitize.apply (run repairs config.withBuiltins) :=
        (apply_run_of_mem config.withBuiltins sanitizes).symm
    _ = run repairs config.withBuiltins.sanitize :=
        (run_apply sanitize repairs config.withBuiltins).symm
    _ = config.withBuiltins.sanitize := run_of_fixed repairs _ fixed

end Repair

/-- Completing keeps the themes there are in their order and adds those of the two themes that are
always known that are missing, so both are found, and what was found before is found again.
Completing and sanitizing settle at once and do not disturb each other, so both together, in any
order and however often, lead to one form of the settings. Sanitizing leaves the themes alone, and
all of the settings when they are in their ranges. -/
theorem repairs_settle (config : Config) :
    let completed := config.withBuiltins
    completed = { config with themes := completed.themes } ∧
      config.themes.Sublist completed.themes ∧
      completed.themes.Perm
        ([Theme.dark, .light].filter (fun theme => (config.findTheme? theme.name).isNone) ++
          config.themes) ∧
      (completed.findTheme? "Dark").isSome ∧
      (completed.findTheme? "Light").isSome ∧
      (∀ name theme, config.findTheme? name = some theme →
        completed.findTheme? name = some theme) ∧
      completed.withBuiltins = completed ∧
      config.sanitize.sanitize = config.sanitize ∧
      completed.sanitize = config.sanitize.withBuiltins ∧
      (∀ repairs, .complete ∈ repairs → .sanitize ∈ repairs →
        Repair.run repairs config = completed.sanitize) ∧
      config.sanitize.themes = config.themes ∧
      (config.InRange → config.sanitize = config) :=
  ⟨config.withBuiltins_others, config.themes_sublist_withBuiltins, config.themes_withBuiltins_perm,
    config.withBuiltins_knowsDark, config.withBuiltins_knowsLight,
    fun _ _ => findTheme?_withBuiltins_eq_some, config.withBuiltins_idem, config.sanitize_idem,
    config.sanitize_withBuiltins, fun _ => Repair.run_eq_of_mem config, rfl,
    InRange.sanitize_eq_self⟩

end Highlight.Config
