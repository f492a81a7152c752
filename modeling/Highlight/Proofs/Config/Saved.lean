import Highlight.Proofs.Config.Sensible
import Highlight.Proofs.Theme.Written

/-!
Settings that are saved can be loaded again. They come back completed and sanitized, which leaves
those alone that had been loaded before; and the default settings in a new file are among them.
-/

set_option autoImplicit false

namespace Highlight.Config

open Json (ReadsAs ReadsBack Spacing WrittenField prettyAt prettyAt_string prettyAt_bool
  toList_prettyAt_array toList_prettyAt_object)

theorem readsAs_themes (themes : List Theme) (level : Nat) :
    ReadsAs (.listOf Theme.decoder) (prettyAt level (.array (themes.map Theme.toJson))).toList
      themes := by
  rw [toList_prettyAt_array, List.map_map]
  exact .listOf (.lines level) fun theme _ => theme.readsAs (level + 1)

theorem prettyAt_lengthJson {length : Single} (finite : length.isFinite) (level : Nat) :
    prettyAt level (lengthJson length) = (Numeral.length length).render := by
  rw [lengthJson, if_pos finite, prettyAt]

/-- Settings with finite lengths, and what is read where they are written: the same settings but for
the lengths, which are those that their numerals are read as. -/
structure ReadAgain (config read : Config) : Prop where
  others : read = { config with
    fontSize := read.fontSize, minHeight := read.minHeight, maxHeight := read.maxHeight }
  fontSize_finite : config.fontSize.isFinite
  minHeight_finite : config.minHeight.isFinite
  maxHeight_finite : config.maxHeight.isFinite
  fontSize : ReadsAs .single (Numeral.length config.fontSize).render.toList read.fontSize
  minHeight : ReadsAs .single (Numeral.length config.minHeight).render.toList read.minHeight
  maxHeight : ReadsAs .single (Numeral.length config.maxHeight).render.toList read.maxHeight

namespace ReadAgain

variable {config read : Config}

def written (again : ReadAgain config read) (level : Nat) : List (WrittenField Config) :=
  [.optional "current_theme" (.text config.currentTheme) fun config name =>
      { config with currentTheme := name },
    .optional "font_size" again.fontSize fun config size => { config with fontSize := size },
    .optional "show_line_numbers" (.flag config.showLineNumbers) fun config isOn =>
      { config with showLineNumbers := isOn },
    .optional "fill_height" (.flag config.fillHeight) fun config fill =>
      { config with fillHeight := fill },
    .optional "min_height" again.minHeight fun config height =>
      { config with minHeight := height },
    .optional "max_height" again.maxHeight fun config height =>
      { config with maxHeight := height },
    .optional "default_language" (.text config.defaultLanguage) fun config name =>
      { config with defaultLanguage := name },
    .optional "themes" (readsAs_themes config.themes level) fun config themes =>
      { config with themes := themes }]

theorem readsAs (again : ReadAgain config read) (level : Nat) :
    ReadsAs decoder (prettyAt level config.toJson).toList read := by
  have decoders : (again.written (level + 1)).map (·.field) = fields := rfl
  have result : WrittenField.result (again.written (level + 1)) standard = read := by
    simp only [WrittenField.result, written, List.foldl_cons, List.foldl_nil,
      WrittenField.set_optional]
    exact again.others.symm
  have reads :=
    ReadsAs.record (Spacing.lines level) "struct EditorConfig" (by decide) decoders result
  simp only [written, List.map_cons, List.map_nil, WrittenField.memberText_optional] at reads
  rw [toJson, toList_prettyAt_object]
  simp only [List.map_cons, List.map_nil, prettyAt_string, prettyAt_bool,
    prettyAt_lengthJson again.fontSize_finite, prettyAt_lengthJson again.minHeight_finite,
    prettyAt_lengthJson again.maxHeight_finite]
  exact reads

end ReadAgain

theorem save_eq (config : Config) {slot : Slot} (free : slot ≠ .blocked) :
    save config slot = .file config.toText.toUTF8 := by
  cases slot with
  | file content => rfl
  | missing => rfl
  | blocked => contradiction

theorem fromUTF8?_toUTF8 (text : String) : String.fromUTF8? text.toUTF8 = some text := by
  simp only [String.fromUTF8?]
  exact dif_pos text.isValidUTF8

theorem load_toUTF8 {text : String} {read : Config} (accepted : ofText text = .ok read) :
    load (.file text.toUTF8) = .ok read.withBuiltins.sanitize := by
  rw [load, fromUTF8?_toUTF8]
  simp only [accepted]

theorem load_toUTF8_of_refused {text : String} {failure : Json.Failure}
    (refused : ofText text = .error failure) :
    load (.file text.toUTF8) = .error (.malformed failure) := by
  rw [load, fromUTF8?_toUTF8]
  simp only [refused]

/-- What is saved comes back as it is read, completed and sanitized. -/
theorem ReadAgain.load_eq {config read : Config} (again : ReadAgain config read) {slot : Slot}
    (free : slot ≠ .blocked) : load (save config slot) = .ok read.withBuiltins.sanitize := by
  rw [save_eq config free]
  exact load_toUTF8 (again.readsAs 0).readAll

/-- Settings whose lengths can be written and read again. -/
structure Writable (config : Config) : Prop where
  fontSize_finite : config.fontSize.isFinite
  minHeight_finite : config.minHeight.isFinite
  maxHeight_finite : config.maxHeight.isFinite
  fontSize_readsBack : ReadsBack config.fontSize
  minHeight_readsBack : ReadsBack config.minHeight
  maxHeight_readsBack : ReadsBack config.maxHeight

namespace Writable

variable {config : Config}

theorem readAgain (writable : config.Writable) : ReadAgain config config where
  others := rfl
  fontSize_finite := writable.fontSize_finite
  minHeight_finite := writable.minHeight_finite
  maxHeight_finite := writable.maxHeight_finite
  fontSize := .single writable.fontSize_readsBack
  minHeight := .single writable.minHeight_readsBack
  maxHeight := .single writable.maxHeight_readsBack

/-- What is saved comes back completed and sanitized. -/
theorem load_eq (writable : config.Writable) {slot : Slot} (free : slot ≠ .blocked) :
    load (save config slot) = .ok config.withBuiltins.sanitize :=
  writable.readAgain.load_eq free

end Writable

/-- Whatever finite lengths they have, settings that are saved are loaded completed and sanitized,
and settings that had been loaded are loaded as they were, if their lengths read back. -/
theorem load_save (config : Config) (slot : Slot) (free : slot ≠ .blocked)
    (fontSize : ReadsBack config.fontSize) (minHeight : ReadsBack config.minHeight)
    (maxHeight : ReadsBack config.maxHeight) :
    (config.fontSize.isFinite → config.minHeight.isFinite → config.maxHeight.isFinite →
      load (save config slot) = .ok config.withBuiltins.sanitize) ∧
    ∀ source, load source = .ok config → load (save config slot) = .ok config := by
  constructor
  · intro fontSizeFinite minHeightFinite maxHeightFinite
    have writable : config.Writable :=
      ⟨fontSizeFinite, minHeightFinite, maxHeightFinite, fontSize, minHeight, maxHeight⟩
    exact writable.load_eq free
  · intro source loaded
    have sensible := sensible_of_load loaded
    have writable : config.Writable :=
      ⟨sensible.fontSize_finite, sensible.minHeight_finite, sensible.maxHeight_finite, fontSize,
        minHeight, maxHeight⟩
    rw [writable.load_eq free, sensible.loaded_eq_self]

/-- Settings with lengths that no short decimal gives exactly and with a theme of their own, but
without the dark one. -/
def nightly : Config where
  currentTheme := "Nächte \"\\\x01\n☾\""
  fontSize := ⟨false, 0x3DCCCCCD⟩
  showLineNumbers := false
  fillHeight := true
  minHeight := ⟨false, 0x42F6E979⟩
  maxHeight := ⟨false, 0x501502F9⟩
  defaultLanguage := "JSON"
  themes := [{ Theme.dark with
    name := "Nächte \"\\\x01\n☾\""
    surface := { SurfaceColors.dark with caret := ⟨1, 2, 3, 0⟩ } }]

theorem load_save_nightly :
    let loaded := nightly.withBuiltins.sanitize
    (ReadsBack nightly.fontSize ∧ ReadsBack nightly.minHeight ∧ ReadsBack nightly.maxHeight ∧
        load (save nightly .missing) = .ok loaded) ∧
      (ReadsBack loaded.fontSize ∧ ReadsBack loaded.minHeight ∧ ReadsBack loaded.maxHeight ∧
        load (save loaded (save nightly .missing)) = .ok loaded) := by
  intro loaded
  have fontSize : ReadsBack nightly.fontSize := by decide +kernel
  have minHeight : ReadsBack nightly.minHeight := by decide +kernel
  have maxHeight : ReadsBack nightly.maxHeight := by decide +kernel
  have loadedFontSize : ReadsBack loaded.fontSize := by decide +kernel
  have loadedMinHeight : ReadsBack loaded.minHeight := by decide +kernel
  have loadedMaxHeight : ReadsBack loaded.maxHeight := by decide +kernel
  have first := (load_save nightly .missing (by simp) fontSize minHeight maxHeight).1
    (by decide +kernel) (by decide +kernel) (by decide +kernel)
  have again := (load_save loaded (save nightly .missing) (by simp [save]) loadedFontSize
    loadedMinHeight loadedMaxHeight).2 (save nightly .missing) first
  exact ⟨⟨fontSize, minHeight, maxHeight, first⟩,
    ⟨loadedFontSize, loadedMinHeight, loadedMaxHeight, again⟩⟩

/-! ## The file of an editor -/

theorem standard_writable : standard.Writable := by
  constructor <;> decide +kernel

theorem load_save_standard : load (save standard .missing) = .ok standard := by
  rw [standard_writable.load_eq (by simp), standard_sensible.loaded_eq_self]

/-- Loading leaves what is there as it is, but makes a file with the default settings where there
is none; and however often settings are loaded, they are the ones that were loaded first. -/
theorem loadOrCreate_settles (slot : Slot) :
    (slot ≠ .missing → (loadOrCreate slot).2 = slot) ∧
      (slot = .missing → load (loadOrCreate slot).2 = .ok standard) ∧
      loadOrCreate (loadOrCreate slot).2 = loadOrCreate slot := by
  have created : loadOrCreate .missing = (standard, save standard .missing) := rfl
  cases slot with
  | file content => exact ⟨fun _ => rfl, nofun, rfl⟩
  | blocked => exact ⟨fun _ => rfl, nofun, rfl⟩
  | missing =>
    rw [created]
    dsimp only
    refine ⟨fun present => absurd rfl present, fun _ => load_save_standard, ?_⟩
    -- The file that was made is there now, so it is loaded.
    have reloaded : loadOrCreate (save standard .missing) =
        ((load (save standard .missing)).toOption.getD standard, save standard .missing) := rfl
    rw [reloaded, load_save_standard]
    rfl

end Highlight.Config
