import Highlight.Proofs.Config.Saved
import Highlight.Proofs.Json.Lengths
import Highlight.Proofs.Json.Refused

/-!
Which settings can be loaded again once they are saved. A finite length is written as a numeral that
is accepted, whatever it is read as; any other is written as null, which is refused before the
repairs of such lengths are reached. So sanitizing has to come first.
-/

set_option autoImplicit false

namespace Highlight.Config

open Json (MembersStop ReadsAs RefusedAs Spacing StopsFor leadsTo_optional membersStop_optional
  prettyAt prettyAt_bool prettyAt_string toList_prettyAt_object)

variable {config : Config}

/-- Settings with finite lengths are read again, with other lengths at most. -/
theorem exists_readAgain (fontSize : config.fontSize.isFinite)
    (minHeight : config.minHeight.isFinite) (maxHeight : config.maxHeight.isFinite) :
    ∃ read, ReadAgain config read := by
  obtain ⟨readFontSize, fontSizeReads⟩ := ReadsAs.exists_single fontSize
  obtain ⟨readMinHeight, minHeightReads⟩ := ReadsAs.exists_single minHeight
  obtain ⟨readMaxHeight, maxHeightReads⟩ := ReadsAs.exists_single maxHeight
  exact ⟨{ config with
    fontSize := readFontSize, minHeight := readMinHeight, maxHeight := readMaxHeight },
    rfl, fontSize, minHeight, maxHeight, fontSizeReads, minHeightReads, maxHeightReads⟩

/-! ## Lengths that are not finite -/

theorem prettyAt_lengthJson_of_not_finite {length : Single} (notFinite : ¬length.isFinite)
    (level : Nat) : prettyAt level (lengthJson length) = "null" := by
  rw [lengthJson, if_neg notFinite, prettyAt]

def writtenParts (config : Config) : List (String × List Char) :=
  [("current_theme", .string config.currentTheme), ("font_size", lengthJson config.fontSize),
    ("show_line_numbers", .bool config.showLineNumbers), ("fill_height", .bool config.fillHeight),
    ("min_height", lengthJson config.minHeight), ("max_height", lengthJson config.maxHeight),
    ("default_language", .string config.defaultLanguage),
    ("themes", .array (config.themes.map Theme.toJson))].map fun member =>
      (member.1, (prettyAt 1 member.2).toList)

theorem toList_toText (config : Config) :
    config.toText.toList =
      (Spacing.lines 0).enclose '{' '}' (config.writtenParts.map (Spacing.lines 0).memberText) := by
  change (prettyAt 0 config.toJson).toList = _
  rw [toJson, toList_prettyAt_object]
  simp only [writtenParts, List.map_cons, List.map_nil, Spacing.memberText]

/-- The first length that is not finite is refused as null, after the settings before it. -/
theorem membersStop_writtenParts
    (notFinite : ¬(config.fontSize.isFinite ∧ config.minHeight.isFinite ∧
      config.maxHeight.isFinite)) :
    MembersStop (Spacing.lines 0) (Json.Decoder.member fields) (.wrongType "null" "f32")
      (standard, []) config.writtenParts := by
  have null {length : Single} (lengthNotFinite : ¬length.isFinite) :
      RefusedAs .single (prettyAt 1 (lengthJson length)).toList (.wrongType "null" "f32") := by
    rw [prettyAt_lengthJson_of_not_finite lengthNotFinite]
    exact RefusedAs.numeric_null _ _
  unfold writtenParts
  simp only [List.map_cons, List.map_nil, prettyAt_string, prettyAt_bool]
  refine .later (leadsTo_optional _ rfl (by simp) (.text config.currentTheme) _) ?_
  by_cases fontSize : config.fontSize.isFinite
  case neg => exact membersStop_optional _ rfl (by simp) (null fontSize) _ _
  obtain ⟨readFontSize, fontSizeReads⟩ := ReadsAs.exists_single fontSize
  rw [prettyAt_lengthJson fontSize]
  refine .later (leadsTo_optional _ rfl (by simp) fontSizeReads _) ?_
  refine .later (leadsTo_optional _ rfl (by simp) (.flag config.showLineNumbers) _) ?_
  refine .later (leadsTo_optional _ rfl (by simp) (.flag config.fillHeight) _) ?_
  by_cases minHeight : config.minHeight.isFinite
  case neg => exact membersStop_optional _ rfl (by simp) (null minHeight) _ _
  obtain ⟨readMinHeight, minHeightReads⟩ := ReadsAs.exists_single minHeight
  rw [prettyAt_lengthJson minHeight]
  refine .later (leadsTo_optional _ rfl (by simp) minHeightReads _) ?_
  have maxHeight : ¬config.maxHeight.isFinite := fun finite =>
    notFinite ⟨fontSize, minHeight, finite⟩
  exact membersStop_optional _ rfl (by simp) (null maxHeight) _ _

theorem stopsFor_ofText
    (notFinite : ¬(config.fontSize.isFinite ∧ config.minHeight.isFinite ∧
      config.maxHeight.isFinite)) :
    StopsFor (.wrongType "null" "f32") (ofText config.toText) := by
  refine RefusedAs.readAll ?_
  rw [toList_toText]
  exact RefusedAs.record (Spacing.lines 0) "struct EditorConfig"
    (membersStop_writtenParts notFinite)

/-! ## Saving and loading -/

/-- Settings that are saved can be loaded again just when their lengths are finite, and come back
completed and sanitized, with no change before but in the lengths. Any other length makes the whole
file unreadable, for the one reason that null is no length. Sanitized settings are always loaded. -/
theorem load_save_iff_isFinite (config : Config) (slot : Slot) (free : slot ≠ .blocked) :
    ((∃ loaded, load (save config slot) = .ok loaded) ↔
      config.fontSize.isFinite ∧ config.minHeight.isFinite ∧ config.maxHeight.isFinite) ∧
    (∀ loaded, load (save config slot) = .ok loaded →
      ∃ fontSize minHeight maxHeight, loaded =
        ({ config with fontSize, minHeight, maxHeight } : Config).withBuiltins.sanitize) ∧
    (∀ error, load (save config slot) = .error error →
      ∃ failure, error = .malformed failure ∧ failure.cause = .wrongType "null" "f32") ∧
    ∃ loaded, load (save config.sanitize slot) = .ok loaded := by
  -- This is used for the settings as they are, and again when they have been sanitized.
  have accepted {config : Config} (finite : config.fontSize.isFinite ∧
      config.minHeight.isFinite ∧ config.maxHeight.isFinite) :
      ∃ read, ReadAgain config read ∧ load (save config slot) = .ok read.withBuiltins.sanitize := by
    obtain ⟨fontSize, minHeight, maxHeight⟩ := finite
    obtain ⟨read, again⟩ := exists_readAgain fontSize minHeight maxHeight
    exact ⟨read, again, again.load_eq free⟩
  have inRange := config.sanitize_inRange
  obtain ⟨sanitized, -, sanitizedLoads⟩ :=
    accepted ⟨inRange.fontSize_finite, inRange.minHeight_finite, inRange.maxHeight_finite⟩
  by_cases finite : config.fontSize.isFinite ∧ config.minHeight.isFinite ∧
      config.maxHeight.isFinite
  · obtain ⟨read, again, loads⟩ := accepted finite
    refine ⟨iff_of_true ⟨_, loads⟩ finite, ?_, ?_, _, sanitizedLoads⟩
    · intro loaded loadedEq
      refine ⟨read.fontSize, read.minHeight, read.maxHeight, ?_⟩
      rw [← again.others]
      exact Except.ok.inj (loadedEq.symm.trans loads)
    · intro error fails
      nomatch fails.symm.trans loads
  · obtain ⟨failure, refused, cause⟩ := stopsFor_ofText finite
    have fails : load (save config slot) = .error (.malformed failure) := by
      rw [save_eq config free]
      exact load_toUTF8_of_refused refused
    have notLoaded : ¬∃ loaded, load (save config slot) = .ok loaded := by
      rintro ⟨loaded, loads⟩
      nomatch fails.symm.trans loads
    refine ⟨iff_of_false notLoaded finite, ?_, ?_, _, sanitizedLoads⟩
    · exact fun loaded loads => absurd ⟨loaded, loads⟩ notLoaded
    · intro error errorEq
      exact ⟨failure, Except.error.inj (errorEq.symm.trans fails), cause⟩

/-- Settings with the greatest length there is can be loaded again. -/
theorem load_save_greatest_length :
    let longest := { standard with maxHeight := ⟨false, 0x7F7FFFFF⟩ }
    ∃ loaded, load (save longest .missing) = .ok loaded := by
  intro longest
  exact (load_save_iff_isFinite longest .missing (by simp)).1.mpr (by decide +kernel)

/-- A size that is no number is replaced by sanitizing, but a file with it is not loaded. -/
theorem load_save_nan :
    let config := { standard with fontSize := .nan }
    config.sanitize = standard ∧
      (∃ failure, load (save config .missing) = .error (.malformed failure) ∧
        failure.cause = .wrongType "null" "f32") ∧
      ¬∃ loaded, load (save config .missing) = .ok loaded := by
  intro config
  have notFinite : ¬(config.fontSize.isFinite ∧ config.minHeight.isFinite ∧
      config.maxHeight.isFinite) := by decide +kernel
  obtain ⟨failure, failed, cause⟩ := stopsFor_ofText notFinite
  have fails : load (save config .missing) = .error (.malformed failure) := by
    rw [save_eq config (by simp)]
    exact load_toUTF8_of_refused failed
  refine ⟨by decide +kernel, ⟨failure, fails, cause⟩, ?_⟩
  rintro ⟨loaded, loads⟩
  nomatch fails.symm.trans loads

end Highlight.Config
