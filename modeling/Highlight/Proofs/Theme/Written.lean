import Highlight.Theme.Basic
import Highlight.Proofs.Hexadecimal
import Highlight.Proofs.Json.Enclosed

/-!
Themes that were written are read back: every color with its opacity, in all sections.
-/

set_option autoImplicit false

namespace Highlight

open Text
open Json (ReadsAs Spacing WrittenField prettyAt prettyAt_bool prettyAt_string renderString
  toList_prettyAt_object)

/-! ## Colors -/

theorem upperHexDigit_ne_plus : ∀ number < 16, upperHexDigit number ≠ '+' := by
  decide

theorem isBlank_upperHexDigit : ∀ number < 16, isBlank (upperHexDigit number) = false := by
  decide

theorem trim_eq_self {text : List Char} (noBlanks : ∀ c ∈ text, isBlank c = false) :
    trim text = text := by
  have kept (part : List Char) (within : ∀ c ∈ part, isBlank c = false) :
      part.dropWhile isBlank = part := by
    cases part with
    | nil => rfl
    | cons c rest => exact List.dropWhile_cons_of_neg (by simp [within c])
  rw [trim, trimStart, kept text noBlanks, trimEnd, kept text.reverse, List.reverse_reverse]
  intro c member
  exact noBlanks c (List.mem_reverse.mp member)

namespace Color

theorem byte?_upperHexByte (byte : UInt8) : byte? (upperHexByte byte) = some byte := by
  have small := byte.toNat_lt
  have high : byte.toNat / 16 < 16 := by omega
  have low : byte.toNat % 16 < 16 := by omega
  have value : byte.toNat / 16 * 16 + byte.toNat % 16 = byte.toNat := by omega
  rw [upperHexByte, byte?]
  simp only [if_neg (upperHexDigit_ne_plus _ high), hexDigit?_upperHexDigit _ high,
    hexDigit?_upperHexDigit _ low, Option.bind_eq_bind, Option.bind_some, value]
  exact congrArg some UInt8.ofNat_toNat

theorem isBlank_of_mem_upperHexByte {byte : UInt8} {c : Char} (member : c ∈ upperHexByte byte) :
    isBlank c = false := by
  have small := byte.toNat_lt
  rcases List.mem_pair.mp member with rfl | rfl
  · exact isBlank_upperHexDigit _ (by omega)
  · exact isBlank_upperHexDigit _ (by omega)

theorem ofHex?_toHex (color : Color) : ofHex? color.toHex = some color := by
  have red := byte?_upperHexByte color.red
  have green := byte?_upperHexByte color.green
  have blue := byte?_upperHexByte color.blue
  have alpha := byte?_upperHexByte color.alpha
  unfold upperHexByte at red green blue alpha
  unfold ofHex? toHex upperHexByte
  by_cases full : color.alpha = 255
  · simp [full, ofDigits?, red, green, blue, opaqueColor]
    rw [← full]
  · simp [full, ofDigits?, red, green, blue, alpha]

theorem parse_toHex (color : Color) : parse color.toHex = .ok color := by
  have noBlanks : ∀ c ∈ color.toHex.toList, isBlank c = false := by
    intro c member
    simp only [toHex, String.toList_ofList, List.mem_cons, List.mem_append] at member
    rcases member with rfl | ((isRed | isGreen) | isBlue) | isAlpha
    · decide
    · exact isBlank_of_mem_upperHexByte isRed
    · exact isBlank_of_mem_upperHexByte isGreen
    · exact isBlank_of_mem_upperHexByte isBlue
    · split at isAlpha
      · contradiction
      · exact isBlank_of_mem_upperHexByte isAlpha
  rw [parse, trim_eq_self noBlanks, String.ofList_toList, ofHex?_toHex]

theorem readsAs (color : Color) (level : Nat) :
    ReadsAs decoder (prettyAt level color.toJson).toList color :=
  .meaningful color.parse_toHex

end Color

/-! ## Sections -/

namespace ColorField

variable {Section : Type}

theorem readsAs_section (description : String) {fields : List (ColorField Section)}
    (distinct : (fields.map (·.name)).Nodup) {colors fallback : Section}
    (complete : fields.foldl (fun result field => field.set result (field.get colors)) fallback =
      colors) (level : Nat) :
    ReadsAs (sectionDecoder description fields fallback)
      (prettyAt level (sectionJson fields colors)).toList colors := by
  let write (field : ColorField Section) : WrittenField Section :=
    .optional field.name ((field.get colors).readsAs (level + 1)) field.set
  have decoders : (fields.map write).map (·.field) =
      fields.map fun field => .optional field.name Color.decoder field.set := by
    rw [List.map_map]
    rfl
  have names : ((fields.map fun field =>
      Json.Decoder.Field.optional field.name Color.decoder field.set).map (·.name)).Nodup := by
    rw [List.map_map]
    exact distinct
  have result : WrittenField.result (fields.map write) fallback = colors := by
    rw [WrittenField.result, List.foldl_map]
    exact complete
  have texts : (fields.map write).map (·.memberText (Spacing.lines level)) =
      fields.map fun field => (renderString field.name).toList ++ ':' ::
        ((Spacing.lines level).gap ++ (prettyAt (level + 1) (field.get colors).toJson).toList) := by
    rw [List.map_map]
    exact List.map_congr_left fun field _ => WrittenField.memberText_optional _ _ _ _
  have reads := ReadsAs.record (Spacing.lines level) description names decoders result
  rw [texts] at reads
  rw [sectionJson, toList_prettyAt_object, List.map_map]
  exact reads

end ColorField

variable (level : Nat)

theorem SurfaceColors.readsAs (colors : SurfaceColors) :
    ReadsAs decoder (prettyAt level colors.toJson).toList colors :=
  ColorField.readsAs_section _ (by decide) rfl level

theorem SyntaxColors.readsAs (colors : SyntaxColors) :
    ReadsAs decoder (prettyAt level colors.toJson).toList colors :=
  ColorField.readsAs_section _ (by decide) rfl level

theorem CharacterColors.readsAs (colors : CharacterColors) :
    ReadsAs decoder (prettyAt level colors.toJson).toList colors :=
  ColorField.readsAs_section _ (by decide) rfl level

theorem WindowColors.readsAs (colors : WindowColors) :
    ReadsAs decoder (prettyAt level colors.toJson).toList colors :=
  ColorField.readsAs_section _ (by decide) rfl level

/-! ## Themes -/

namespace Theme

def written (theme : Theme) : List (WrittenField Theme) :=
  [.required "name" (.text theme.name) fun theme name => { theme with name := name },
    .required "dark_mode" (.flag theme.isDark) fun theme isDark => { theme with isDark := isDark },
    .optional "surface" (theme.surface.readsAs level) fun theme colors =>
      { theme with surface := colors },
    .optional "syntax" (theme.syntaxColors.readsAs level) fun theme colors =>
      { theme with syntaxColors := colors },
    .optional "random" (theme.characters.readsAs level) fun theme colors =>
      { theme with characters := colors },
    .optional "chrome" (theme.window.readsAs level) fun theme colors =>
      { theme with window := colors }]

theorem readsAs (theme : Theme) : ReadsAs decoder (prettyAt level theme.toJson).toList theme := by
  have decoders : (theme.written (level + 1)).map (·.field) = fields := rfl
  have result : WrittenField.result (theme.written (level + 1)) dark = theme := by
    simp only [WrittenField.result, written, List.foldl_cons, List.foldl_nil,
      WrittenField.set_required, WrittenField.set_optional]
  have reads :=
    ReadsAs.record (Spacing.lines level) "struct ThemeDefinition" (by decide) decoders result
  simp only [written, List.map_cons, List.map_nil, WrittenField.memberText_required,
    WrittenField.memberText_optional] at reads
  rw [toJson, toList_prettyAt_object]
  simp only [List.map_cons, List.map_nil, prettyAt_string, prettyAt_bool]
  exact reads

end Theme

end Highlight
