import DesignLint.Lint
import DesignLint.Proofs.Config.Outcome
import DesignLint.Proofs.Text.UpperCase

/-! # Colours that are always allowed

A configuration holds its colours in upper case, a palette puts them in upper case again, and a
colour is looked up in upper case. None of this changes what the colours allow:

* `Palette.ofStylesheet_map_upper`: a palette of colours that are in upper case already;
* `Config.ofMapping_alwaysAllowed`: the configuration that lists the colours;
* `Lint.run_of_alwaysAllowed`: a run with this configuration goes by the colours as they are
  listed. -/

namespace DesignLint

open Text

/-! ## In the palette -/

namespace Palette

/-- Upper-casing a list of colours twice is upper-casing it once: every colour stays in its place,
and no two become one. -/
theorem map_upper_map_upper (colors : List Text) :
    (colors.map upper).map upper = colors.map upper := by
  rw [List.map_map]
  exact List.map_congr_left fun color _ => upper_upper color

/-- **Colours in upper case** make up the palette that they make up as they are written. -/
theorem ofStylesheet_map_upper (css : Text) (colors : List Text) :
    ofStylesheet css (colors.map upper) = ofStylesheet css colors := by
  rw [ofStylesheet, ofStylesheet, map_upper_map_upper]

/-- A palette allows all that is the same in upper case as one of the colours that are always
allowed. -/
theorem allows_of_upper_eq {css color other : Text} {colors : List Text} (hmem : color ∈ colors)
    (h : upper other = upper color) : (ofStylesheet css colors).allows other = true := by
  rw [allows_iff, mem_ofStylesheet, h]
  exact .inl (List.mem_map_of_mem hmem)

end Palette

/-! ## In the configuration -/

/-- A list of texts gives these texts. -/
theorem Value.lists_map_text (texts : List Text) :
    Value.Lists (.list (texts.map .text)) texts := by
  refine ⟨_, rfl, List.forall₂_map_left_iff.2 (List.forall₂_same.2 fun s _ => ?_)⟩
  exact ⟨nofun, rfl⟩

namespace Config

/-- A mapping with one key that names a setting gives the usual configuration with this setting. -/
theorem ofMapping_singleton (setting : Setting) (value : Value) :
    ofMapping [(.text setting.key, value)] = set {} setting value := by
  have hknown : unknownKeys? [.text setting.key] = none :=
    unknownKeys?_eq_none_iff.2 (List.forall_mem_singleton.2 ⟨setting, rfl⟩)
  -- No entry is left behind the one that is read.
  have hset : setAll {} [(.text setting.key, value)] = set {} setting value := by
    rw [setAll, Setting.ofKey?_key]
    exact bind_pure _
  rw [ofMapping, List.map_singleton, hknown]
  exact hset

/-- **The configuration that lists colours** holds them in upper case. -/
theorem ofMapping_alwaysAllowed (colors : List Text) :
    ofMapping [(.text Setting.alwaysAllowed.key, .list (colors.map .text))]
      = .ok { alwaysAllowed := colors.map upper } := by
  have hread : textList Setting.alwaysAllowed.key (.list (colors.map .text)) = .ok colors :=
    textList_eq_ok_iff.2 (Value.lists_map_text colors)
  rw [ofMapping_singleton, set, hread]
  rfl

end Config

/-! ## In a run -/

namespace Lint

/-- A run with some colours that are always allowed goes by a palette of these colours, whatever
else the configuration says. -/
theorem run_congr {tree : FileTree} {root : Path} {config : Config} {colors : List Text}
    (h : ∀ css, Palette.ofStylesheet css config.alwaysAllowed = Palette.ofStylesheet css colors)
    (checks : List Check) :
    run tree root config checks = do
      let css ← tokenSourceAt tree (tokenSourcePath root config)
      let palette := Palette.ofStylesheet css colors
      let names ← candidates tree root config.extension
      return ⟨palette.size, ← names.mapM (pageResult tree root palette config checks)⟩ := by
  simp only [run, paletteAt, h, bind_assoc, pure_bind]

/-- **Colours that are always allowed** are upper-cased in the configuration and again in the
palette, which is upper-casing them once: every one stays in its place, a palette is that of the
colours as they are listed, and a run with the configuration goes by this palette. The palette
allows all that is the same in upper case as one of the colours. -/
theorem run_of_alwaysAllowed (colors : List Text) :
    ∃ config, Config.ofMapping
        [(.text "always_allowed_colors".toList, .list (colors.map .text))] = .ok config ∧
      config.alwaysAllowed = colors.map upper ∧
      config.alwaysAllowed.map upper = colors.map upper ∧
      (∀ css, Palette.ofStylesheet css config.alwaysAllowed = Palette.ofStylesheet css colors) ∧
      (∀ css, ∀ color ∈ colors, ∀ other, upper other = upper color →
        (Palette.ofStylesheet css config.alwaysAllowed).allows other = true) ∧
      ∀ tree root checks, run tree root config checks = do
        let css ← tokenSourceAt tree (tokenSourcePath root config)
        let palette := Palette.ofStylesheet css colors
        let names ← candidates tree root config.extension
        return ⟨palette.size, ← names.mapM (pageResult tree root palette config checks)⟩ := by
  have hpalette : ∀ css, Palette.ofStylesheet css (colors.map upper)
      = Palette.ofStylesheet css colors := fun css => Palette.ofStylesheet_map_upper css colors
  refine ⟨_, Config.ofMapping_alwaysAllowed colors, rfl, Palette.map_upper_map_upper colors,
    hpalette, fun css color hcolor other hother => ?_, fun tree root => run_congr hpalette⟩
  rw [hpalette]
  exact Palette.allows_of_upper_eq hcolor hother

end Lint

end DesignLint
