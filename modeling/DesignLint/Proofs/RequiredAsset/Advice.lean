import DesignLint.Proofs.Config.Outcome
import DesignLint.Proofs.LongerPage
import DesignLint.Proofs.RequiredAsset

/-! # Pages that follow the advice

A finding about a missing asset names what the page should mention. A page that mentions it has
followed the advice:

* `Check.Settles`: the finding is gone then;
* `Config.SpellsFont`: the name of the brand font holds one of its spellings;
* `RequiredAsset.settles_iff_of_ofMapping`: stylesheets are always settled in this way, and the
  brand font just where its name holds one of its spellings. -/

namespace DesignLint

/-- The page with the value of a finding at its end has no finding of that kind with that value. -/
def Check.Settles (check : Check) (page : Page) (f : Finding) : Prop :=
  ∃ found, check.inspect (page.append f.value) = .ok found ∧
    ∀ g ∈ found, ¬ (g.kind = f.kind ∧ g.value = f.value)

/-- The name of the brand font holds one of its spellings. -/
def Config.SpellsFont (config : Config) : Prop :=
  ∃ spelling ∈ config.fontSpellings, spelling <:+: config.requiredFont

namespace Config

/-- The house rules do. -/
theorem spellsFont_default : SpellsFont {} :=
  ⟨"Space Grotesk".toList, by decide, List.infix_rfl⟩

/-- **So does a mapping that names neither the brand font nor its spellings.** -/
theorem spellsFont_of_absent {entries : List (Value × Value)} {config : Config}
    (h : ofMapping entries = .ok config)
    (hfont : .text Setting.requiredFont.key ∉ entries.map (·.1))
    (hspellings : .text Setting.fontSpellings.key ∉ entries.map (·.1)) : config.SpellsFont := by
  rw [ofMapping] at h
  split at h
  · cases h
  · have hrequired := content_of_setAll_of_absent h hfont
    have hspelled := content_of_setAll_of_absent h hspellings
    change config.requiredFont = Config.requiredFont {} at hrequired
    change config.fontSpellings = Config.fontSpellings {} at hspelled
    rw [SpellsFont, hrequired, hspelled]
    exact spellsFont_default

end Config

namespace RequiredAsset

open Text

/-- **A stylesheet is not missing where its name was added.** -/
theorem settles_of_mem_sheetFindings {page : Page} {f : Finding} (hf : f ∈ sheetFindings page) :
    sheetCheck.Settles page f := by
  refine ⟨_, rfl, fun g hg hsame => ?_⟩
  rw [sheetFindings_eq] at hf hg
  obtain ⟨sheet, -, rfl⟩ := List.mem_map.1 hf
  obtain ⟨other, hother, rfl⟩ := List.mem_map.1 hg
  -- The other stylesheet has the name that was added.
  have hname : other.name = sheet.name := hsame.2
  have hmissing := of_decide_eq_true (List.mem_filter.1 hother).2
  exact hmissing (hname ▸ (List.suffix_append page.text sheet.name).isInfix)

/-- **The brand font is not missing where its name was added** just if one of its spellings is part
of the text then. -/
theorem settles_iff_of_mem_fontFindings {page : Page} {f : Finding} (hf : f ∈ fontFindings page) :
    fontCheck.Settles page f ↔ ∃ spelling ∈ page.config.fontSpellings,
      spelling <:+: page.text ++ page.config.requiredFont := by
  obtain ⟨message, rfl⟩ := eq_finding_of_mem_fontFindings hf
  -- The longer page has the finding again just if it mentions no spelling either.
  rcases fontFindings_cases (page.append page.config.requiredFont) with
    ⟨hnone, hspelled⟩ | ⟨again, hone, hunspelled⟩
  · refine iff_of_true ⟨_, rfl, fun g hg => ?_⟩ hspelled
    have hg' : g ∈ fontFindings (page.append page.config.requiredFont) := hg
    rw [hnone] at hg'
    exact absurd hg' List.not_mem_nil
  · refine iff_of_false ?_ fun ⟨spelling, hspelling, hpart⟩ => hunspelled spelling hspelling hpart
    rintro ⟨found, hfound, hsettled⟩
    obtain rfl : fontFindings (page.append page.config.requiredFont) = found :=
      Except.ok.inj hfound
    rw [hone, List.forall_mem_singleton] at hsettled
    exact hsettled ⟨rfl, rfl⟩

/-- **Adding the name of the brand font helps on all pages** just if the name holds one of its
spellings. -/
theorem forall_settles_iff_spellsFont {config : Config} :
    (∀ page : Page, page.config = config → ∀ f ∈ fontFindings page, fontCheck.Settles page f) ↔
      config.SpellsFont := by
  constructor
  · intro h
    -- A page without text mentions the font only if one of its spellings is empty.
    let page : Page := ⟨[], [], .empty, config⟩
    rcases fontFindings_cases page with ⟨-, spelling, hspelling, hpart⟩ | ⟨message, hone, -⟩
    · obtain rfl : spelling = [] := List.infix_nil.1 hpart
      exact ⟨[], hspelling, List.nil_infix⟩
    · have hmem : page.finding 0 .missingFont page.config.requiredFont message
          ∈ fontFindings page := by
        rw [hone]
        exact List.mem_singleton_self _
      exact (settles_iff_of_mem_fontFindings hmem).1 (h page rfl _ hmem)
  · rintro ⟨spelling, hspelling, hpart⟩ page rfl f hf
    refine (settles_iff_of_mem_fontFindings hf).2 ⟨spelling, hspelling, ?_⟩
    exact hpart.trans (List.suffix_append page.text page.config.requiredFont).isInfix

/-- **Pages that follow the advice**, under the configuration of a mapping. A stylesheet whose name
was added is not missing any more. The brand font is not missing any more if a spelling of it is
part of the text with its name; this is so on all pages just if its name holds one of its spellings,
as it does if the mapping names neither. -/
theorem settles_iff_of_ofMapping {entries : List (Value × Value)} {config : Config}
    (h : Config.ofMapping entries = .ok config) :
    (∀ page : Page, page.config = config → ∀ missing, sheetCheck.inspect page = .ok missing →
      ∀ f ∈ missing, f.kind = .missingStylesheet ∧ sheetCheck.Settles page f) ∧
    (∀ page : Page, page.config = config → ∀ missing, fontCheck.inspect page = .ok missing →
      ∀ f ∈ missing, f.kind = .missingFont ∧ f.value = config.requiredFont ∧
        (fontCheck.Settles page f ↔ ∃ spelling ∈ config.fontSpellings,
          spelling <:+: page.text ++ config.requiredFont)) ∧
    ((∀ page : Page, page.config = config → ∀ missing, fontCheck.inspect page = .ok missing →
      ∀ f ∈ missing, fontCheck.Settles page f) ↔ config.SpellsFont) ∧
    (.text Config.Setting.requiredFont.key ∉ entries.map (·.1) →
      .text Config.Setting.fontSpellings.key ∉ entries.map (·.1) → config.SpellsFont) := by
  refine ⟨?_, ?_, ?_, Config.spellsFont_of_absent h⟩
  · rintro page rfl _ ⟨⟩ f hf
    refine ⟨?_, settles_of_mem_sheetFindings hf⟩
    obtain ⟨sheet, -, rfl⟩ := List.mem_map.1 hf
    rfl
  · rintro page rfl _ ⟨⟩ f hf
    have hsettles := settles_iff_of_mem_fontFindings hf
    obtain ⟨message, rfl⟩ := eq_finding_of_mem_fontFindings hf
    exact ⟨rfl, rfl, hsettles⟩
  · rw [← forall_settles_iff_spellsFont]
    refine forall₂_congr fun page _ => ⟨fun hall => hall _ rfl, ?_⟩
    rintro hall _ ⟨⟩
    exact hall

/-- A mapping that names the brand font together with its spelling. -/
theorem settles_of_font_with_spelling :
    let config : Config := { requiredFont := "Inter".toList, fontSpellings := ["Inter".toList] }
    Config.ofMapping [(.text "required_font".toList, .text "Inter".toList),
        (.text "font_spellings".toList, .list [.text "Inter".toList])] = .ok config ∧
      ∀ page : Page, page.config = config → ∀ missing, fontCheck.inspect page = .ok missing →
        ∀ f ∈ missing, fontCheck.Settles page f := by
  intro config
  have hconfig : Config.ofMapping [(.text "required_font".toList, .text "Inter".toList),
      (.text "font_spellings".toList, .list [.text "Inter".toList])] = .ok config := rfl
  have hspells : config.SpellsFont := ⟨"Inter".toList, List.mem_singleton_self _, List.infix_rfl⟩
  exact ⟨hconfig, (settles_iff_of_ofMapping hconfig).2.2.1.2 hspells⟩

/-- **The brand font may stay missing**: here a mapping names it, and its spellings are those of the
house rules. -/
theorem exists_advice_in_vain :
    ∃ config, Config.ofMapping [(.text "required_font".toList, .text "Inter".toList)] = .ok config ∧
      ∃ page : Page, page.config = config ∧ ∃ f, fontCheck.inspect page = .ok [f] ∧
        f.kind = .missingFont ∧ f.value = "Inter".toList ∧
        fontCheck.inspect (page.append f.value) = .ok [f] :=
  ⟨_, rfl, ⟨"page.html".toList, [], .empty, _⟩, rfl, _, rfl, rfl, rfl, rfl⟩

end RequiredAsset

end DesignLint
