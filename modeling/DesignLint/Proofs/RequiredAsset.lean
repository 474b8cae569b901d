import DesignLint.Check.RequiredAsset
import DesignLint.Text.Lemmas
import Mathlib.Data.List.Infix

/-! # Which assets are missing

What a page has to mention is a part of its text somewhere, and what is no part of it is reported:

* `sheetFindings_eq`: the required stylesheets that are reported;
* `fontFindings_cases`: when the brand font is reported. -/

namespace DesignLint.RequiredAsset

open Text

/-- The stylesheets that are reported are those that are no part of the text. -/
theorem sheetFindings_eq (page : Page) :
    sheetFindings page
      = (page.config.requiredSheets.filter fun sheet => ¬ sheet.name <:+: page.text).map
        fun sheet => page.finding 0 .missingStylesheet sheet.name sheet.message := by
  rw [sheetFindings]
  refine congrArg _ (List.filter_congr fun sheet _ => ?_)
  rw [decide_not]
  exact congrArg _ (Bool.eq_iff_iff.2 (occurs_iff_isInfix.trans decide_eq_true_iff.symm))

/-- **The brand font** is reported once, unless one of its spellings is part of the text. -/
theorem fontFindings_cases (page : Page) :
    (fontFindings page = [] ∧ ∃ spelling ∈ page.config.fontSpellings, spelling <:+: page.text) ∨
      ∃ message,
        fontFindings page = [page.finding 0 .missingFont page.config.requiredFont message] ∧
        ∀ spelling ∈ page.config.fontSpellings, ¬ spelling <:+: page.text := by
  rw [fontFindings]
  split
  · rename_i hany
    obtain ⟨spelling, hmem, hoccurs⟩ := List.any_eq_true.1 hany
    exact .inl ⟨rfl, spelling, hmem, occurs_iff_isInfix.1 hoccurs⟩
  · rename_i hnone
    refine .inr ⟨_, rfl, fun spelling hmem hpart => hnone ?_⟩
    exact List.any_eq_true.2 ⟨spelling, hmem, occurs_iff_isInfix.2 hpart⟩

/-- A finding about the brand font names it. -/
theorem eq_finding_of_mem_fontFindings {page : Page} {f : Finding} (hf : f ∈ fontFindings page) :
    ∃ message, f = page.finding 0 .missingFont page.config.requiredFont message := by
  rcases fontFindings_cases page with ⟨hnil, -⟩ | ⟨message, hone, -⟩
  · rw [hnil] at hf
    exact absurd hf List.not_mem_nil
  · rw [hone, List.mem_singleton] at hf
    exact ⟨message, hf⟩

end DesignLint.RequiredAsset
