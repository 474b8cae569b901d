import DesignLint.Check.RequiredAsset
import DesignLint.Proofs.InlineStyle
import DesignLint.Proofs.StyleBlock.Blocks
import DesignLint.Proofs.Text.Stable

/-! # Findings about a page that goes on

More text at the end of a page adds findings that have a line behind those that were there, and
takes away findings about the whole page:

* `InlineStyle.stable_attribute`, `StyleBlock.stable_block`: attributes and elements that are
  complete are not touched by what follows;
* `InlineStyle.findings_isPrefix_append`, `StyleBlock.findings_isPrefix_append`: the findings that
  have a line;
* `RequiredAsset.sheetFindings_append_sublist`, `RequiredAsset.fontFindings_append_sublist`: the
  findings about the whole page;
* `inspect_append`: the four checks. -/

namespace DesignLint

open Text

/-- A page with more text at its end. -/
def Page.append (page : Page) (more : Text) : Page := { page with text := page.text ++ more }

/-! ## Findings with a line -/

namespace InlineStyle

/-- An attribute has two quotes, and ends with the second one. -/
theorem stable_attribute : Stable Attribute := by
  refine Stable.of_count (c := '"') (n := 2) (fun _ _ _ _ h => h) ?_ ?_
  · rintro _ value rest ⟨name, before, after, hname, hbefore, hafter, hvalue, rfl⟩
    have hblank : isBlank '"' = false := by decide
    have hnone {blanks : Text} (h : ∀ c ∈ blanks, isBlank c = true) : blanks.count '"' = 0 := by
      refine List.count_eq_zero_of_not_mem fun hquote => ?_
      rw [h _ hquote] at hblank
      exact absurd hblank (by decide)
    have hname0 : name.count '"' = 0 := List.count_eq_zero_of_not_mem (hname.not_mem (by decide))
    have hvalue0 : value.count '"' = 0 := List.count_eq_zero_of_not_mem hvalue
    simp [List.count_append, hname0, hvalue0, hnone hbefore, hnone hafter]
  · rintro _ value rest ⟨name, before, after, -, -, -, -, rfl⟩
    refine List.getLast?_eq_some_iff.2 ⟨name ++ before ++ '=' :: (after ++ '"' :: value), ?_⟩
    simp only [List.append_assoc, List.cons_append]

/-- **More text adds findings about style attributes** behind those that were there. -/
theorem findings_isPrefix_append (page : Page) (more : Text) :
    findings page <+: findings (page.append more) := by
  obtain ⟨split, hsplit⟩ := reads_styleAttribute.exists_splits page.text
  obtain ⟨split', hsplit', hpieces⟩ :=
    stable_attribute.exists_splits_append reads_styleAttribute hsplit more
  have hlonger : Splits Attribute (page.append more).text split' := hsplit'
  rw [findings_eq_of_splits hsplit, findings_eq_of_splits hlonger]
  exact (placed_isPrefix hpieces).flatMap _

end InlineStyle

namespace StyleBlock

/-- The first end tag behind a body stays the first one, and a `<style` that is not complete lies
behind all elements. -/
theorem stable_block : Stable Block where
  any_rest := by
    rintro _ body rest other ⟨name, attributes, close, hname, hattributes, hclose, free, rfl⟩
    have hword : Word "</style>".toList close () rest := hclose
    exact ⟨name, attributes, close, hname, hattributes, hclose,
      (stable_word _).freeOf_append free hword other, rfl⟩
  not_begins s more begins hs front back hback inner := by
    obtain ⟨name, between, body, close, rest, hname, hclose, htext⟩ := begins_block_iff.1 begins
    have hcompletes : ¬ Completes s := mt begins_block_iff.2 hs
    have hback' : back <:+ s := ⟨front, hback.symm⟩
    -- The inner element is long enough for the whole `<style` to stand in `s`.
    obtain ⟨name', between', body', close', rest', hname', -, hinner⟩ := begins_block_iff.1 inner
    have hlength := hback'.length_le
    rw [hinner, List.length_append, hname'.length_eq, ← hname.length_eq] at hlength
    have hprefix : name <+: s := by
      refine List.prefix_of_prefix_length_le ?_ (List.prefix_append s more) (by omega)
      exact ⟨_, htext.symm⟩
    obtain ⟨behind, rfl⟩ := hprefix
    exact not_completes_of_isSuffix ⟨name, behind, hname, rfl⟩ hcompletes hback'
      (begins_block_iff.1 inner)

/-- **More text adds findings about style blocks** behind those that were there. -/
theorem findings_isPrefix_append (page : Page) (more : Text) :
    findings page <+: findings (page.append more) := by
  obtain ⟨split, hsplit⟩ := reads_block.exists_splits page.text
  obtain ⟨split', hsplit', hpieces⟩ := stable_block.exists_splits_append reads_block hsplit more
  have hlonger : Splits Block (page.append more).text split' := hsplit'
  rw [findings_eq_of_splits hsplit, findings_eq_of_splits hlonger]
  exact (placed_isPrefix hpieces).flatMap _

end StyleBlock

/-! ## Findings about the whole page -/

namespace RequiredAsset

/-- What a page mentions is mentioned by the longer page. -/
theorem occurs_append {needle s : Text} (h : occurs needle s = true) (more : Text) :
    occurs needle (s ++ more) = true := by
  rw [occurs_iff_isInfix] at h ⊢
  exact h.trans (List.prefix_append s more).isInfix

/-- **More text takes away findings about stylesheets.** -/
theorem sheetFindings_append_sublist (page : Page) (more : Text) :
    (sheetFindings (page.append more)).Sublist (sheetFindings page) := by
  refine List.Sublist.map _ (List.monotone_filter_right _ fun sheet hnew => ?_)
  rw [Bool.not_eq_true', Bool.eq_false_iff] at hnew ⊢
  intro hold
  exact hnew (occurs_append hold more)

/-- **More text takes away findings about the brand font.** -/
theorem fontFindings_append_sublist (page : Page) (more : Text) :
    (fontFindings (page.append more)).Sublist (fontFindings page) := by
  rw [fontFindings, fontFindings]
  by_cases hold : page.config.fontSpellings.any (occurs · page.text) = true
  · -- A spelling that the page mentions is mentioned by the longer page, so neither has a finding.
    obtain ⟨spelling, hspelling, hmention⟩ := List.any_eq_true.1 hold
    have hnew : (page.append more).config.fontSpellings.any
        (occurs · (page.append more).text) = true :=
      List.any_eq_true.2 ⟨spelling, hspelling, occurs_append hmention more⟩
    rw [if_pos hold, if_pos hnew]
  · rw [if_neg hold]
    split
    · exact List.nil_sublist _
    · exact List.Sublist.refl _

end RequiredAsset

/-- **More text at the end of a page** withdraws no finding that has a line, renumbers none and puts
none in front of them; and it adds no finding about the whole page. -/
theorem inspect_append (page : Page) (more : Text) :
    (∃ found added, InlineStyle.check.inspect page = .ok found ∧
      InlineStyle.check.inspect (page.append more) = .ok (found ++ added)) ∧
    (∃ found added, StyleBlock.check.inspect page = .ok found ∧
      StyleBlock.check.inspect (page.append more) = .ok (found ++ added)) ∧
    (∃ missing left, RequiredAsset.sheetCheck.inspect page = .ok missing ∧
      RequiredAsset.sheetCheck.inspect (page.append more) = .ok left ∧ left.Sublist missing) ∧
    ∃ missing left, RequiredAsset.fontCheck.inspect page = .ok missing ∧
      RequiredAsset.fontCheck.inspect (page.append more) = .ok left ∧ left.Sublist missing := by
  obtain ⟨inlineAdded, hinline⟩ := InlineStyle.findings_isPrefix_append page more
  obtain ⟨blockAdded, hblock⟩ := StyleBlock.findings_isPrefix_append page more
  exact ⟨⟨_, inlineAdded, rfl, congrArg Except.ok hinline.symm⟩,
    ⟨_, blockAdded, rfl, congrArg Except.ok hblock.symm⟩,
    ⟨_, _, rfl, rfl, RequiredAsset.sheetFindings_append_sublist page more⟩,
    ⟨_, _, rfl, rfl, RequiredAsset.fontFindings_append_sublist page more⟩⟩

end DesignLint
