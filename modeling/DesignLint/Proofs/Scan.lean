import DesignLint.Scan
import DesignLint.Proofs.Failure
import DesignLint.Proofs.InlineStyle
import DesignLint.Proofs.RequiredAsset
import DesignLint.Proofs.StyleBlock.Blocks

/-! # Scans

A scan lists what its checks find, and fails where the first of them gives no result
(`scan_eq_ok_iff`, `scan_eq_error_iff`). The palette decides about colours and about nothing else.
What the built-in checks find about one page under two palettes:

* `Page.findings`, `scan_builtin`: the findings of the built-in checks, one check after the other;
* `Finding.IsColor`: the findings about colours;
* `Page.findings_withPalette`: a larger palette withdraws the findings about the colours that it
  has;
* `Page.filter_findings_withPalette`: the other findings are the same under all palettes;
* `scan_withPalette`: both, said of scans. -/

namespace DesignLint

open Text

/-! ## Check by check -/

/-- A scan puts together what the checks find. -/
theorem scan_eq_map (page : Page) (checks : List Check) :
    scan page checks = List.flatten <$> checks.mapM (·.inspect page) := by
  induction checks with
  | nil => rfl
  | cons check rest ih =>
    rw [scan, ih, List.mapM_cons]
    cases check.inspect page with
    | error e => rfl
    | ok found =>
      rw [ok_bind, ok_bind]
      cases rest.mapM (·.inspect page) with
      | error e => rfl
      | ok parts => rfl

/-- **The result of a scan**: each check inspects the page once, and the findings are listed check
by check. -/
theorem scan_eq_ok_iff {page : Page} {checks : List Check} {found : List Finding} :
    scan page checks = .ok found ↔ ∃ parts,
      List.Forall₂ (fun check part => check.inspect page = .ok part) checks parts ∧
        found = parts.flatten := by
  rw [scan_eq_map]
  constructor
  · intro h
    cases hparts : checks.mapM (·.inspect page) with
    | error e =>
      rw [hparts] at h
      exact nomatch h
    | ok parts =>
      rw [hparts] at h
      exact ⟨parts, mapM_eq_ok_iff.1 hparts, (Except.ok.inj h).symm⟩
  · rintro ⟨parts, hparts, rfl⟩
    rw [mapM_eq_ok_iff.2 hparts]
    rfl

/-- **The failure of a scan** is that of the first check that gives no result. -/
theorem scan_eq_error_iff {page : Page} {checks : List Check} {e : CheckFailure} :
    scan page checks = .error e ↔ ∃ before check after, checks = before ++ check :: after ∧
      check.inspect page = .error e ∧
      ∀ earlier ∈ before, ∃ part, earlier.inspect page = .ok part := by
  rw [← failure?_eq_some_iff, scan_eq_map, failure?_map, failure?_mapM, List.findSome?_eq_some_iff]
  simp only [failure?_eq_some_iff, failure?_eq_none_iff]

/-! ## Built-in checks -/

/-- The findings of the built-in checks about a page. -/
def Page.findings (page : Page) : List Finding :=
  InlineStyle.findings page ++ (StyleBlock.findings page ++
    (RequiredAsset.sheetFindings page ++ RequiredAsset.fontFindings page))

/-- A scan with the built-in checks always has a result. -/
theorem scan_builtin (page : Page) :
    scan page Registry.builtin.checks = .ok page.findings := by
  have hlast : RequiredAsset.fontFindings page ++ [] = RequiredAsset.fontFindings page :=
    List.append_nil _
  rw [Page.findings, ← hlast]
  rfl

/-! ## Findings about colours -/

/-- A finding is about a colour that the palette lacks. -/
def Finding.IsColor (f : Finding) : Prop :=
  f.kind = .unknownColor ∨ f.kind = .unknownColorInStyle

instance (f : Finding) : Decidable f.IsColor := inferInstanceAs (Decidable (_ ∨ _))

/-- A finding is about a colour that a palette has. -/
def Palette.Settles (p : Palette) (f : Finding) : Prop := f.IsColor ∧ upper f.value ∈ p.colors

instance (p : Palette) (f : Finding) : Decidable (p.Settles f) :=
  inferInstanceAs (Decidable (_ ∧ _))

/-- A page under another palette. -/
def Page.withPalette (page : Page) (p : Palette) : Page := { page with palette := p }

variable {p q : Palette}

/-- **Reports of colours under two palettes.** Of the colours that the smaller palette lacks, those
are withdrawn that the larger one has. -/
theorem Palette.map_filter_allows (h : p.colors ⊆ q.colors) (colors : List Text)
    {report : Text → Finding} (hkind : ∀ color, (report color).IsColor)
    (hvalue : ∀ color, (report color).value = color) :
    (colors.filter (!q.allows ·)).map report
      = ((colors.filter (!p.allows ·)).map report).filter (¬ q.Settles ·) := by
  rw [List.filter_map, List.filter_filter]
  refine congrArg _ (List.filter_congr fun color _ => ?_)
  have hsettles : q.Settles (report color) ↔ q.allows color = true := by
    rw [Palette.Settles, hvalue, Palette.allows_iff, and_iff_right (hkind color)]
  rw [Function.comp_apply]
  by_cases hq : q.allows color = true
  · simp [hq, hsettles.2 hq]
  · have hp : ¬ p.allows color = true := fun hp => hq (allows_iff.2 (h (allows_iff.1 hp)))
    simp [hq, hp, mt hsettles.1 hq]

/-- Findings about something else than colours are settled by no palette. -/
theorem Palette.filter_not_settles {found : List Finding} (h : ∀ f ∈ found, ¬ f.IsColor) :
    found.filter (¬ q.Settles ·) = found :=
  List.filter_eq_self.2 fun f hf => decide_eq_true fun hsettles => h f hf hsettles.1

/-! ## The checks under two palettes -/

namespace InlineStyle

/-- The colour rule under a larger palette. -/
theorem colorFindings_withPalette (h : p.colors ⊆ q.colors) (page : Page) (style : Text)
    (line : Int) :
    colorFindings (page.withPalette q) style line
      = (colorFindings (page.withPalette p) style line).filter (¬ q.Settles ·) :=
  Palette.map_filter_allows h _ (fun _ => .inl rfl) fun _ => rfl

/-- The other rules have nothing to say about colours outside the palette. -/
theorem not_isColor_of_mem_otherFindings {page : Page} {style : Text} {line : Int} {f : Finding}
    (hf : f ∈ otherFindings page style line) : ¬ f.IsColor := by
  obtain ⟨kind, value, message, hkind, -, rfl⟩ := exists_of_mem_otherFindings hf
  rintro (rfl | rfl) <;> exact absurd hkind (by decide)

/-- The rules about a style value under a larger palette. -/
theorem valueFindings_withPalette (h : p.colors ⊆ q.colors) (page : Page) (style : Text)
    (line : Int) :
    valueFindings (page.withPalette q) style line
      = (valueFindings (page.withPalette p) style line).filter (¬ q.Settles ·) := by
  rw [valueFindings_eq, valueFindings_eq, List.filter_append, colorFindings_withPalette h]
  -- The other rules do not ask for the palette.
  exact congrArg _ (Palette.filter_not_settles fun f hf => not_isColor_of_mem_otherFindings hf).symm

/-- The check of style attributes under a larger palette. -/
theorem findings_withPalette (h : p.colors ⊆ q.colors) (page : Page) :
    findings (page.withPalette q)
      = (findings (page.withPalette p)).filter (¬ q.Settles ·) := by
  rw [findings, findings, List.filter_flatMap]
  exact List.flatMap_congr fun found _ => valueFindings_withPalette h page _ _

end InlineStyle

namespace StyleBlock

/-- A line of a style block under a larger palette. -/
theorem lineFindings_withPalette (h : p.colors ⊆ q.colors) (page : Page) (number : Nat)
    (line : Text) :
    lineFindings (page.withPalette q) number line
      = (lineFindings (page.withPalette p) number line).filter (¬ q.Settles ·) := by
  rw [lineFindings, lineFindings]
  split
  · rfl
  · exact Palette.map_filter_allows h _ (fun _ => .inr rfl) fun _ => rfl

/-- The lines of a style block under a larger palette. -/
theorem bodyFindings_withPalette (h : p.colors ⊆ q.colors) (page : Page) (number : Nat)
    (body : List Text) :
    bodyFindings (page.withPalette q) number body
      = (bodyFindings (page.withPalette p) number body).filter (¬ q.Settles ·) := by
  induction body generalizing number with
  | nil => rfl
  | cons line rest ih =>
    rw [bodyFindings, bodyFindings, List.filter_append, lineFindings_withPalette h, ih]

/-- The check of style blocks under a larger palette. -/
theorem findings_withPalette (h : p.colors ⊆ q.colors) (page : Page) :
    findings (page.withPalette q)
      = (findings (page.withPalette p)).filter (¬ q.Settles ·) := by
  rw [findings, findings, List.filter_flatMap]
  exact List.flatMap_congr fun found _ => bodyFindings_withPalette h page _ _

end StyleBlock

namespace RequiredAsset

/-- A finding about a stylesheet is not about a colour. -/
theorem not_isColor_of_mem_sheetFindings {page : Page} {f : Finding}
    (hf : f ∈ sheetFindings page) : ¬ f.IsColor := by
  obtain ⟨sheet, -, rfl⟩ := List.mem_map.1 hf
  rintro (h | h) <;> exact nomatch h

/-- A finding about the brand font is not about a colour. -/
theorem not_isColor_of_mem_fontFindings {page : Page} {f : Finding}
    (hf : f ∈ fontFindings page) : ¬ f.IsColor := by
  obtain ⟨message, rfl⟩ := eq_finding_of_mem_fontFindings hf
  rintro (h | h) <;> exact nomatch h

end RequiredAsset

/-- **A larger palette withdraws the findings about the colours that it has**, and changes nothing
else. -/
theorem Page.findings_withPalette (h : p.colors ⊆ q.colors) (page : Page) :
    (page.withPalette q).findings = (page.withPalette p).findings.filter (¬ q.Settles ·) := by
  have hassets : ∀ f ∈ RequiredAsset.sheetFindings page ++ RequiredAsset.fontFindings page,
      ¬ f.IsColor := by
    intro f hf
    rcases List.mem_append.1 hf with hsheet | hfont
    · exact RequiredAsset.not_isColor_of_mem_sheetFindings hsheet
    · exact RequiredAsset.not_isColor_of_mem_fontFindings hfont
  rw [findings, findings, List.filter_append, List.filter_append,
    InlineStyle.findings_withPalette h, StyleBlock.findings_withPalette h]
  exact congrArg _ (congrArg _ (Palette.filter_not_settles hassets).symm)

/-- **Findings about something else than colours** are the same under all palettes. -/
theorem Page.filter_findings_withPalette (page : Page) (p q : Palette) :
    (page.withPalette p).findings.filter (¬ ·.IsColor)
      = (page.withPalette q).findings.filter (¬ ·.IsColor) := by
  -- Both palettes are larger than the one that has no colour.
  have hempty (r : Palette) : (page.withPalette r).findings.filter (¬ ·.IsColor)
      = (page.withPalette .empty).findings.filter (¬ ·.IsColor) := by
    have hle : Palette.empty.colors ⊆ r.colors := List.nil_subset r.colors
    rw [Page.findings_withPalette hle, List.filter_filter]
    refine List.filter_congr fun f _ => ?_
    rw [← Bool.decide_and, decide_eq_decide]
    exact and_iff_left_of_imp fun hcolor hsettles => hcolor hsettles.1
  rw [hempty p, hempty q]

/-! ## Scans -/

/-- **A scan under a larger palette** has the findings of the scan under the smaller one, without
those about colours that the larger palette has. So it adds no finding, and it moves and alters
none. Findings about something else than colours do not depend on the palette at all. -/
theorem scan_withPalette (page : Page) (h : p.colors ⊆ q.colors) :
    ∃ found left, scan (page.withPalette p) Registry.builtin.checks = .ok found ∧
      scan (page.withPalette q) Registry.builtin.checks = .ok left ∧
      left = found.filter (fun f => ¬ (f.IsColor ∧ upper f.value ∈ q.colors)) ∧
      left.Sublist found ∧
      ∀ r : Palette, ∃ others, scan (page.withPalette r) Registry.builtin.checks = .ok others ∧
        others.filter (¬ ·.IsColor) = found.filter (¬ ·.IsColor) := by
  have hleft := page.findings_withPalette h
  refine ⟨_, _, scan_builtin _, scan_builtin _, hleft, ?_,
    fun r => ⟨_, scan_builtin _, page.filter_findings_withPalette r p⟩⟩
  rw [hleft]
  exact List.filter_sublist

/-- A page with colours in an attribute and in a style block, of which the larger palette has one
more. -/
theorem scan_withPalette_one_color :
    let page : Page := ⟨"a.html".toList,
      "<p style=\"fill: #abc; color: rgb(1)\"><style>a #aBC\nb #DEF #ABCD</style>".toList, .empty,
      { requiredSheets := [], fontSpellings := [] }⟩
    let p := Palette.ofList ["#DEF".toList]
    let q := Palette.ofList ["#ABC".toList, "#DEF".toList]
    p.colors ⊆ q.colors ∧
      ∃ found left, scan (page.withPalette p) Registry.builtin.checks = .ok found ∧
        scan (page.withPalette q) Registry.builtin.checks = .ok left ∧
        left = found.filter (fun f => ¬ (f.IsColor ∧ upper f.value ∈ q.colors)) ∧
        left.map (·.value) = ["rgb(1)", "#ABCD", "Space Grotesk"].map String.toList := by
  intro page p q
  have h : p.colors ⊆ q.colors := by decide
  obtain ⟨found, left, hfound, hleft, hfilter, -⟩ := scan_withPalette page h
  refine ⟨h, found, left, hfound, hleft, hfilter, ?_⟩
  rw [scan_builtin, Except.ok.injEq] at hleft
  rw [← hleft]
  decide +kernel

end DesignLint
