import DesignLint.Palette
import DesignLint.Proofs.InlineStyle
import DesignLint.Proofs.StyleBlock.Blocks

/-! # Declared colours are no findings

The palette and the two colour checks read colours in different ways, off texts that are cut in
different places. They agree on what a stylesheet declares: `Palette.AllowsAll` says that a palette
allows every colour of a text, and this carries over to the parts of the text.

* `Palette.allowsAll_ofStylesheet`: a palette allows the colours of the `:root` block it is read off;
* `Palette.AllowsAll.of_part`, `Palette.AllowsAll.of_mem_splitOn`: parts of a text;
* `InlineStyle.ne_unknownColor_of_allowsAll`, `StyleBlock.findings_eq_nil_of_allowsAll`: the checks
  have nothing to say about colours that are all allowed;
* `no_finding_of_rootBlock`: neither check finds a colour in the block. -/

namespace DesignLint

open Text HexColor

/-! ## Palettes that allow a text -/

namespace Palette

/-- A palette allows every colour of a text: each run of at least three hex digits, behind its `#`
and cut to eight digits. -/
def AllowsAll (p : Palette) (s : Text) : Prop :=
  ∀ run ∈ digitRuns s, 3 ≤ run.length → p.allows ('#' :: run.take 8) = true

/-- **A palette allows the colours of the block** that it is read off. -/
theorem allowsAll_ofStylesheet {css body : Text} (h : rootBlock? css = some body)
    (always : List Text) : AllowsAll (ofStylesheet css always) body := by
  intro run hrun hlength
  have hliteral : '#' :: run.take 8 ∈ literals body := by
    rw [literals_eq]
    refine List.mem_map.2 ⟨run, List.mem_filter.2 ⟨hrun, ?_⟩, rfl⟩
    exact decide_eq_true hlength
  have hdeclared : upper ('#' :: run.take 8) ∈ declared css := by
    simp only [declared, h, hexColors]
    exact List.mem_map_of_mem hliteral
  exact allows_iff.2 (mem_ofStylesheet.2 (.inr hdeclared))

variable {p : Palette}

/-- A palette that allows the colours of a text allows those of a part of it, if the part goes on
with no hex digit. -/
theorem AllowsAll.of_part {front part back : Text} (h : p.AllowsAll (front ++ (part ++ back)))
    (hback : EndsRun back) : p.AllowsAll part :=
  fun run hrun => h run (digitRuns_subset_of_part front part hback hrun)

/-- **A palette that allows the colours of a text** allows those between its separators. -/
theorem AllowsAll.of_mem_splitOn {s part : Text} {c : Char} (h : p.AllowsAll s)
    (hc : isHexDigit c = false) (hpart : part ∈ s.splitOn c) : p.AllowsAll part := by
  obtain ⟨front, back, rfl, hback⟩ := exists_of_mem_splitOn hpart
  refine h.of_part fun d hd => ?_
  rw [hback d hd]
  exact hc

/-- Text without a `#` around a text brings no colours to it. -/
theorem AllowsAll.between {s front back : Text} (h : p.AllowsAll s) (hfront : '#' ∉ front)
    (hback : '#' ∉ back) (hends : EndsRun back) : p.AllowsAll (front ++ (s ++ back)) := by
  have hnone : digitRuns back = [] := by
    have happend := digitRuns_append_of_not_mem hback []
    rwa [List.append_nil] at happend
  intro run hrun
  rw [digitRuns_append_of_not_mem hfront, digitRuns_append s hends, hnone, List.append_nil] at hrun
  exact h run hrun

end Palette

/-! ## The checks -/

namespace InlineStyle

/-- The colour rule has no finding about colours that are all allowed. -/
theorem colorFindings_eq_nil_of_allowsAll {page : Page} {style : Text} (line : Int)
    (h : page.palette.AllowsAll style) : colorFindings page style line = [] := by
  rw [colorFindings, List.map_eq_nil_iff, List.filter_eq_nil_iff, literals_eq]
  intro color hcolor
  obtain ⟨run, hrun, rfl⟩ := List.mem_map.1 hcolor
  obtain ⟨hmem, hlength⟩ := List.mem_filter.1 hrun
  rw [h run hmem (of_decide_eq_true hlength)]
  exact Bool.false_ne_true

/-- **No value whose colours are all allowed** has a finding about a colour. -/
theorem ne_unknownColor_of_allowsAll {page : Page} {style : Text} {line : Int}
    (h : page.palette.AllowsAll style) {f : Finding} (hf : f ∈ valueFindings page style line) :
    f.kind ≠ .unknownColor := by
  rcases mem_valueFindings_cases hf with hcolor | ⟨kind, value, message, hkind, rfl⟩
  · rw [colorFindings_eq_nil_of_allowsAll line h] at hcolor
    exact absurd hcolor List.not_mem_nil
  · exact hkind

end InlineStyle

namespace StyleBlock

/-- A line whose colours are all allowed has no finding. -/
theorem colorFindings_eq_nil_of_allowsAll {page : Page} {line : Text} (number : Nat)
    (h : page.palette.AllowsAll line) : colorFindings page number line = [] := by
  rw [colorFindings]
  split
  · rfl
  · rw [List.map_eq_nil_iff, List.filter_eq_nil_iff, lineColors]
    intro color hcolor
    obtain ⟨run, hrun, rfl⟩ := List.mem_map.1 hcolor
    obtain ⟨hmem, hlength⟩ := List.mem_filter.1 hrun
    obtain ⟨hlow, hhigh⟩ := of_decide_eq_true hlength
    -- A run of at most eight digits is not cut.
    have hallows := h run hmem hlow
    rw [List.take_of_length_le hhigh] at hallows
    rw [hallows]
    exact Bool.false_ne_true

/-- A body whose colours are all allowed has no finding on any of its lines. -/
theorem blockFindings_eq_nil_of_allowsAll {page : Page} {body : Text} (first : Nat)
    (h : page.palette.AllowsAll body) : blockFindings page first body = [] := by
  rw [blockFindings, List.flatMap_eq_nil_iff]
  rintro ⟨line, number⟩ hmem
  have hline : line ∈ body.splitOn '\n' := lines_eq_splitOn body ▸ List.fst_mem_of_mem_zipIdx hmem
  exact colorFindings_eq_nil_of_allowsAll number (h.of_mem_splitOn (by decide) hline)

/-- An end tag ends a run of digits. -/
theorem endsRun_closeTag {close : Text} (h : Spells "</style>".toList close) (rest : Text) :
    EndsRun (close ++ rest) := by
  obtain ⟨c, close, hc, -, rfl⟩ := List.forall₂_cons_left_iff.1 h
  intro d hd
  obtain rfl : c = d := by simpa using hd
  rcases hc with rfl | rfl | ⟨hs, -⟩
  · decide
  · decide
  · exact absurd hs (by decide)

/-- **A page whose colours are all allowed** has no finding about its style blocks, wherever they
begin and end. -/
theorem findings_eq_nil_of_allowsAll {page : Page} (h : page.palette.AllowsAll page.text) :
    findings page = [] := by
  obtain ⟨split, hsplit⟩ := reads_block.exists_splits page.text
  rw [findings_eq_of_splits hsplit, List.flatMap_eq_nil_iff]
  rintro ⟨front, piece⟩ hmem
  obtain ⟨rest, htext, hblock⟩ := hsplit.mem_placed hmem
  obtain ⟨name, attributes, close, -, -, hclose, -, hbody⟩ := hblock
  have hpart : page.text
      = (front ++ name ++ attributes ++ ['>']) ++ (piece.value ++ (close ++ rest)) := by
    rw [List.nil_append, hbody] at htext
    rw [htext]
    simp only [List.append_assoc, List.cons_append, List.nil_append]
  -- Wherever the elements of the page begin, their bodies are parts of it.
  rw [hpart] at h
  exact blockFindings_eq_nil_of_allowsAll _ (h.of_part (endsRun_closeTag hclose rest))

end StyleBlock

/-- **Neither check finds a colour in the block that the palette is read off.** Under the palette of
a stylesheet, the body of its `:root` block has no finding about a colour as the value of a style
attribute, nor has a part of it between semicolons; and as a style block it has no finding at all. -/
theorem no_finding_of_rootBlock {css body : Text} (hbody : Palette.rootBlock? css = some body)
    (always : List Text) (name text : Text) (config : Config) (line : Int) :
    (∀ f ∈ InlineStyle.valueFindings ⟨name, text, .ofStylesheet css always, config⟩ body line,
      f.kind ≠ .unknownColor) ∧
    (∀ piece ∈ body.splitOn ';',
      ∀ f ∈ InlineStyle.valueFindings ⟨name, text, .ofStylesheet css always, config⟩ piece line,
        f.kind ≠ .unknownColor) ∧
    StyleBlock.check.inspect ⟨name, "<style>".toList ++ body ++ "</style>".toList,
      .ofStylesheet css always, config⟩ = .ok [] := by
  have hall := Palette.allowsAll_ofStylesheet hbody always
  refine ⟨fun f hf => InlineStyle.ne_unknownColor_of_allowsAll hall hf,
    fun piece hpiece f hf => ?_, congrArg Except.ok ?_⟩
  · exact InlineStyle.ne_unknownColor_of_allowsAll (hall.of_mem_splitOn (by decide) hpiece) hf
  · refine StyleBlock.findings_eq_nil_of_allowsAll ?_
    rw [List.append_assoc]
    have hends := StyleBlock.endsRun_closeTag (List.forall₂_same.2 fun c _ => .inl rfl) []
    exact hall.between (by decide) (by decide) hends

/-- A block with tags and a comment in it, with digits of both letter cases and with a run of nine
digits. -/
theorem no_finding_of_nested_tags :
    let body := "\n/*<style>#aBc*/ --x: #123456789;\n</style> #FFF00\n".toList
    let css := ":root \x7b".toList ++ body ++ "\x7d".toList
    let page text : Page := ⟨"index.html".toList, text, .ofStylesheet css [], {}⟩
    Palette.rootBlock? css = some body ∧
      (∀ f ∈ InlineStyle.valueFindings (page []) body 1, f.kind ≠ .unknownColor) ∧
      (∀ piece ∈ body.splitOn ';',
        ∀ f ∈ InlineStyle.valueFindings (page []) piece 1, f.kind ≠ .unknownColor) ∧
      StyleBlock.check.inspect (page ("<style>".toList ++ body ++ "</style>".toList)) = .ok [] := by
  intro body css page
  have hbody : Palette.rootBlock? css = some body := by decide
  exact ⟨hbody, no_finding_of_rootBlock hbody [] _ _ _ _⟩

end DesignLint
