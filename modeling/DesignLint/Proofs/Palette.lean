import DesignLint.Palette
import DesignLint.Proofs.HexColor
import DesignLint.Proofs.Text.Stable

/-! # Which colours a palette holds

The palette of a stylesheet in words that do not search. `RootBlock` says what a `:root` block is,
and `FirstBlock` where the one stands that counts:

* `rootBlock?_eq_some_iff`, `rootBlock?_eq_none_iff`: the body that is found;
* `FirstBlock.replace_rest`: what stands behind the block does not matter;
* `mem_hexColors_iff`: the colours of a body;
* `mem_colors_iff`: the colours of the palette. -/

namespace DesignLint.Palette

open Text HexColor

/-! ## The block that counts -/

/-- A `:root` block with its body: `:root`, blanks, and between braces a body that is not empty and
holds no closing brace. -/
def RootBlock : Grammar Text := fun block body _ =>
  ∃ blanks, (∀ c ∈ blanks, isBlank c = true) ∧ body ≠ [] ∧ '}' ∉ body ∧
    block = ":root".toList ++ (blanks ++ '{' :: (body ++ ['}']))

/-- The leftmost block of a stylesheet with its body, the text in front of it and the text behind
it. -/
structure FirstBlock (css gap block body rest : Text) : Prop where
  /-- The parts make up the stylesheet. -/
  text : css = gap ++ (block ++ rest)
  /-- The block is one. -/
  occurs : RootBlock block body rest
  /-- No block begins in front of it. -/
  free : FreeOf RootBlock gap (block ++ rest)

/-- The pattern of blocks reads just these. -/
theorem reads_rootBlock : Reads rootBlock RootBlock where
  eq_some_iff s body rest := by
    have hopen : isBlank '{' = false := by decide
    simp only [rootBlock, Option.bind_eq_bind, Option.bind_eq_some_iff, dropBlanks,
      after?_exactly_eq_some_iff, after?_dropWhile_eq_some_iff hopen]
    constructor
    · rintro ⟨_, rfl, s, ⟨blanks, hblanks, rfl⟩, hbody⟩
      split at hbody
      · exact absurd hbody.symm (Option.some_ne_none _)
      · rename_i hne
        simp only [Option.bind_eq_some_iff, after?_dropWhile_ne_eq_some_iff, Option.pure_def,
          Option.some_inj, Prod.mk.injEq] at hbody
        obtain ⟨_, ⟨body, hclose, rfl⟩, rfl, rfl⟩ := hbody
        rw [takeWhile_ne_append_cons hclose] at hne ⊢
        refine ⟨_, ?_, blanks, hblanks, List.isEmpty_iff.not.1 hne, hclose, rfl⟩
        simp only [List.append_assoc, List.cons_append, List.nil_append]
    · rintro ⟨_, rfl, blanks, hblanks, hne, hclose, rfl⟩
      refine ⟨blanks ++ '{' :: (body ++ '}' :: rest), ?_, body ++ '}' :: rest,
        ⟨blanks, hblanks, rfl⟩, ?_⟩
      · simp only [List.append_assoc, List.cons_append, List.nil_append]
      · have hread : after? exactly ['}'] ((body ++ '}' :: rest).dropWhile (· != '}')) = some rest :=
          after?_dropWhile_ne_eq_some_iff.2 ⟨body, hclose, rfl⟩
        rw [takeWhile_ne_append_cons hclose, if_neg (List.isEmpty_iff.not.2 hne), hread]
        rfl
  body_ne_nil block body rest h := by
    obtain ⟨blanks, -, -, -, rfl⟩ := h
    simp

/-- A block ends with the only closing brace in it. -/
theorem stable_rootBlock : Stable RootBlock := by
  refine Stable.of_count (c := '}') (n := 1) (fun _ _ _ _ h => h) ?_ ?_
  · rintro _ body rest ⟨blanks, hblanks, -, hclose, rfl⟩
    have hnone : '}' ∉ blanks := fun h => absurd (hblanks _ h) (by decide)
    have hname : ":root".toList.count '}' = 0 := by decide
    simp [List.count_append, List.count_eq_zero_of_not_mem hnone,
      List.count_eq_zero_of_not_mem hclose]
  · rintro _ body rest ⟨blanks, -, -, -, rfl⟩
    refine List.getLast?_eq_some_iff.2 ⟨":root".toList ++ (blanks ++ '{' :: body), ?_⟩
    simp only [List.append_assoc, List.cons_append]

/-- **What stands behind the first block** may be replaced: the block stays the first one. -/
theorem FirstBlock.replace_rest {css gap block body rest : Text}
    (h : FirstBlock css gap block body rest) (other : Text) :
    FirstBlock (gap ++ (block ++ other)) gap block body other where
  text := rfl
  occurs := h.occurs
  free := stable_rootBlock.freeOf_append h.free h.occurs other

/-- **The body that is found** is that of the first block. -/
theorem rootBlock?_eq_some_iff {css body : Text} :
    rootBlock? css = some body ↔ ∃ gap block rest, FirstBlock css gap block body rest := by
  rw [rootBlock?, reads_rootBlock.find?_eq_some_iff]
  constructor
  · rintro ⟨gap, block, rest, text, occurs, free⟩
    exact ⟨gap, block, rest, text, occurs, free⟩
  · rintro ⟨gap, block, rest, text, occurs, free⟩
    exact ⟨gap, block, rest, text, occurs, free⟩

/-- **No body is found** just when no block begins anywhere. -/
theorem rootBlock?_eq_none_iff {css : Text} :
    rootBlock? css = none ↔ ∀ front back, css = front ++ back → ¬ Begins RootBlock back := by
  rw [rootBlock?, reads_rootBlock.find?_eq_none_iff_not_occurs]
  constructor
  · intro hnone front back hcss hbegins
    exact hnone ⟨front, back, hcss, hbegins⟩
  · rintro hnone ⟨front, back, hcss, hbegins⟩
    exact hnone front back hcss hbegins

/-! ## Colours -/

/-- **The colours of a text** are its runs of at least three hex digits, each behind its `#`, cut to
eight digits and in upper case. -/
theorem mem_hexColors_iff {s color : Text} :
    color ∈ hexColors s ↔ ∃ before run after, s = before ++ ('#' :: run ++ after) ∧
      (∀ c ∈ run, isHexDigit c = true) ∧ EndsRun after ∧ 3 ≤ run.length ∧
      color = upper ('#' :: run.take 8) := by
  simp only [hexColors, literals_eq, List.mem_map, List.mem_filter, mem_digitRuns_iff,
    decide_eq_true_eq]
  constructor
  · rintro ⟨_, ⟨run, ⟨⟨before, after, hs, hdigits, hends⟩, hlength⟩, rfl⟩, rfl⟩
    exact ⟨before, run, after, hs, hdigits, hends, hlength, rfl⟩
  · rintro ⟨before, run, after, hs, hdigits, hends, hlength, rfl⟩
    exact ⟨_, ⟨run, ⟨⟨before, after, hs, hdigits, hends⟩, hlength⟩, rfl⟩, rfl⟩

/-- A stylesheet declares the colours of the body of its first block. -/
theorem mem_declared_iff {css color : Text} :
    color ∈ declared css ↔ ∃ body, rootBlock? css = some body ∧ color ∈ hexColors body := by
  rw [declared]
  cases rootBlock? css with
  | none => simp
  | some body => simp

/-- Stylesheets with the same body have the same palette. -/
theorem ofStylesheet_congr {css other : Text} (h : rootBlock? css = rootBlock? other)
    (always : List Text) : ofStylesheet css always = ofStylesheet other always := by
  rw [ofStylesheet, ofStylesheet, declared, declared, h]

/-- **The colours of a palette** are those that are always allowed and those in the body of the
first `:root` block, all in upper case. A colour in the body is a `#` with the longest run of hex
digits behind it, if these are at least three, cut to the first eight. The body is found just when
there is a block, and the text behind the first block is of no account. -/
theorem mem_colors_iff (css : Text) (always : List Text) :
    (∀ color, color ∈ (ofStylesheet css always).colors ↔
      (∃ c ∈ always, color = upper c) ∨
        ∃ gap block body rest, FirstBlock css gap block body rest ∧
          ∃ before run after, body = before ++ ('#' :: run ++ after) ∧
            (∀ c ∈ run, isHexDigit c = true) ∧ EndsRun after ∧ 3 ≤ run.length ∧
            color = upper ('#' :: run.take 8)) ∧
    (∀ body, rootBlock? css = some body ↔ ∃ gap block rest, FirstBlock css gap block body rest) ∧
    (rootBlock? css = none ↔ ∀ front back, css = front ++ back → ¬ Begins RootBlock back) ∧
    ∀ gap block body rest other, FirstBlock css gap block body rest →
      ofStylesheet (gap ++ (block ++ other)) always = ofStylesheet css always := by
  refine ⟨fun color => ?_, fun body => rootBlock?_eq_some_iff, rootBlock?_eq_none_iff, ?_⟩
  · rw [mem_ofStylesheet, List.mem_map, mem_declared_iff]
    simp only [rootBlock?_eq_some_iff, mem_hexColors_iff, @eq_comm _ (upper _) color]
    refine or_congr_right ?_
    constructor
    · rintro ⟨body, ⟨gap, block, rest, hfirst⟩, hcolor⟩
      exact ⟨gap, block, body, rest, hfirst, hcolor⟩
    · rintro ⟨gap, block, body, rest, hfirst, hcolor⟩
      exact ⟨body, ⟨gap, block, rest, hfirst⟩, hcolor⟩
  · intro gap block body rest other hfirst
    have hcss := rootBlock?_eq_some_iff.2 ⟨gap, block, rest, hfirst⟩
    have hother := rootBlock?_eq_some_iff.2 ⟨gap, block, other, hfirst.replace_rest other⟩
    exact ofStylesheet_congr (hother.trans hcss.symm) always

end DesignLint.Palette
