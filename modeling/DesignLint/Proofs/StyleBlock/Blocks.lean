import DesignLint.Check.StyleBlock
import DesignLint.Proofs.HexColor
import DesignLint.Proofs.Text.Lines
import DesignLint.Proofs.Text.Reading
import Mathlib.Data.List.Infix

/-! # Which style blocks are checked

The check of style blocks in words that do not search. `Block` says what an element is, `Completes`
where one begins, `Skipped` which lines are left out, and `lineColors` which colours a line holds:

* `begins_block_iff`: an element begins at every `<style` that can be completed;
* `not_completes_of_isSuffix`: behind a `<style` that cannot be completed none can;
* `inspect_eq_blockFindings`: the findings of the check. -/

namespace DesignLint.StyleBlock

open Text HexColor

/-! ## Elements -/

/-- A style element with its body: `<style` in any letter case, the rest of the tag up to its first
`>`, and the body up to the first `</style>` in any letter case. -/
def Block : Grammar Text := fun element body rest =>
  ∃ name attributes close, Spells "<style".toList name ∧ '>' ∉ attributes ∧
    Spells "</style>".toList close ∧ FreeOf (Word "</style>".toList) body (close ++ rest) ∧
    element = name ++ (attributes ++ '>' :: (body ++ close))

/-- The text begins with `<style`. -/
def Opens (s : Text) : Prop := ∃ name rest, Spells "<style".toList name ∧ s = name ++ rest

/-- The text begins with `<style`, and has a later `>` and still later a `</style>`. -/
def Completes (s : Text) : Prop :=
  ∃ name between body close rest, Spells "<style".toList name ∧ Spells "</style>".toList close ∧
    s = name ++ (between ++ '>' :: (body ++ (close ++ rest)))

/-- The pattern of elements reads just these. -/
theorem reads_block : Reads block Block where
  eq_some_iff s value rest := by
    simp only [block, Option.bind_eq_bind, Option.bind_eq_some_iff, after?_anyCase_eq_some_iff,
      after?_dropWhile_ne_eq_some_iff, breakAt?_anyCase_eq_some_iff]
    constructor
    · rintro ⟨_, ⟨name, hname, rfl⟩, _, ⟨attributes, hattributes, rfl⟩, close, hclose, rfl, free⟩
      refine ⟨_, ?_, name, attributes, close, hname, hattributes, hclose, free, rfl⟩
      simp only [List.append_assoc, List.cons_append]
    · rintro ⟨_, rfl, name, attributes, close, hname, hattributes, hclose, free, rfl⟩
      refine ⟨_, ⟨name, hname, ?_⟩, _, ⟨attributes, hattributes, rfl⟩, close, hclose, rfl, free⟩
      simp only [List.append_assoc, List.cons_append]
  body_ne_nil element body rest h := by
    obtain ⟨name, attributes, close, -, -, -, -, rfl⟩ := h
    simp

/-- What stands behind some `>` stands behind the first one. -/
theorem exists_first_gt (between rest : Text) :
    ∃ attributes more, '>' ∉ attributes ∧
      between ++ '>' :: rest = attributes ++ '>' :: (more ++ rest) := by
  by_cases h : '>' ∈ between
  · obtain ⟨attributes, more, rfl, hattributes⟩ := List.eq_append_cons_of_mem h
    exact ⟨attributes, more ++ ['>'], hattributes, by
      simp only [List.append_assoc, List.cons_append, List.nil_append]⟩
  · exact ⟨between, [], h, rfl⟩

/-- **An element begins at every `<style` that can be completed**, and nowhere else. -/
theorem begins_block_iff {s : Text} : Begins Block s ↔ Completes s := by
  constructor
  · rintro ⟨_, body, rest, rfl, name, attributes, close, hname, -, hclose, -, rfl⟩
    refine ⟨name, attributes, body, close, rest, hname, hclose, ?_⟩
    simp only [List.append_assoc, List.cons_append]
  · rintro ⟨name, between, body, close, rest, hname, hclose, rfl⟩
    -- The tag ends at the first `>`, and the body behind it at the first `</style>`.
    obtain ⟨attributes, more, hattributes, htag⟩ :=
      exists_first_gt between (body ++ (close ++ rest))
    have hbegins : Begins (Word "</style>".toList) (close ++ rest) :=
      ⟨close, (), rest, rfl, hclose⟩
    obtain ⟨body', close', _, rest', hbody, hclose', free⟩ :=
      exists_leftmost (more ++ body) hbegins
    refine ⟨_, body', rest', ?_, name, attributes, close', hname, hattributes, hclose', free, rfl⟩
    rw [List.append_assoc] at hbody
    rw [htag, hbody]
    simp only [List.append_assoc, List.cons_append]

/-- **Behind a `<style` that cannot be completed none can**, so a search may stop there. -/
theorem not_completes_of_isSuffix {s later : Text} (hopens : Opens s) (h : ¬ Completes s)
    (hlater : later <:+ s) : ¬ Completes later := by
  rintro ⟨name', between, body, close, rest, hname', hclose, rfl⟩
  obtain ⟨name, behind, hname, hs⟩ := hopens
  obtain ⟨front, hfront⟩ := hlater
  -- The later `<style` does not end in front of the end of the first one.
  have hprefix : name <+: front ++ name' := by
    have hleft : name <+: s := ⟨behind, hs.symm⟩
    have hright : front ++ name' <+: s := ⟨_, by rw [← hfront, List.append_assoc]⟩
    refine List.prefix_of_prefix_length_le hleft hright ?_
    rw [List.length_append, hname.length_eq, hname'.length_eq]
    omega
  obtain ⟨more, hmore⟩ := hprefix
  refine h ⟨name, more ++ between, body, close, rest, hname, hclose, ?_⟩
  rw [← hfront, ← List.append_assoc front, ← hmore]
  simp only [List.append_assoc]

/-! ## Lines -/

/-- A line that may declare a custom property, or whose first characters that are not blank open a
comment. -/
def Skipped (line : Text) : Prop :=
  ("--".toList <:+: line ∧ ':' ∈ line) ∨
    ∃ blanks rest, (∀ c ∈ blanks, isBlank c = true) ∧
      (line = blanks ++ ("/*".toList ++ rest) ∨ line = blanks ++ ("//".toList ++ rest))

/-- The check skips just these lines. -/
theorem isSkipped_iff {line : Text} : isSkipped line = true ↔ Skipped line := by
  have hcolon : ":".toList <:+: line ↔ ':' ∈ line := List.singleton_infix_iff ':' line
  rw [isSkipped, Bool.or_eq_true, Bool.and_eq_true, Bool.or_eq_true, occurs_iff_isInfix,
    occurs_iff_isInfix, hcolon, List.isPrefixOf_iff_prefix, List.isPrefixOf_iff_prefix,
    isPrefix_strip_iff (by decide) (by decide), isPrefix_strip_iff (by decide) (by decide), Skipped]
  refine or_congr_right ?_
  constructor
  · rintro (⟨blanks, rest, hblanks, h⟩ | ⟨blanks, rest, hblanks, h⟩)
    · exact ⟨blanks, rest, hblanks, .inl h⟩
    · exact ⟨blanks, rest, hblanks, .inr h⟩
  · rintro ⟨blanks, rest, hblanks, h | h⟩
    · exact .inl ⟨blanks, rest, hblanks, h⟩
    · exact .inr ⟨blanks, rest, hblanks, h⟩

instance (line : Text) : Decidable (Skipped line) := decidable_of_iff _ isSkipped_iff

/-- The colours of a line: each `#` with the longest run of hex digits behind it, if that run has
three to eight digits. -/
def lineColors (line : Text) : List Text :=
  ((digitRuns line).filter fun run => 3 ≤ run.length ∧ run.length ≤ 8).map ('#' :: ·)

/-- The findings about a line: if it is not skipped, its colours that the palette lacks. -/
def colorFindings (page : Page) (number : Nat) (line : Text) : List Finding :=
  if Skipped line then []
  else ((lineColors line).filter (!page.palette.allows ·)).map fun color =>
    page.finding number .unknownColorInStyle color
      ("Color ".toList ++ color ++ " in <style> block not in design system".toList)

/-- The findings about the body of an element whose first line has the number `first`. -/
def blockFindings (page : Page) (first : Nat) (body : Text) : List Finding :=
  ((lines body).zipIdx first).flatMap fun (line, number) => colorFindings page number line

/-- The check finds these colours on a line. -/
theorem lineFindings_eq_colorFindings (page : Page) (number : Nat) (line : Text) :
    lineFindings page number line = colorFindings page number line := by
  rw [lineFindings, wholeLiterals_eq, colorFindings]
  by_cases h : Skipped line
  · rw [if_pos (isSkipped_iff.2 h), if_pos h]
  · rw [if_neg (mt isSkipped_iff.1 h), if_neg h, lineColors]

/-- The check numbers the lines of a body from the line of its element on. -/
theorem bodyFindings_eq_blockFindings (page : Page) (first : Nat) (body : Text) :
    bodyFindings page first (lines body) = blockFindings page first body := by
  rw [blockFindings]
  induction lines body generalizing first with
  | nil => rfl
  | cons line rest ih =>
    rw [bodyFindings, List.zipIdx_cons, List.flatMap_cons, ih, lineFindings_eq_colorFindings]

/-! ## The findings -/

/-- A split into elements gives the findings. -/
theorem findings_eq_of_splits {page : Page} {split : Split Text}
    (hsplit : Splits Block page.text split) :
    findings page = (placed [] split.pieces).flatMap fun (front, piece) =>
      blockFindings page (front.count '\n' + 1) piece.value := by
  rw [findings, reads_block.findAll_eq hsplit, List.flatMap_map]
  refine List.flatMap_congr fun ⟨front, piece⟩ hmem => ?_
  obtain ⟨rest, htext, -⟩ := hsplit.mem_placed hmem
  rw [List.nil_append] at htext
  show bodyFindings page (lineAt page.text front.length) (lines piece.value) = _
  rw [bodyFindings_eq_blockFindings, htext, lineAt_length]

/-- **The findings about style blocks.** The text of a page has exactly one split into gaps and
elements where no element begins in a gap. An element begins at each `<style` that can be completed,
and behind one that cannot be completed none can. The findings are those about the bodies of the
elements, in order, where the first line of a body has the number of the line of its `<style`. -/
theorem inspect_eq_blockFindings (page : Page) :
    (∃ split : Split Text, Splits Block page.text split ∧
      (∀ other, Splits Block page.text other → other = split) ∧
      check.inspect page = .ok ((placed [] split.pieces).flatMap fun (front, piece) =>
        blockFindings page (front.count '\n' + 1) piece.value)) ∧
    (∀ s, Begins Block s ↔ Completes s) ∧
    ∀ s later, Opens s → ¬ Completes s → later <:+ s → ¬ Completes later := by
  obtain ⟨split, hsplit⟩ := reads_block.exists_splits page.text
  exact ⟨⟨split, hsplit, fun other hother => reads_block.splits_unique hother hsplit,
    congrArg Except.ok (findings_eq_of_splits hsplit)⟩, fun s => begins_block_iff,
    fun s later hopens h => not_completes_of_isSuffix hopens h⟩

end DesignLint.StyleBlock
