import DesignLint.Proofs.StyleBlock.Blocks

/-! # The line numbers of findings about style blocks

The lines of a body are counted from the line of its `<style`, as if the body began on that line. It
begins as many lines further down as the opening tag has line feeds:

* `lineAt_eq_line_add_tagBreaks`: the line of the value is the reported one plus those line feeds,
  so a finding points at its value when the opening tag stands on one line;
* `exists_finding_not_pointsAt`: else it may point at a line that does not hold the value. -/

namespace DesignLint.StyleBlock

open Text HexColor

/-- The reported line is a line of the text and holds the reported value. -/
def PointsAt (text : Text) (f : Finding) : Prop :=
  1 ≤ f.line ∧ f.line ≤ (lines text).length ∧
    ∃ line, (lines text)[f.line.toNat - 1]? = some line ∧ f.value <:+: line

/-- The line feeds in the opening tag of an element. -/
def tagBreaks (element : Text) : Nat := (element.takeWhile (· != '>')).count '\n'

/-! ## Where a value stands -/

/-- A finding about a line is about a colour that stands there. -/
theorem exists_of_mem_colorFindings {page : Page} {number : Nat} {line : Text} {f : Finding}
    (hf : f ∈ colorFindings page number line) :
    ∃ color message, color <:+: line ∧
      f = page.finding number .unknownColorInStyle color message := by
  rw [colorFindings] at hf
  split at hf
  · exact absurd hf List.not_mem_nil
  · obtain ⟨color, hcolor, rfl⟩ := List.mem_map.1 hf
    obtain ⟨run, hrun, rfl⟩ := List.mem_map.1 (List.mem_of_mem_filter hcolor)
    exact ⟨_, _, isInfix_of_mem_digitRuns (List.mem_of_mem_filter hrun), rfl⟩

/-- **Within a body the lines are counted right.** Between its beginning and the value of a finding
are as many line feeds as the reported line is below the first one. -/
theorem exists_of_mem_blockFindings {page : Page} {first : Nat} {body : Text} {f : Finding}
    (hf : f ∈ blockFindings page first body) :
    ∃ before after, body = before ++ (f.value ++ after) ∧ '\n' ∉ f.value ∧
      f.line = (first + before.count '\n' : Nat) := by
  obtain ⟨⟨line, number⟩, hline, hcolor⟩ := List.mem_flatMap.1 hf
  obtain ⟨hle, hget⟩ := List.mk_mem_zipIdx_iff_le_and_getElem?_sub.1 hline
  obtain ⟨above, below, rfl, habove⟩ := exists_of_getElem?_lines hget
  obtain ⟨color, message, ⟨left, right, rfl⟩, rfl⟩ := exists_of_mem_colorFindings hcolor
  have hbreak : '\n' ∉ left ++ color ++ right := not_mem_of_mem_lines (List.mem_of_getElem? hget)
  rw [List.mem_append, List.mem_append, not_or, not_or] at hbreak
  obtain ⟨⟨hleft, hvalue⟩, -⟩ := hbreak
  refine ⟨above ++ left, right ++ below, ?_, hvalue, ?_⟩
  · show _ = above ++ left ++ (color ++ (right ++ below))
    simp only [List.append_assoc]
  · rw [List.count_append, List.count_eq_zero_of_not_mem hleft, habove, Nat.add_zero,
      Nat.add_sub_cancel' hle]
    rfl

/-- **What a body counts short.** In front of a part of the body of an element are, besides the line
feeds of the body, those of the opening tag. -/
theorem Block.exists_append {element before part after rest : Text}
    (h : Block element (before ++ (part ++ after)) rest) :
    ∃ ahead behind, element = ahead ++ (part ++ behind) ∧
      ahead.count '\n' = before.count '\n' + tagBreaks element := by
  obtain ⟨name, attributes, close, hname, hattributes, -, -, rfl⟩ := h
  have htag : '>' ∉ name ++ attributes := by
    rw [List.mem_append, not_or]
    exact ⟨hname.not_mem (by decide), hattributes⟩
  have hend : ('>' :: before).count '\n' = before.count '\n' := List.count_cons_of_ne (by decide)
  refine ⟨name ++ attributes ++ '>' :: before, after ++ close, ?_, ?_⟩
  · simp only [List.append_assoc, List.cons_append]
  · rw [tagBreaks, ← List.append_assoc name, takeWhile_ne_append_cons htag, List.count_append, hend]
    omega

/-- A value is held by the line where it stands. -/
theorem pointsAt_lineAt {front rest : Text} {f : Finding} (hvalue : '\n' ∉ f.value)
    (hline : f.line = lineAt (front ++ (f.value ++ rest)) front.length) :
    PointsAt (front ++ (f.value ++ rest)) f := by
  rw [lineAt_length] at hline
  obtain ⟨line, hget, hinfix⟩ := exists_getElem?_lines front rest hvalue
  have hlength := (List.getElem?_eq_some_iff.1 hget).1
  refine ⟨by omega, by omega, line, ?_, hinfix⟩
  rw [hline, Int.toNat_natCast, Nat.add_sub_cancel, hget]

/-! ## Reported lines -/

/-- **The line of a reported value** is the reported line plus the line feeds of the opening tag.
Every finding about style blocks is about a value that stands at some offset inside an element of
the page. The reported line is a line of the page; it is the line of the value, and then holds the
value, just when the opening tag of that element has no line feed. -/
theorem lineAt_eq_line_add_tagBreaks (page : Page) :
    ∃ split : Split Text, Splits Block page.text split ∧ ∀ f ∈ findings page,
      ∃ front piece offset, (front, piece) ∈ placed [] split.pieces ∧
        front.length ≤ offset ∧ offset + f.value.length ≤ (front ++ piece.body).length ∧
        f.value <+: page.text.drop offset ∧
        (lineAt page.text offset : Int) = f.line + tagBreaks piece.body ∧
        1 ≤ f.line ∧ f.line ≤ (lines page.text).length ∧
        PointsAt page.text { f with line := f.line + tagBreaks piece.body } ∧
        (f.line = lineAt page.text offset ↔ tagBreaks piece.body = 0) ∧
        (tagBreaks piece.body = 0 → PointsAt page.text f) := by
  obtain ⟨split, hsplit⟩ := reads_block.exists_splits page.text
  refine ⟨split, hsplit, fun f hf => ?_⟩
  rw [findings_eq_of_splits hsplit] at hf
  obtain ⟨⟨front, piece⟩, hpiece, hblock⟩ := List.mem_flatMap.1 hf
  obtain ⟨rest, htext, hoccurs⟩ := hsplit.mem_placed hpiece
  -- The reported line counts the line feeds of `before`; those of the tag are in `ahead` too.
  obtain ⟨before, after, hvalue, hbreak, hline⟩ := exists_of_mem_blockFindings hblock
  obtain ⟨ahead, behind, hbody, hcount⟩ := (hvalue ▸ hoccurs).exists_append
  have hplace : page.text = front ++ ahead ++ (f.value ++ (behind ++ rest)) := by
    rw [← List.nil_append page.text, htext, hbody]
    simp only [List.append_assoc]
  have hlineAt :
      (lineAt page.text (front ++ ahead).length : Int) = f.line + tagBreaks piece.body := by
    rw [hplace, lineAt_length, List.count_append, hcount, hline]
    omega
  have hpoints : PointsAt page.text { f with line := f.line + tagBreaks piece.body } := by
    rw [← hlineAt, hplace]
    exact pointsAt_lineAt hbreak rfl
  refine ⟨front, piece, (front ++ ahead).length, hpiece, ?_, ?_, ?_, hlineAt, ?_, ?_, hpoints,
    ?_, ?_⟩
  · rw [List.length_append]
    omega
  · rw [hbody]
    simp only [List.length_append]
    omega
  · rw [hplace, List.drop_left]
    exact List.prefix_append _ _
  · rw [hline]
    omega
  · have hle : f.line + tagBreaks piece.body ≤ (lines page.text).length := hpoints.2.1
    omega
  · rw [hlineAt]
    omega
  · intro hzero
    rw [hzero, Int.natCast_zero, Int.add_zero] at hpoints
    exact hpoints

/-- **A finding may point at a line without its value**: here the opening tag ends on the second
line, and the colour behind it is reported on the first one. -/
theorem exists_finding_not_pointsAt :
    ∃ page : Page, ∃ f ∈ findings page, ¬ PointsAt page.text f := by
  refine ⟨⟨"page.html".toList, "<style\n>#123456</style>".toList, .empty, {}⟩,
    ⟨"page.html".toList, 1, .unknownColorInStyle, "#123456".toList,
      "Color #123456 in <style> block not in design system".toList⟩, by decide +kernel, ?_⟩
  rintro ⟨-, -, line, hline, hvalue⟩
  obtain rfl : "<style".toList = line := Option.some_inj.1 hline
  exact absurd hvalue (by decide)

end DesignLint.StyleBlock
