import DesignLint.Proofs.Text.Lines

/-! # The lines of the places in a text

The line of a place is told in two ways, by counting the line feeds in front of it and by splitting
the text at them. Both say the same:

* `lineStart s number`: where a line begins;
* `LiesOn s offset number`: the place is on that line, or at the line feed that ends it;
* `exists_cut`: a place cuts one line of the text in two;
* `liesOn_iff_eq_lineAt`: a place lies on the line that is counted for it, and on no other;
* `lineAt_eq_add_count`: from one place to a later one are as many lines as line feeds;
* `lineAt_sliceEnd`: an offset stands for the place where a slice up to it ends;
* `lineAt_agrees_with_lines`: all of this for every text. -/

namespace DesignLint.Text

/-! ## Lines and their places -/

/-- The offset where the line of a number begins: in front of it stand the lines above it, and a
line feed for each of them. -/
def lineStart (s : Text) (number : Nat) : Nat :=
  ((lines s).take (number - 1)).flatten.length + (number - 1)

/-- A place lies on a line: it is not in front of the line, and it is at one of its characters or at
the line feed behind them. -/
structure LiesOn (s : Text) (offset number : Nat) : Prop where
  /-- Lines are numbered from one. -/
  one_le : 1 ≤ number
  /-- There is a line of this number. -/
  le_length : number ≤ (lines s).length
  /-- The line does not begin behind the place. -/
  start_le : lineStart s number ≤ offset
  /-- The line stands where it is said to begin, and it reaches as far as the place. -/
  exists_line : ∃ whole, (lines s)[number - 1]? = some whole ∧
    whole <+: s.drop (lineStart s number) ∧
      (offset < lineStart s number + whole.length ∧
          whole[offset - lineStart s number]? = s[offset]? ∨
        offset = lineStart s number + whole.length ∧ s[offset]? = some '\n')

/-! ## The line of a place -/

section Cut

variable {s left right : Text} {above below : List Text}

/-- A line begins behind the lines above it. -/
theorem lineStart_of_lines_eq {line : Text} (h : lines s = above ++ line :: below) :
    lineStart s (above.length + 1) = (above.flatMap (· ++ ['\n']) : Text).length := by
  have htake : (lines s).take above.length = above := by rw [h, List.take_left]
  rw [lineStart, Nat.add_sub_cancel, htake]
  clear h htake
  induction above with
  | nil => rfl
  | cons first above ih =>
    simp only [List.flatten_cons, List.flatMap_cons, List.length_append, List.length_cons,
      List.length_nil]
    omega

/-- **A place cuts one line of the text** in two; either part may be empty. -/
theorem exists_cut {offset : Nat} (h : offset ≤ s.length) :
    ∃ above left right below, lines s = above ++ (left ++ right) :: below ∧
      offset = lineStart s (above.length + 1) + left.length := by
  obtain ⟨above, left, right, below, hfront, -, hlines⟩ :=
    lines_append (s.take offset) (s.drop offset)
  rw [List.take_append_drop] at hlines
  refine ⟨above, left, right, below, hlines, ?_⟩
  have hlength := congrArg List.length (eq_of_lines_eq hfront)
  rw [List.length_take_of_le h, List.length_append, List.flatMap_nil, List.append_nil] at hlength
  rw [lineStart_of_lines_eq hlines]
  exact hlength

/-- In front of a cut stand the lines above, and the first part of the line that is cut. -/
theorem take_of_lines_eq (h : lines s = above ++ (left ++ right) :: below) :
    s.take (lineStart s (above.length + 1) + left.length)
      = above.flatMap (· ++ ['\n']) ++ left := by
  rw [lineStart_of_lines_eq h]
  conv_lhs => rw [eq_of_lines_eq h]
  rw [List.take_length_add_append, List.append_assoc, List.take_left]

/-- Behind a cut stand the second part of the line that is cut, and the lines below. -/
theorem drop_of_lines_eq (h : lines s = above ++ (left ++ right) :: below) :
    s.drop (lineStart s (above.length + 1) + left.length)
      = right ++ below.flatMap (['\n'] ++ ·) := by
  rw [lineStart_of_lines_eq h]
  conv_lhs => rw [eq_of_lines_eq h]
  rw [List.drop_length_add_append, List.append_assoc, List.drop_left]

/-- **The line that a place cuts** is counted for the place. -/
theorem lineAt_of_lines_eq (h : lines s = above ++ (left ++ right) :: below) :
    lineAt s (lineStart s (above.length + 1) + left.length : Nat) = above.length + 1 := by
  have hbreak (line : Text) (hline : line ∈ above ++ (left ++ right) :: below) : '\n' ∉ line :=
    not_mem_of_mem_lines (h ▸ hline)
  have hleft : '\n' ∉ left := by
    intro hmem
    have hwhole := hbreak (left ++ right) (List.mem_append_right _ List.mem_cons_self)
    exact hwhole (List.mem_append_left _ hmem)
  have habove := count_lines fun line hline => hbreak line (List.mem_append_left _ hline)
  rw [lineAt_natCast, take_of_lines_eq h, List.count_append, habove,
    List.count_eq_zero_of_not_mem hleft, Nat.add_zero]

/-- **A place lies on the line that it cuts.** -/
theorem liesOn_of_lines_eq (h : lines s = above ++ (left ++ right) :: below)
    (hinside : lineStart s (above.length + 1) + left.length < s.length) :
    LiesOn s (lineStart s (above.length + 1) + left.length) (above.length + 1) where
  one_le := Nat.le_add_left _ _
  le_length := by
    rw [h, List.length_append, List.length_cons]
    omega
  start_le := Nat.le_add_right _ _
  exists_line := by
    have hline : (lines s)[above.length + 1 - 1]? = some (left ++ right) := by
      rw [h, Nat.add_sub_cancel, List.getElem?_append_right (Nat.le_refl _), Nat.sub_self,
        List.getElem?_cons_zero]
    have hprefix : left ++ right <+: s.drop (lineStart s (above.length + 1)) := by
      have hdrop := @drop_of_lines_eq s [] (left ++ right) above below h
      rw [List.length_nil, Nat.add_zero] at hdrop
      exact hdrop ▸ List.prefix_append _ _
    have hget : s[lineStart s (above.length + 1) + left.length]?
        = (right ++ below.flatMap (['\n'] ++ ·)).head? := by
      rw [← drop_of_lines_eq h, List.head?_drop]
    refine ⟨left ++ right, hline, hprefix, ?_⟩
    rw [hget, Nat.add_sub_cancel_left]
    cases right with
    | cons c right =>
      -- The next character of the line stands at the place.
      refine .inl ⟨?_, ?_⟩
      · rw [List.length_append, List.length_cons]
        omega
      · rw [List.getElem?_append_right (Nat.le_refl _), Nat.sub_self]
        rfl
    | nil =>
      -- The line has ended, but not the text, so a line feed stands at the place.
      refine .inr ⟨by rw [List.append_nil], ?_⟩
      cases below with
      | cons next below => rfl
      | nil =>
        have hnone := congrArg List.length (drop_of_lines_eq h)
        rw [List.length_drop, List.flatMap_nil, List.append_nil, List.length_nil] at hnone
        omega

end Cut

/-- A place lies on no other line than the one that is counted for it. -/
theorem LiesOn.eq_lineAt {s : Text} {offset number : Nat} (h : LiesOn s offset number) :
    number = lineAt s offset := by
  obtain ⟨line, hline, -, hreach⟩ := h.exists_line
  obtain ⟨above, below, hlines, habove⟩ := exists_lines_eq hline
  have hnumber : number = above.length + 1 := by
    have hone := h.one_le
    omega
  -- The place is at most as far behind the beginning of the line as the line is long.
  obtain ⟨column, rfl⟩ := Nat.exists_eq_add_of_le h.start_le
  have hcolumn : (line.take column).length = column := by
    rw [List.length_take]
    omega
  rw [← List.take_append_drop column line] at hlines
  have hcut := lineAt_of_lines_eq hlines
  rw [hcolumn, ← hnumber] at hcut
  exact hcut.symm

/-- **Counting and splitting agree** about the line of a place. -/
theorem liesOn_iff_eq_lineAt {s : Text} {offset number : Nat} (h : offset < s.length) :
    LiesOn s offset number ↔ number = lineAt s offset := by
  constructor
  · exact LiesOn.eq_lineAt
  · rintro rfl
    obtain ⟨above, left, right, below, hlines, rfl⟩ := exists_cut (Nat.le_of_lt h)
    rw [lineAt_of_lines_eq hlines]
    exact liesOn_of_lines_eq hlines h

/-! ## Two places -/

/-- **From one place to a later one** are as many lines as there are line feeds. -/
theorem lineAt_eq_add_count (s : Text) {first second : Nat} (h : first ≤ second) :
    lineAt s second = lineAt s first + ((s.take second).drop first).count '\n' := by
  have hsplit := List.take_append_drop first (s.take second)
  rw [List.take_take, Nat.min_eq_left h] at hsplit
  have hcount := congrArg (List.count '\n') hsplit
  rw [List.count_append] at hcount
  rw [lineAt_natCast, lineAt_natCast]
  omega

/-- Lines go up with the places. -/
theorem lineAt_mono (s : Text) {first second : Nat} (h : first ≤ second) :
    lineAt s first ≤ lineAt s second := by
  rw [lineAt_eq_add_count s h]
  exact Nat.le_add_right _ _

/-- Two places have one line if no line feed stands from the first to the second. -/
theorem lineAt_eq_iff (s : Text) {first second : Nat} (h : first ≤ second) :
    lineAt s first = lineAt s second ↔ '\n' ∉ (s.take second).drop first := by
  rw [lineAt_eq_add_count s h, ← List.count_eq_zero]
  omega

/-! ## Offsets outside a text -/

/-- Where a slice up to an offset ends: a negative offset counts from the end of the text, and no
slice reaches beyond the text. -/
def sliceEnd (length : Nat) (offset : Int) : Int :=
  max 0 (min length (if offset < 0 then length + offset else offset))

/-- A slice ends inside the text. -/
theorem sliceEnd_bounds (length : Nat) (offset : Int) :
    0 ≤ sliceEnd length offset ∧ sliceEnd length offset ≤ length := by
  rw [sliceEnd]
  omega

/-- **An offset stands for the place where a slice up to it ends.** -/
theorem lineAt_sliceEnd (s : Text) (offset : Int) :
    lineAt s offset = lineAt s (sliceEnd s.length offset) := by
  have hbound : bound s offset = bound s (sliceEnd s.length offset) := by
    have hbounds := sliceEnd_bounds s.length offset
    rw [bound, bound, if_neg (Int.not_lt.2 hbounds.1), sliceEnd]
    split
    · omega
    · omega
  rw [lineAt, lineAt, hbound]

/-- **Counting line feeds agrees with splitting the text at them.** Every place of the text lies on
the line that is counted for it, and on no other. From a place to a later one the line never goes
down, and it stays the same just when no line feed stands from the one up to the other. An offset
that is negative or lies behind the text stands for the place where a slice up to it ends. -/
theorem lineAt_agrees_with_lines (s : Text) :
    lines s = s.splitOn '\n' ∧
    (∀ offset number : Nat, offset < s.length →
      (LiesOn s offset number ↔ number = lineAt s offset)) ∧
    (∀ first second : Nat, first ≤ second → lineAt s first ≤ lineAt s second ∧
      (lineAt s first = lineAt s second ↔ '\n' ∉ (s.take second).drop first)) ∧
    ∀ offset : Int, lineAt s offset = lineAt s (sliceEnd s.length offset) ∧
      0 ≤ sliceEnd s.length offset ∧ sliceEnd s.length offset ≤ s.length := by
  refine ⟨lines_eq_splitOn s, fun offset number h => liesOn_iff_eq_lineAt h,
    fun first second h => ⟨lineAt_mono s h, lineAt_eq_iff s h⟩, fun offset => ?_⟩
  exact ⟨lineAt_sliceEnd s offset, sliceEnd_bounds s.length offset⟩

/-- Here the place is the line feed of an empty line, which is the second of three. -/
theorem lineAt_agrees_with_lines_empty_line :
    3 < "ab\n\nc".toList.length ∧ LiesOn "ab\n\nc".toList 3 2 ∧
      lineAt "ab\n\nc".toList 2 ≠ lineAt "ab\n\nc".toList 3 ∧
      lineAt "ab\n\nc".toList (-9) = lineAt "ab\n\nc".toList 0 := by
  obtain ⟨-, hlies, htwo, hslice⟩ := lineAt_agrees_with_lines "ab\n\nc".toList
  have hinside : 3 < "ab\n\nc".toList.length := by decide
  refine ⟨hinside, (hlies 3 2 hinside).2 (by decide), fun hsame => ?_, (hslice (-9)).1⟩
  exact absurd ((htwo 2 3 (by decide)).2.1 hsame) (by decide)

end DesignLint.Text
