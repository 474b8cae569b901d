import DesignLint.Text.Lemmas
import Mathlib.Data.List.Basic

/-! # Offsets and lines

Lines are numbered by the line feeds in front of them, and a place lies on the line that the line
feeds in front of it tell:

* `lines_eq_splitOn`: the lines of a text are its parts between line feeds;
* `lines_append`: where two texts meet, the last line of one goes on as the first line of the other;
* `exists_of_mem_splitOn`: what stands behind a part between separators;
* `eq_of_lines_eq`: a text is made up of its lines;
* `exists_of_getElem?_lines`: a line stands behind as many line feeds as its number says;
* `exists_getElem?_lines`: a part without a line feed is part of the line that the line feeds in
  front of it tell;
* `lineAt_natCast`, `lineAt_append`, `lineAt_length`: the line of a place, and of one behind some
  text;
* `lines_flatMap_newline`: texts that are written line by line. -/

namespace DesignLint.Text

/-- The lines of a text are what is left when it is split at its line feeds. -/
theorem lines_eq_splitOn (s : Text) : lines s = s.splitOn '\n' := by
  induction s with
  | nil => rfl
  | cons c s ih =>
    rw [lines, List.splitOn_cons_eq_if_modifyHead, ← ih]
    by_cases h : c = '\n'
    · simp only [h, if_true, beq_self_eq_true]
    · simp only [h, if_false, beq_iff_eq]
      cases hs : lines s with
      | nil => exact absurd hs (lines_ne_nil s)
      | cons line rest => rfl

/-- A text without a line feed is one line. -/
theorem lines_eq_singleton {s : Text} (h : '\n' ∉ s) : lines s = [s] := by
  rw [lines_eq_splitOn, List.splitOn_eq_singleton h]

/-- **Lines of two texts together.** The last line of the first text goes on as the first line of
the second one; all other lines stay. -/
theorem lines_append (s t : Text) :
    ∃ front last head back, lines s = front ++ [last] ∧ lines t = head :: back ∧
      lines (s ++ t) = front ++ (last ++ head) :: back := by
  obtain ⟨head, back, ht⟩ := List.exists_cons_of_ne_nil (lines_ne_nil t)
  induction s with
  | nil => exact ⟨[], [], head, back, rfl, ht, ht⟩
  | cons c s ih =>
    obtain ⟨front, last, head, back, hs, ht, hst⟩ := ih
    rw [List.cons_append, lines, lines, hs, hst]
    -- The character goes to the first line of the first text, which may also be its last line.
    by_cases h : c = '\n'
    · exact ⟨[] :: front, last, head, back, by rw [if_pos h, List.cons_append], ht,
        by rw [if_pos h, List.cons_append]⟩
    · cases front with
      | nil => exact ⟨[], c :: last, head, back, by rw [if_neg h]; rfl, ht, by rw [if_neg h]; rfl⟩
      | cons first front =>
        exact ⟨(c :: first) :: front, last, head, back, by rw [if_neg h]; rfl, ht,
          by rw [if_neg h]; rfl⟩

/-- No line holds a line feed. -/
theorem not_mem_of_mem_lines {s line : Text} (h : line ∈ lines s) : '\n' ∉ line := by
  induction s generalizing line with
  | nil =>
    rw [lines, List.mem_singleton] at h
    exact h ▸ List.not_mem_nil
  | cons c s ih =>
    rw [lines] at h
    by_cases hc : c = '\n'
    · rw [if_pos hc, List.mem_cons] at h
      rcases h with rfl | h
      · exact List.not_mem_nil
      · exact ih h
    · rw [if_neg hc] at h
      cases hs : lines s with
      | nil => exact absurd hs (lines_ne_nil s)
      | cons first rest =>
        simp only [hs, List.mem_cons] at h
        rcases h with rfl | h
        · have hfirst := ih (hs ▸ List.mem_cons_self)
          intro hmem
          rcases List.mem_cons.1 hmem with h | h
          · exact hc h.symm
          · exact hfirst h
        · exact ih (hs ▸ List.mem_cons_of_mem _ h)

/-- Texts put together: a separator stands between the first two. -/
theorem joined_cons_cons (separator line next : Text) (below : List Text) :
    joined separator (line :: next :: below)
      = line ++ (separator ++ joined separator (next :: below)) := by
  rw [joined, List.append_assoc]
  exact List.cons_ne_nil _ _

/-- Texts put together: the first one, and each other one behind a separator. -/
theorem joined_cons (separator line : Text) (below : List Text) :
    joined separator (line :: below) = line ++ below.flatMap (separator ++ ·) := by
  induction below generalizing line with
  | nil => rw [joined, List.flatMap_nil, List.append_nil]
  | cons next below ih =>
    rw [joined_cons_cons, ih, List.flatMap_cons, List.append_assoc]

/-- The characters of texts put together are those of the texts and of the separator. -/
theorem mem_joined_iff {separator : Text} {texts : List Text} {c : Char} (hc : c ∉ separator) :
    c ∈ joined separator texts ↔ ∃ s ∈ texts, c ∈ s := by
  cases texts with
  | nil => simp [joined]
  | cons first rest =>
    simp only [joined_cons, List.mem_append, List.mem_flatMap, hc, false_or, List.mem_cons,
      exists_eq_or_imp]

/-- Texts put together, taken apart around one of them. -/
theorem joined_append_cons (separator line : Text) (above below : List Text) :
    joined separator (above ++ line :: below)
      = above.flatMap (· ++ separator) ++ (line ++ below.flatMap (separator ++ ·)) := by
  induction above with
  | nil => exact joined_cons separator line below
  | cons first above ih =>
    rw [List.cons_append, joined, ih, List.flatMap_cons]
    · simp only [List.append_assoc]
    · exact List.append_ne_nil_of_right_ne_nil _ (List.cons_ne_nil _ _)

/-- Texts put together with a separator are what core calls intercalated. -/
theorem joined_eq_intercalate (separator : Text) (parts : List Text) :
    joined separator parts = separator.intercalate parts := by
  induction parts with
  | nil => rfl
  | cons part rest ih =>
    cases rest with
    | nil => rw [joined, List.intercalate_singleton]
    | cons next rest =>
      rw [joined_cons_cons, ih, List.intercalate_cons_cons, List.append_assoc]

/-- **A part between separators** is followed by a separator or by nothing. -/
theorem exists_of_mem_splitOn {c : Char} {s part : Text} (h : part ∈ s.splitOn c) :
    ∃ front back, s = front ++ (part ++ back) ∧ ∀ d ∈ back.head?, d = c := by
  obtain ⟨above, below, hparts⟩ := List.append_of_mem h
  -- The parts put together again are the text, with a separator behind each part but the last.
  refine ⟨above.flatMap (· ++ [c]), below.flatMap ([c] ++ ·), ?_, ?_⟩
  · rw [← joined_append_cons, ← hparts, joined_eq_intercalate, List.intercalate_splitOn]
  · intro d hd
    cases below with
    | nil => exact absurd hd.symm (Option.some_ne_none d)
    | cons next below => exact (Option.some_inj.1 hd).symm

/-- A line is part of the text. -/
theorem isInfix_of_mem_lines {s line : Text} (h : line ∈ lines s) : line <:+: s := by
  rw [lines_eq_splitOn] at h
  obtain ⟨front, back, rfl, -⟩ := exists_of_mem_splitOn h
  exact List.infix_append' front line back

/-- As many line feeds as there are lines, where each line ends with one. -/
theorem count_lines {above : List Text} (h : ∀ line ∈ above, '\n' ∉ line) :
    (above.flatMap (· ++ ['\n'])).count '\n' = above.length := by
  induction above with
  | nil => rfl
  | cons line above ih =>
    have hline := List.count_eq_zero_of_not_mem (h line List.mem_cons_self)
    rw [List.flatMap_cons, List.count_append, List.count_append, hline, List.count_singleton_self,
      ih fun next hnext => h next (List.mem_cons_of_mem _ hnext), List.length_cons]
    omega

/-- A line feed ends the first line. -/
theorem lines_append_newline {line : Text} (h : '\n' ∉ line) (rest : Text) :
    lines (line ++ '\n' :: rest) = line :: lines rest := by
  induction line with
  | nil => rw [List.nil_append, lines, if_pos rfl]
  | cons c line ih =>
    rw [List.mem_cons, not_or] at h
    rw [List.cons_append, lines, if_neg (Ne.symm h.1), ih h.2]

/-- **Texts that are written line by line** are the lines, with an empty one at the end. -/
theorem lines_flatMap_newline {texts : List Text} (h : ∀ line ∈ texts, '\n' ∉ line) :
    lines (texts.flatMap (· ++ ['\n'])) = texts ++ [[]] := by
  induction texts with
  | nil => rfl
  | cons line texts ih =>
    obtain ⟨hline, hrest⟩ := List.forall_mem_cons.1 h
    rw [List.flatMap_cons, List.append_assoc, List.singleton_append, lines_append_newline hline,
      ih hrest, List.cons_append]

/-- A numeral consists of digits. -/
theorem not_mem_ofNat {c : Char} (h : c.isDigit = false) (n : Nat) : c ∉ ofNat n := by
  intro hmem
  have hdigit := Nat.isDigit_of_mem_toDigits (by decide) (by decide) hmem
  rw [h] at hdigit
  exact absurd hdigit (by decide)

/-- A numeral with a sign consists of digits behind the sign. -/
theorem not_mem_ofInt {c : Char} (h : c.isDigit = false) (hsign : c ≠ '-') (n : Int) :
    c ∉ ofInt n := by
  cases n with
  | ofNat n => exact not_mem_ofNat h n
  | negSucc n => exact List.not_mem_cons_of_ne_of_not_mem hsign (not_mem_ofNat h _)

/-- A numeral is one line. -/
theorem newline_not_mem_ofNat (n : Nat) : '\n' ∉ ofNat n := not_mem_ofNat (by decide) n

/-- A numeral with a sign is one line. -/
theorem newline_not_mem_ofInt (n : Int) : '\n' ∉ ofInt n :=
  not_mem_ofInt (by decide) (by decide) n

/-- A text is made up of its lines, taken apart around one of them. -/
theorem eq_of_lines_eq {s line : Text} {above below : List Text}
    (h : lines s = above ++ line :: below) :
    s = above.flatMap (· ++ ['\n']) ++ (line ++ below.flatMap (['\n'] ++ ·)) := by
  rw [← joined_append_cons, ← h, joined_lines]

/-- The line at an index has as many lines above it. -/
theorem exists_lines_eq {s line : Text} {k : Nat} (h : (lines s)[k]? = some line) :
    ∃ above below, lines s = above ++ line :: below ∧ above.length = k := by
  obtain ⟨hk, hline⟩ := List.getElem?_eq_some_iff.1 h
  refine ⟨(lines s).take k, (lines s).drop (k + 1), ?_, List.length_take_of_le (Nat.le_of_lt hk)⟩
  rw [← hline, ← List.drop_eq_getElem_cons hk, List.take_append_drop]

/-- **Behind `k` line feeds begins the line with `k` lines above it.** -/
theorem exists_of_getElem?_lines {s line : Text} {k : Nat} (h : (lines s)[k]? = some line) :
    ∃ before after, s = before ++ (line ++ after) ∧ before.count '\n' = k := by
  obtain ⟨above, below, hlines, rfl⟩ := exists_lines_eq h
  refine ⟨_, _, eq_of_lines_eq hlines, count_lines fun other hother => ?_⟩
  have hmem : other ∈ lines s := hlines ▸ List.mem_append_left _ hother
  exact not_mem_of_mem_lines hmem

/-- The first line of a text begins with every beginning of the text that holds no line feed. -/
theorem isPrefix_head_lines {part first : Text} (back : Text) {below : List Text}
    (h : '\n' ∉ part) (hlines : lines (part ++ back) = first :: below) : part <+: first := by
  obtain ⟨above, last, head, rest, hpart, -, htext⟩ := lines_append part back
  rw [lines_eq_singleton h] at hpart
  cases above with
  | nil =>
    obtain rfl : part = last := by simpa using hpart
    rw [htext, List.nil_append, List.cons.injEq] at hlines
    exact ⟨head, hlines.1⟩
  | cons line above => exact absurd (congrArg List.length hpart) (by simp)

/-- **A part without a line feed lies on the line that the line feeds in front of it tell.** -/
theorem exists_getElem?_lines (front back : Text) {part : Text} (h : '\n' ∉ part) :
    ∃ line, (lines (front ++ (part ++ back)))[front.count '\n']? = some line ∧ part <:+: line := by
  obtain ⟨above, last, first, below, hfront, hrest, htext⟩ := lines_append front (part ++ back)
  have habove : above.length = front.count '\n' := by
    have hlength := length_lines front
    rw [hfront, List.length_append, List.length_singleton] at hlength
    omega
  obtain ⟨rest, hfirst⟩ := isPrefix_head_lines back h hrest
  refine ⟨last ++ first, ?_, last, rest, ?_⟩
  · rw [htext, ← habove, List.getElem?_append_right (Nat.le_refl _), Nat.sub_self,
      List.getElem?_cons_zero]
  · rw [List.append_assoc, hfirst]

/-- The line of an offset that is not negative. -/
theorem lineAt_natCast (s : Text) (offset : Nat) :
    lineAt s offset = (s.take offset).count '\n' + 1 := by
  have hbound : bound s offset = min offset s.length := by
    rw [bound, if_neg (by omega), Int.toNat_natCast]
  rw [lineAt, hbound, ← List.take_eq_take_min]

/-- Text in front moves a place down by the line feeds that it holds. -/
theorem lineAt_append (front s : Text) (offset : Nat) :
    lineAt (front ++ s) (front.length + offset : Nat) = front.count '\n' + lineAt s offset := by
  rw [lineAt_natCast, lineAt_natCast, List.take_length_add_append, List.count_append,
    Nat.add_assoc]

/-- The place behind `front` lies on the line that the line feeds in `front` tell. -/
theorem lineAt_length (front rest : Text) :
    lineAt (front ++ rest) front.length = front.count '\n' + 1 := by
  rw [lineAt_natCast, List.take_left]

end DesignLint.Text
