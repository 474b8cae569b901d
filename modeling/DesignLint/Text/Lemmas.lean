import DesignLint.Text.Search

/-! # Lemmas on texts

What the operations on plain text do, in the words of lists:

* `occurs_iff_isInfix`: occurrence is being a contiguous part;
* `length_lines`, `joined_lines`: lines are the text, taken apart at its line feeds;
* `after?_exactly_eq_some_iff`: exact matching takes the word off the head;
* `le_total`, `le_antisymm`, `le_trans`, `sorted_perm`, `sorted_pairwise`: the order of texts is
  total, and sorting puts texts in order;
* `isInfix_of_find?_eq_some`: what is found is part of the text. -/

namespace DesignLint.Text

/-! ## Parts and lines -/

/-- A text occurs in those that hold it as a contiguous part. -/
theorem occurs_iff_isInfix {needle s : Text} : occurs needle s = true ↔ needle <:+: s := by
  induction s with
  | nil => cases needle <;> simp [occurs]
  | cons c s ih =>
    rw [occurs, Bool.or_eq_true, List.isPrefixOf_iff_prefix, ih, List.infix_cons_iff]

/-- There is always a line. -/
theorem lines_ne_nil (s : Text) : lines s ≠ [] := by
  cases s with
  | nil => decide
  | cons c s =>
    rw [lines]
    split
    · exact List.cons_ne_nil _ _
    · split <;> exact List.cons_ne_nil _ _

/-- There is one line more than there are line feeds. -/
theorem length_lines (s : Text) : (lines s).length = s.count '\n' + 1 := by
  induction s with
  | nil => rfl
  | cons c s ih =>
    rw [lines]
    by_cases h : c = '\n'
    · rw [if_pos h, List.length_cons, ih, h, List.count_cons_self]
    · rw [if_neg h, List.count_cons_of_ne h]
      cases hs : lines s with
      | nil => exact absurd hs (lines_ne_nil s)
      | cons line rest => rw [← ih, hs, List.length_cons, List.length_cons]

/-- The lines of a text make up the text. -/
theorem joined_lines (s : Text) : joined ['\n'] (lines s) = s := by
  induction s with
  | nil => rfl
  | cons c s ih =>
    rw [lines]
    cases hs : lines s with
    | nil => exact absurd hs (lines_ne_nil s)
    | cons line rest =>
      rw [hs] at ih
      by_cases h : c = '\n'
      · rw [if_pos h, joined, ih, h]
        · rfl
        · exact List.cons_ne_nil _ _
      · rw [if_neg h]
        cases rest with
        | nil => exact congrArg (c :: ·) ih
        | cons next rest => exact congrArg (c :: ·) ih

/-- Exact matching consumes the word itself. -/
theorem after?_exactly_eq_some_iff {word s rest : Text} :
    after? exactly word s = some rest ↔ s = word ++ rest := by
  induction word generalizing s with
  | nil => exact Option.some_inj
  | cons w word ih =>
    cases s with
    | nil => simp [after?]
    | cons c s =>
      rw [after?, List.cons_append, List.cons.injEq, ← ih]
      by_cases h : w = c
      · simp [exactly, h]
      · simp [exactly, h, Ne.symm h]

/-! ## Order -/

/-- The first characters decide, unless they are the same. -/
theorem le_cons_iff {c d : Char} {s t : Text} :
    le (c :: s) (d :: t) = true ↔ c.toNat < d.toNat ∨ c = d ∧ le s t = true := by
  simp only [le, Bool.or_eq_true, Bool.and_eq_true, decide_eq_true_eq, beq_iff_eq]

/-- A text is in order with itself. -/
theorem le_refl (s : Text) : le s s = true := by
  induction s with
  | nil => rfl
  | cons c s ih => exact le_cons_iff.2 (.inr ⟨rfl, ih⟩)

/-- Of two texts one comes before the other. -/
theorem le_total (s t : Text) : (le s t || le t s) = true := by
  induction s generalizing t with
  | nil => rfl
  | cons c s ih =>
    cases t with
    | nil => rfl
    | cons d t =>
      rcases Nat.lt_trichotomy c.toNat d.toNat with h | h | h
      · simp [le, h]
      · have hcd : c = d := Char.toNat_inj.1 h
        subst hcd
        simpa [le] using ih t
      · simp [le, h]

/-- Texts in order both ways are one. -/
theorem le_antisymm {s t : Text} (hst : le s t = true) (hts : le t s = true) : s = t := by
  induction s generalizing t with
  | nil =>
    cases t with
    | nil => rfl
    | cons d t => exact absurd hts Bool.false_ne_true
  | cons c s ih =>
    cases t with
    | nil => exact absurd hst Bool.false_ne_true
    | cons d t =>
      rw [le_cons_iff] at hst hts
      rcases hst with hst | ⟨rfl, hst⟩
      · rcases hts with hts | ⟨rfl, _⟩ <;> omega
      · rcases hts with hts | ⟨_, hts⟩
        · omega
        · rw [ih hst hts]

/-- The order of texts is transitive. -/
theorem le_trans {s t u : Text} (hst : le s t = true) (htu : le t u = true) : le s u = true := by
  induction s generalizing t u with
  | nil => rfl
  | cons c s ih =>
    cases t with
    | nil => exact absurd hst Bool.false_ne_true
    | cons d t =>
      cases u with
      | nil => exact absurd htu Bool.false_ne_true
      | cons e u =>
        rw [le_cons_iff] at hst htu ⊢
        rcases hst with hst | ⟨rfl, hst⟩
        · rcases htu with htu | ⟨rfl, _⟩
          · exact .inl (by omega)
          · exact .inl hst
        · rcases htu with htu | ⟨rfl, htu⟩
          · exact .inl htu
          · exact .inr ⟨rfl, ih hst htu⟩

/-- Sorting keeps every text as often as it is there. -/
theorem sorted_perm (texts : List Text) : (sorted texts).Perm texts := List.mergeSort_perm texts le

/-- Sorted texts are in order. -/
theorem sorted_pairwise (texts : List Text) :
    (sorted texts).Pairwise fun s t => le s t = true := by
  have trans (s t u : Text) : le s t = true → le t u = true → le s u = true := le_trans
  exact List.pairwise_mergeSort trans le_total texts

/-! ## Search -/

/-- A search goes on behind the characters that it skips. -/
theorem findFrom_skip {α : Type} (p : Pattern α) (offset skip : Nat) (s : Text) :
    findFrom p offset skip s = findFrom p (offset + skip) 0 (s.drop skip) := by
  induction skip generalizing offset s with
  | zero => rfl
  | succ skip ih =>
    cases s with
    | nil => simp [findFrom]
    | cons c s => rw [findFrom, ih, List.drop_succ_cons, Nat.add_right_comm, Nat.add_assoc]

/-- A search that begins further behind finds the same occurrences, each further behind. -/
theorem findFrom_add {α : Type} (p : Pattern α) (k offset skip : Nat) (s : Text) :
    findFrom p (k + offset) skip s
      = (findFrom p offset skip s).map fun found => { found with offset := k + found.offset } := by
  induction s generalizing offset skip with
  | nil => cases skip <;> rfl
  | cons c s ih =>
    cases skip with
    | succ skip => rw [findFrom, findFrom, Nat.add_assoc, ih]
    | zero =>
      rw [findFrom, findFrom, Nat.add_assoc]
      cases p (c :: s) with
      | none => exact ih _ _
      | some found => exact congrArg (_ :: ·) (ih _ _)

/-- **What a search finds is part of the text**, if the pattern takes it off the head. -/
theorem isInfix_of_find?_eq_some {α : Type} {p : Pattern α} {word : α → Text}
    (hp : ∀ s value rest, p s = some (value, rest) → word value <+: s) {s : Text} {value : α}
    (h : find? p s = some value) : word value <:+: s := by
  induction s with
  | nil => exact nomatch h
  | cons c s ih =>
    rw [find?] at h
    cases hread : p (c :: s) with
    | none =>
      rw [hread] at h
      exact (ih h).trans (List.suffix_cons c s).isInfix
    | some found =>
      obtain ⟨value', rest⟩ := found
      rw [hread, Option.some_inj] at h
      exact h ▸ (hp _ _ _ hread).isInfix

end DesignLint.Text
