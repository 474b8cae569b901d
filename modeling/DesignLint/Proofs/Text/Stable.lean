import DesignLint.Proofs.Text.Reading

/-! # Occurrences in a text that goes on

What is put behind a text may complete something that begins in it. A grammar is `Stable` if this
never touches an occurrence that is complete already:

* `Stable.of_count`: grammars whose occurrences end with a delimiter are stable;
* `Stable.freeOf_append`: in front of an occurrence, a gap stays free whatever follows;
* `Stable.exists_splits_append`: a longer text has the occurrences of the shorter one, and more
  behind them. -/

namespace DesignLint.Text

variable {α : Type} {G : Grammar α}

/-- What stands behind an occurrence does not matter to it, and what is complete only with the text
put behind `s` is no longer in front of an occurrence in `s`. -/
structure Stable (G : Grammar α) : Prop where
  /-- An occurrence stays one whatever follows. -/
  any_rest : ∀ body value rest other, G body value rest → G body value other
  /-- Behind what is not complete in a text, nothing occurs in this text. -/
  not_begins : ∀ s more, Begins G (s ++ more) → ¬ Begins G s →
    ∀ front back, s = front ++ back → ¬ Begins G back

/-! ## Stable grammars -/

/-- What begins a text also begins the longer one. -/
theorem Stable.begins_append (h : Stable G) {s : Text} (begins : Begins G s) (more : Text) :
    Begins G (s ++ more) := by
  obtain ⟨body, value, rest, rfl, hG⟩ := begins
  exact ⟨body, value, rest ++ more, List.append_assoc _ _ _, h.any_rest _ _ _ _ hG⟩

/-- An occurrence that does not fit into a text is longer than it and begins with it. -/
theorem exists_of_begins_append (hrest : ∀ body value rest other, G body value rest →
    G body value other) {s more : Text} (begins : Begins G (s ++ more)) (hs : ¬ Begins G s) :
    ∃ body value rest cut, G body value rest ∧ body = s ++ cut ∧ cut ≠ [] := by
  obtain ⟨body, value, rest, htext, hG⟩ := begins
  rcases List.append_eq_append_iff.1 htext with ⟨cut, hbody, -⟩ | ⟨behind, hs', -⟩
  · refine ⟨body, value, rest, cut, hG, hbody, ?_⟩
    rintro rfl
    rw [List.append_nil] at hbody
    exact hs ⟨body, value, [], by rw [hbody, List.append_nil], hrest _ _ _ _ hG⟩
  · exact absurd ⟨body, value, behind, hs', hrest _ _ _ _ hG⟩ hs

/-- **Delimited occurrences are stable.** If every occurrence holds the character `c` just as often
and ends with it, what is not complete holds `c` too rarely for an occurrence. -/
theorem Stable.of_count {c : Char} {n : Nat}
    (hrest : ∀ body value rest other, G body value rest → G body value other)
    (hcount : ∀ body value rest, G body value rest → body.count c = n)
    (hlast : ∀ body value rest, G body value rest → body.getLast? = some c) : Stable G where
  any_rest := hrest
  not_begins s more begins hs front back hback := by
    rintro ⟨inner, value', rest', rfl, hinner⟩
    obtain ⟨body, value, rest, cut, hG, rfl, hcut⟩ := exists_of_begins_append hrest begins hs
    -- The delimiter at the end is not in `s`, where all those of the inner occurrence are.
    have hend : cut.getLast? = some c := by
      rw [← hlast _ _ _ hG, List.getLast?_append_of_ne_nil _ hcut]
    have hone : 0 < cut.count c := List.count_pos_iff.2 (List.mem_of_getLast? hend)
    have hall := hcount _ _ _ hG
    have hpart := hcount _ _ _ hinner
    rw [hback] at hall
    simp only [List.count_append] at hall
    omega

/-- The spellings of a word are stable, since they are of one length. -/
theorem stable_word (word : Text) : Stable (Word word) where
  any_rest _ _ _ _ h := h
  not_begins s more begins hs front back hback := by
    rintro ⟨inner, _, rest, rfl, hinner⟩
    obtain ⟨body, _, _, cut, hbody, rfl, hcut⟩ :=
      exists_of_begins_append (fun _ _ _ _ h => h) begins hs
    have hlong : (s ++ cut).length = word.length := Spells.length_eq hbody
    have hshort : inner.length = word.length := Spells.length_eq hinner
    have hpos := List.length_pos_iff.2 hcut
    rw [hback] at hlong
    simp only [List.length_append] at hlong
    omega

/-! ## Longer texts -/

/-- **A gap in front of an occurrence stays free** whatever stands behind the occurrence. -/
theorem Stable.freeOf_append (h : Stable G) {gap body rest : Text} {value : α}
    (free : FreeOf G gap (body ++ rest)) (hG : G body value rest) (other : Text) :
    FreeOf G gap (body ++ other) := by
  intro front back hgap hback begins
  rw [← List.append_assoc] at begins
  by_cases hbegins : Begins G (back ++ body)
  · -- What fits in front of `other` occurs in the old text too.
    have hold := h.begins_append hbegins rest
    rw [List.append_assoc] at hold
    exact free front back hgap hback hold
  · have hbody : Begins G body :=
      ⟨body, value, [], (List.append_nil body).symm, h.any_rest _ _ _ _ hG⟩
    exact h.not_begins _ _ begins hbegins back body rfl hbody

/-- **A longer text has the occurrences of the shorter one**, in the same places, and more behind
them. -/
theorem Stable.exists_splits_append {p : Pattern α} (h : Stable G) (hp : Reads p G) {s : Text}
    {split : Split α} (hs : Splits G s split) (more : Text) :
    ∃ split', Splits G (s ++ more) split' ∧ split.pieces <+: split'.pieces := by
  induction hs with
  | @tail s free =>
    obtain ⟨split', hsplit'⟩ := hp.exists_splits (s ++ more)
    exact ⟨split', hsplit', List.nil_prefix⟩
  | @piece rest piece split free occurs hrest ih =>
    obtain ⟨split', hsplit', hpieces⟩ := ih
    refine ⟨⟨piece :: split'.pieces, split'.tail⟩, ?_, (List.prefix_cons_inj piece).2 hpieces⟩
    have hsplit := Splits.piece piece (h.freeOf_append free occurs (rest ++ more))
      (h.any_rest _ _ _ _ occurs) hsplit'
    simpa only [List.append_assoc] using hsplit

/-- Pieces in front of other pieces are placed as if these were not there. -/
theorem placed_isPrefix {before : Text} {pieces pieces' : List (Piece α)}
    (h : pieces <+: pieces') : placed before pieces <+: placed before pieces' := by
  induction pieces generalizing before pieces' with
  | nil => exact List.nil_prefix
  | cons piece pieces ih =>
    obtain ⟨more, rfl⟩ := h
    rw [List.cons_append, placed, placed]
    exact (List.prefix_cons_inj _).2 (ih (List.prefix_append _ _))

end DesignLint.Text
