import DesignLint.Proofs.Text.Splitting
import DesignLint.Text.Blank
import Mathlib.Data.List.Forall2
import Mathlib.Data.List.DropRight

/-! # What the readers of this library take off a text

Each reader, in the words of the text that it reads:

* `after?_anyCase_eq_some_iff`: a word in any letter case is a spelling of it (`Spells`);
* `after?_dropWhile_eq_some_iff`: a run and the delimiter behind it;
* `after?_dropWhile_ne_eq_some_iff`: the text up to the first occurrence of a character;
* `breakAt?_anyCase_eq_some_iff`: the text up to the leftmost spelling of a word;
* `isPrefix_strip_iff`: what stands at the head of a stripped text. -/

namespace DesignLint.Text

/-! ## Words -/

/-- `Spells word s`: the characters of `s` are those of a lower-case word, one by one and each in
either letter case; `ſ` may stand for `s`. -/
def Spells (word s : Text) : Prop :=
  List.Forall₂ (fun w c => c = w ∨ c = w.toUpper ∨ w = 's' ∧ c = 'ſ') word s

/-- The characters that a letter of a word may be spelled as. -/
theorem anyCase_iff {w c : Char} :
    anyCase w c = true ↔ c = w ∨ c = w.toUpper ∨ w = 's' ∧ c = 'ſ' := by
  rw [anyCase, Bool.or_eq_true, Bool.or_eq_true, Bool.and_eq_true, beq_iff_eq, beq_iff_eq,
    beq_iff_eq, beq_iff_eq, or_assoc, eq_comm (a := w), eq_comm (a := w.toUpper)]

/-- A spelling is as long as its word. -/
theorem Spells.length_eq {word s : Text} (h : Spells word s) : s.length = word.length :=
  (List.Forall₂.length_eq h).symm

/-- A spelling begins with a character that the first letter of the word may be spelled as. -/
theorem Spells.exists_cons {w : Char} {word s : Text} (h : Spells (w :: word) s) :
    ∃ c rest, s = c :: rest ∧ (c = w ∨ c = w.toUpper ∨ w = 's' ∧ c = 'ſ') := by
  obtain ⟨c, rest, hc, -, rfl⟩ := List.forall₂_cons_left_iff.1 h
  exact ⟨c, rest, rfl, hc⟩

/-- A character that no letter of a word may be spelled as is not in its spellings. -/
theorem Spells.not_mem {word s : Text} {c : Char} (h : Spells word s)
    (hc : word.all (!anyCase · c) = true) : c ∉ s := by
  induction h with
  | nil => exact List.not_mem_nil
  | cons hhead _ ih =>
    rw [List.all_cons, Bool.and_eq_true, Bool.not_eq_true'] at hc
    rw [List.mem_cons]
    rintro (rfl | hmem)
    · rw [anyCase_iff.2 hhead] at hc
      exact absurd hc.1 (by decide)
    · exact ih hc.2 hmem

/-- A spelling takes the place of a word, character by character. -/
theorem after?_eq_some_iff {same : Char → Char → Bool} {word s rest : Text} :
    after? same word s = some rest ↔
      ∃ spelled, List.Forall₂ (fun w c => same w c = true) word spelled ∧ s = spelled ++ rest := by
  induction word generalizing s with
  | nil =>
    rw [after?, Option.some_inj]
    constructor
    · rintro rfl
      exact ⟨[], .nil, rfl⟩
    · rintro ⟨spelled, hspelled, rfl⟩
      rw [List.forall₂_nil_left_iff.1 hspelled, List.nil_append]
  | cons w word ih =>
    cases s with
    | nil => simp [after?, List.forall₂_cons_left_iff]
    | cons c s =>
      rw [after?]
      constructor
      · intro h
        split at h
        · rename_i hc
          obtain ⟨spelled, hspelled, rfl⟩ := ih.1 h
          exact ⟨c :: spelled, .cons hc hspelled, rfl⟩
        · exact absurd h (Option.some_ne_none rest).symm
      · rintro ⟨spelled, hspelled, htext⟩
        cases hspelled with
        | cons hc hspelled =>
          rw [List.cons_append, List.cons.injEq] at htext
          obtain ⟨rfl, rfl⟩ := htext
          rw [if_pos hc]
          exact ih.2 ⟨_, hspelled, rfl⟩

/-- **Reading a word in any letter case** takes a spelling of it off the head. -/
theorem after?_anyCase_eq_some_iff {word s rest : Text} :
    after? anyCase word s = some rest ↔ ∃ spelled, Spells word spelled ∧ s = spelled ++ rest := by
  simp only [after?_eq_some_iff, anyCase_iff, Spells]

/-- The spellings of a word. -/
def Word (word : Text) : Grammar Unit := fun spelled _ _ => Spells word spelled

/-- Reading a word in any letter case fails where no spelling of it begins. -/
theorem after?_anyCase_eq_none_iff {word s : Text} :
    after? anyCase word s = none ↔ ¬ Begins (Word word) s := by
  rw [Option.eq_none_iff_forall_ne_some]
  constructor
  · rintro hnone ⟨spelled, _, rest, hs, hspelled⟩
    exact hnone rest (after?_anyCase_eq_some_iff.2 ⟨spelled, hspelled, hs⟩)
  · intro hbegins rest hsome
    obtain ⟨spelled, hspelled, hs⟩ := after?_anyCase_eq_some_iff.1 hsome
    exact hbegins ⟨spelled, (), rest, hs, hspelled⟩

/-! ## Runs and delimiters -/

/-- The longest run of some characters ends at the first character of another kind. -/
theorem takeWhile_append_cons {kind : Char → Bool} {run rest : Text} {c : Char}
    (hrun : ∀ d ∈ run, kind d = true) (hc : kind c = false) :
    (run ++ c :: rest).takeWhile kind = run := by
  rw [List.takeWhile_append_of_pos hrun, List.takeWhile_cons_of_neg (by simp [hc]),
    List.append_nil]

/-- Behind the longest run of some characters stands the first character of another kind. -/
theorem dropWhile_append_cons {kind : Char → Bool} {run rest : Text} {c : Char}
    (hrun : ∀ d ∈ run, kind d = true) (hc : kind c = false) :
    (run ++ c :: rest).dropWhile kind = c :: rest := by
  rw [List.dropWhile_append_of_pos hrun, List.dropWhile_cons_of_neg (by simp [hc])]

/-- The longest run of some characters ends where no further one of them follows. -/
theorem span_append_of_head? {kind : Char → Bool} {run rest : Text}
    (hrun : ∀ c ∈ run, kind c = true) (hrest : ∀ c ∈ rest.head?, kind c = false) :
    (run ++ rest).takeWhile kind = run ∧ (run ++ rest).dropWhile kind = rest := by
  cases rest with
  | nil =>
    rw [List.append_nil, List.takeWhile_eq_self_iff, List.dropWhile_eq_nil_iff]
    exact ⟨hrun, hrun⟩
  | cons c rest =>
    have hc : kind c = false := hrest c rfl
    exact ⟨takeWhile_append_cons hrun hc, dropWhile_append_cons hrun hc⟩

/-- Behind the longest run of some characters stands none of them. -/
theorem eq_false_of_mem_head?_dropWhile {kind : Char → Bool} {s : Text} :
    ∀ c ∈ (s.dropWhile kind).head?, kind c = false := by
  intro c hc
  have hnot := List.head?_dropWhile_not kind s
  rw [Option.mem_def.1 hc] at hnot
  exact hnot

/-- **Reading a run and its delimiter**: the run has the characters of one kind, to which the
delimiter does not belong. -/
theorem after?_dropWhile_eq_some_iff {kind : Char → Bool} {c : Char} (hc : kind c = false)
    {s rest : Text} :
    after? exactly [c] (s.dropWhile kind) = some rest ↔
      ∃ run, (∀ d ∈ run, kind d = true) ∧ s = run ++ c :: rest := by
  rw [after?_exactly_eq_some_iff]
  constructor
  · intro h
    refine ⟨s.takeWhile kind, fun d hd => List.mem_takeWhile_imp hd, ?_⟩
    have hsplit := List.takeWhile_append_dropWhile (p := kind) (l := s)
    rw [h] at hsplit
    exact hsplit.symm
  · rintro ⟨run, hrun, rfl⟩
    exact dropWhile_append_cons hrun hc

/-- What stands in front of a character is the text up to its first occurrence, if the character is
not in it. -/
theorem takeWhile_ne_append_cons {value rest : Text} {c : Char} (hvalue : c ∉ value) :
    (value ++ c :: rest).takeWhile (· != c) = value := by
  refine takeWhile_append_cons (fun d hd => ?_) (by simp)
  exact bne_iff_ne.2 fun h => hvalue (h ▸ hd)

/-- A text has one first occurrence of a character. -/
theorem append_cons_inj {before before' after after' : Text} {c : Char} (h : c ∉ before)
    (h' : c ∉ before') :
    before ++ c :: after = before' ++ c :: after' ↔ before = before' ∧ after = after' := by
  constructor
  · intro htext
    have htaken := congrArg (List.takeWhile (· != c)) htext
    rw [takeWhile_ne_append_cons h, takeWhile_ne_append_cons h'] at htaken
    subst htaken
    exact ⟨rfl, (List.cons.inj (List.append_cancel_left htext)).2⟩
  · rintro ⟨rfl, rfl⟩
    rfl

/-- **Reading up to a character** takes the text in front of its first occurrence. -/
theorem after?_dropWhile_ne_eq_some_iff {s rest : Text} {c : Char} :
    after? exactly [c] (s.dropWhile (· != c)) = some rest ↔
      ∃ value, c ∉ value ∧ s = value ++ c :: rest := by
  rw [after?_dropWhile_eq_some_iff (by simp)]
  constructor
  · rintro ⟨value, hvalue, rfl⟩
    exact ⟨value, fun h => bne_iff_ne.1 (hvalue c h) rfl, rfl⟩
  · rintro ⟨value, hvalue, rfl⟩
    exact ⟨value, fun d hd => bne_iff_ne.2 fun h => hvalue (h ▸ hd), rfl⟩

/-! ## The leftmost place -/

/-- **Breaking a text** at the leftmost place where a reader succeeds. -/
theorem breakAt?_eq_some_iff {next? : Text → Option Text} {s before rest : Text} :
    breakAt? next? s = some (before, rest) ↔
      ∃ behind, s = before ++ behind ∧ next? behind = some rest ∧
        ∀ front back, before = front ++ back → back ≠ [] → next? (back ++ behind) = none := by
  induction s generalizing before with
  | nil =>
    rw [breakAt?, Option.map_eq_some_iff]
    constructor
    · rintro ⟨rest, hnext, hpair⟩
      obtain ⟨rfl, rfl⟩ := Prod.mk.inj hpair
      refine ⟨[], rfl, hnext, ?_⟩
      intro front back h hback
      exact absurd (List.append_eq_nil_iff.1 h.symm).2 hback
    · rintro ⟨behind, htext, hnext, -⟩
      obtain ⟨rfl, rfl⟩ := List.append_eq_nil_iff.1 htext.symm
      exact ⟨rest, hnext, rfl⟩
  | cons c s ih =>
    rw [breakAt?]
    constructor
    · intro h
      split at h
      · rename_i rest' hnext
        obtain ⟨rfl, rfl⟩ := Prod.mk.inj (Option.some_inj.1 h)
        refine ⟨c :: s, rfl, hnext, ?_⟩
        intro front back h hback
        exact absurd (List.append_eq_nil_iff.1 h.symm).2 hback
      · rename_i hnone
        obtain ⟨⟨before', rest'⟩, hbreak, hpair⟩ := Option.map_eq_some_iff.1 h
        obtain ⟨rfl, rfl⟩ := Prod.mk.inj hpair
        obtain ⟨behind, rfl, hnext, hleftmost⟩ := ih.1 hbreak
        refine ⟨behind, rfl, hnext, ?_⟩
        intro front back h hback
        cases front with
        | nil =>
          rw [List.nil_append] at h
          exact h ▸ hnone
        | cons d front =>
          rw [List.cons_append, List.cons.injEq] at h
          exact hleftmost front back h.2 hback
    · rintro ⟨behind, htext, hnext, hleftmost⟩
      cases before with
      | nil =>
        rw [List.nil_append] at htext
        rw [htext, hnext]
      | cons d before =>
        rw [List.cons_append, List.cons.injEq] at htext
        obtain ⟨rfl, rfl⟩ := htext
        have hnone := hleftmost [] (c :: before) rfl (List.cons_ne_nil _ _)
        rw [List.cons_append] at hnone
        have hbreak : breakAt? next? (before ++ behind) = some (before, rest) := by
          refine ih.2 ⟨behind, rfl, hnext, ?_⟩
          intro front back h hback
          exact hleftmost (c :: front) back (by rw [h, List.cons_append]) hback
        rw [hnone, hbreak]
        rfl

/-- **Breaking a text at a word** in any letter case takes its leftmost spelling. -/
theorem breakAt?_anyCase_eq_some_iff {word s before rest : Text} :
    breakAt? (after? anyCase word) s = some (before, rest) ↔
      ∃ spelled, Spells word spelled ∧ s = before ++ (spelled ++ rest) ∧
        FreeOf (Word word) before (spelled ++ rest) := by
  rw [breakAt?_eq_some_iff]
  constructor
  · rintro ⟨_, rfl, hnext, hleftmost⟩
    obtain ⟨spelled, hspelled, rfl⟩ := after?_anyCase_eq_some_iff.1 hnext
    refine ⟨spelled, hspelled, rfl, ?_⟩
    intro front back h hback
    exact after?_anyCase_eq_none_iff.1 (hleftmost front back h hback)
  · rintro ⟨spelled, hspelled, rfl, free⟩
    refine ⟨spelled ++ rest, rfl, after?_anyCase_eq_some_iff.2 ⟨spelled, hspelled, rfl⟩, ?_⟩
    intro front back h hback
    exact after?_anyCase_eq_none_iff.2 (free front back h hback)

/-! ## Stripped texts -/

/-- Stripping a text drops its blanks from the left and then from the right. -/
theorem strip_eq_rdropWhile (s : Text) :
    strip s = (s.dropWhile isBlank).rdropWhile isBlank := rfl

/-- Blanks in front of a text do not matter to what is left of it when it is stripped. -/
theorem strip_append_of_isBlank {blanks : Text} (hblanks : ∀ c ∈ blanks, isBlank c = true)
    (s : Text) : strip (blanks ++ s) = strip s := by
  rw [strip_eq_rdropWhile, strip_eq_rdropWhile, List.dropWhile_append_of_pos hblanks]

/-- Nothing is left of a text of blanks. -/
theorem strip_eq_nil {s : Text} (hs : ∀ c ∈ s, isBlank c = true) : strip s = [] := by
  rw [← List.append_nil s, strip_append_of_isBlank hs]
  rfl

/-- Dropping blanks from the right leaves what holds no blank. -/
theorem isPrefix_rdropWhile {word : Text} (hword : ∀ c ∈ word, isBlank c = false) (rest : Text) :
    word <+: (word ++ rest).rdropWhile isBlank := by
  have hkept := List.rdropWhile_prefix isBlank (word ++ rest)
  rcases List.prefix_or_prefix_of_prefix (List.prefix_append word rest) hkept with h | ⟨cut, hcut⟩
  · exact h
  · -- What is dropped is blank, so it cannot reach into the word.
    have hsplit : (word ++ rest).rdropWhile isBlank ++ (word ++ rest).rtakeWhile isBlank
        = (word ++ rest).rdropWhile isBlank ++ (cut ++ rest) := by
      rw [List.rdropWhile_append_rtakeWhile, ← List.append_assoc, hcut]
    have hdropped := List.append_cancel_left hsplit
    have hcut_nil : cut = [] := by
      rw [List.eq_nil_iff_forall_not_mem]
      intro c hc
      have hblank : isBlank c = true :=
        List.mem_rtakeWhile_imp (hdropped ▸ List.mem_append_left rest hc)
      have hnot : isBlank c = false := hword c (hcut ▸ List.mem_append_right _ hc)
      exact Bool.noConfusion (hblank.symm.trans hnot)
    rw [hcut_nil, List.append_nil] at hcut
    exact ⟨[], by rw [List.append_nil, hcut]⟩

/-- **What stands at the head of a stripped text** stands behind leading blanks in the text, as long
as it holds no blank itself. -/
theorem isPrefix_strip_iff {word s : Text} (hne : word ≠ [])
    (hword : word.all (!isBlank ·) = true) :
    word <+: strip s ↔
      ∃ blanks rest, (∀ c ∈ blanks, isBlank c = true) ∧ s = blanks ++ (word ++ rest) := by
  have hkept : ∀ c ∈ word, isBlank c = false := by
    intro c hc
    have hkeeps := List.all_eq_true.1 hword c hc
    rw [Bool.not_eq_true'] at hkeeps
    exact hkeeps
  rw [strip_eq_rdropWhile]
  constructor
  · intro h
    obtain ⟨rest, hrest⟩ := h.trans (List.rdropWhile_prefix isBlank (s.dropWhile isBlank))
    refine ⟨s.takeWhile isBlank, rest, fun c hc => List.mem_takeWhile_imp hc, ?_⟩
    rw [hrest, List.takeWhile_append_dropWhile]
  · rintro ⟨blanks, rest, hblanks, rfl⟩
    have hdrop : (blanks ++ (word ++ rest)).dropWhile isBlank = word ++ rest := by
      obtain ⟨c, word, rfl⟩ := List.exists_cons_of_ne_nil hne
      exact dropWhile_append_cons hblanks (hkept c List.mem_cons_self)
    rw [hdrop]
    exact isPrefix_rdropWhile hkept rest

end DesignLint.Text
