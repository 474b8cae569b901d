import DesignLint.Text.Lemmas
import Mathlib.Data.List.Basic

/-! # Splitting a text at what occurs in it

What a search finds, said without the search. A `Grammar` says which texts are occurrences; a text
is split by it into gaps, in which no occurrence begins, and the occurrences between them:

* `Splits G s split`: the gaps and occurrences of `split` make up `s`, each occurrence is the
  leftmost one behind the occurrence before it, and nothing occurs in the last gap;
* `Reads p G`: the pattern `p` reads just the occurrences of `G`;
* `Reads.exists_splits`, `Reads.splits_unique`: there is exactly one split;
* `Reads.findAll_eq`: a search finds the occurrences of the split, each where it stands;
* `Reads.findAll_append_of_freeOf`: what a search finds behind text in which nothing begins;
* `Reads.find?_eq_some_iff`, `Reads.find?_eq_none_iff`: what a search for one occurrence finds;
* `Occurs`, `First`: that something occurs, and what the leftmost occurrence stands for. -/

namespace DesignLint.Text

variable {α : Type}

/-- The occurrences of some kind: `G body value rest` says that `body`, with `rest` behind it, is an
occurrence that stands for `value`. -/
abbrev Grammar (α : Type) := (body : Text) → (value : α) → (rest : Text) → Prop

/-- An occurrence begins at the head of a text. -/
def Begins (G : Grammar α) (s : Text) : Prop :=
  ∃ body value rest, s = body ++ rest ∧ G body value rest

/-- No occurrence begins inside `gap`, where `rest` stands behind the gap. An occurrence that would
begin inside the gap may reach into `rest`. -/
def FreeOf (G : Grammar α) (gap rest : Text) : Prop :=
  ∀ front back, gap = front ++ back → back ≠ [] → ¬ Begins G (back ++ rest)

/-- An occurrence and the gap in front of it. -/
structure Piece (α : Type) where
  /-- The text since the occurrence before. -/
  gap : Text
  /-- The occurrence. -/
  body : Text
  /-- What the occurrence stands for. -/
  value : α

/-- A text, taken apart at some occurrences. -/
structure Split (α : Type) where
  /-- The occurrences from left to right. -/
  pieces : List (Piece α)
  /-- The text behind the last occurrence. -/
  tail : Text

/-- `Splits G s split`: the pieces and the tail of `split` make up `s`, the bodies are occurrences,
and no occurrence of the whole text begins in a gap or in the tail. -/
inductive Splits (G : Grammar α) : Text → Split α → Prop
  /-- A text in which nothing occurs. -/
  | tail {s : Text} (free : FreeOf G s []) : Splits G s ⟨[], s⟩
  /-- A gap, an occurrence, and a split of the rest. -/
  | piece {s : Text} (piece : Piece α) {split : Split α}
      (free : FreeOf G piece.gap (piece.body ++ s)) (occurs : G piece.body piece.value s)
      (rest : Splits G s split) :
      Splits G (piece.gap ++ (piece.body ++ s)) ⟨piece :: split.pieces, split.tail⟩

/-- Pieces, each with the whole text in front of its body, where `before` stands in front of the
first gap. -/
def placed : (before : Text) → List (Piece α) → List (Text × Piece α)
  | _, [] => []
  | before, piece :: pieces =>
    (before ++ piece.gap, piece) :: placed (before ++ piece.gap ++ piece.body) pieces

/-- A pattern reads just the occurrences of a grammar, and these are never empty. -/
structure Reads (p : Pattern α) (G : Grammar α) : Prop where
  /-- The pattern succeeds where an occurrence begins, and leaves what stands behind it. -/
  eq_some_iff : ∀ s value rest,
    p s = some (value, rest) ↔ ∃ body, s = body ++ rest ∧ G body value rest
  /-- An occurrence has a first character. -/
  body_ne_nil : ∀ body value rest, G body value rest → body ≠ []

/-! ## Gaps -/

/-- Nothing begins inside an empty gap. -/
@[simp] theorem freeOf_nil (G : Grammar α) (rest : Text) : FreeOf G [] rest := by
  intro front back h hback
  exact absurd (List.append_eq_nil_iff.1 h.symm).2 hback

/-- A gap is free if nothing begins at its first character and its other characters are a free
gap. -/
theorem freeOf_cons {G : Grammar α} {c : Char} {gap rest : Text} :
    FreeOf G (c :: gap) rest ↔ ¬ Begins G (c :: gap ++ rest) ∧ FreeOf G gap rest := by
  constructor
  · intro h
    refine ⟨h [] (c :: gap) rfl (List.cons_ne_nil _ _), ?_⟩
    intro front back hgap hback
    exact h (c :: front) back (by rw [hgap, List.cons_append]) hback
  · rintro ⟨hhead, hrest⟩ front back hgap hback
    cases front with
    | nil =>
      rw [List.nil_append] at hgap
      exact hgap ▸ hhead
    | cons d front =>
      rw [List.cons_append, List.cons.injEq] at hgap
      exact hrest front back hgap.2 hback

/-- A text is a gap if it holds no character with which an occurrence begins. -/
theorem freeOf_of_not_mem {G : Grammar α} {gap rest : Text}
    (hne : ∀ body value rest, G body value rest → body ≠ [])
    (hgap : ∀ body value rest, G body value rest → ∀ c ∈ body.head?, c ∉ gap) :
    FreeOf G gap rest := by
  rintro front back rfl hback ⟨body, value, behind, htext, hG⟩
  obtain ⟨c, back, rfl⟩ := List.exists_cons_of_ne_nil hback
  obtain ⟨d, body, rfl⟩ := List.exists_cons_of_ne_nil (hne _ _ _ hG)
  rw [List.cons_append, List.cons_append, List.cons.injEq] at htext
  refine hgap _ _ _ hG d rfl (List.mem_append_right front ?_)
  rw [htext.1]
  exact List.mem_cons_self

/-- Of two free gaps in front of occurrences of one text, none is shorter than the other. -/
theorem FreeOf.length_le {G : Grammar α} {gap gap' s s' : Text} (free : FreeOf G gap s)
    (begins : Begins G s') (same : gap ++ s = gap' ++ s') : gap.length ≤ gap'.length := by
  by_contra hlt
  obtain ⟨back, hgap, hs⟩ | ⟨back, hgap', hs⟩ := List.append_eq_append_iff.1 same
  · rw [hgap, List.length_append] at hlt
    omega
  · have hback : back ≠ [] := by
      rintro rfl
      rw [hgap', List.append_nil] at hlt
      omega
    exact free gap' back hgap' hback (hs ▸ begins)

/-- An occurrence somewhere in a text has a leftmost one in front of it, or is that itself. -/
theorem exists_leftmost {G : Grammar α} (front : Text) {back : Text} (begins : Begins G back) :
    ∃ gap body value rest, front ++ back = gap ++ (body ++ rest) ∧ G body value rest ∧
      FreeOf G gap (body ++ rest) := by
  induction front with
  | nil =>
    obtain ⟨body, value, rest, rfl, hG⟩ := begins
    exact ⟨[], body, value, rest, rfl, hG, freeOf_nil G _⟩
  | cons c front ih =>
    by_cases hhead : Begins G (c :: front ++ back)
    · obtain ⟨body, value, rest, hs, hG⟩ := hhead
      exact ⟨[], body, value, rest, hs, hG, freeOf_nil G _⟩
    · obtain ⟨gap, body, value, rest, hs, hG, free⟩ := ih
      rw [List.cons_append, hs] at hhead
      exact ⟨c :: gap, body, value, rest, by rw [List.cons_append, hs, List.cons_append], hG,
        freeOf_cons.2 ⟨hhead, free⟩⟩

/-! ## The split of a text -/

namespace Reads

variable {p : Pattern α} {G : Grammar α}

/-- A pattern fails where no occurrence begins. -/
theorem eq_none_iff (h : Reads p G) {s : Text} : p s = none ↔ ¬ Begins G s := by
  rw [Option.eq_none_iff_forall_ne_some]
  constructor
  · rintro hnone ⟨body, value, rest, hs, hG⟩
    exact hnone _ ((h.eq_some_iff s value rest).2 ⟨body, hs, hG⟩)
  · rintro hbegins ⟨value, rest⟩ hsome
    obtain ⟨body, hs, hG⟩ := (h.eq_some_iff s value rest).1 hsome
    exact hbegins ⟨body, value, rest, hs, hG⟩

/-- At most one occurrence begins at the head of a text. -/
theorem occurrence_unique (h : Reads p G) {body body' rest rest' : Text} {value value' : α}
    (hG : G body value rest) (hG' : G body' value' rest') (same : body ++ rest = body' ++ rest') :
    body = body' ∧ value = value' ∧ rest = rest' := by
  have hread := (h.eq_some_iff (body ++ rest) value rest).2 ⟨body, rfl, hG⟩
  have hread' := (h.eq_some_iff (body ++ rest) value' rest').2 ⟨body', same, hG'⟩
  rw [hread, Option.some_inj, Prod.mk.injEq] at hread'
  obtain ⟨hvalue, rfl⟩ := hread'
  exact ⟨List.append_cancel_right same, hvalue, rfl⟩

/-- Every text has a split. -/
theorem exists_splits (h : Reads p G) (s : Text) : ∃ split, Splits G s split := by
  -- Induction on the length: behind an occurrence, more than one character is gone.
  induction hn : s.length using Nat.strongRecOn generalizing s with
  | ind n ih =>
    cases s with
    | nil => exact ⟨⟨[], []⟩, .tail (freeOf_nil G [])⟩
    | cons c s =>
      by_cases hbegins : Begins G (c :: s)
      · obtain ⟨body, value, rest, hs, hG⟩ := hbegins
        have hbody := List.length_pos_iff.2 (h.body_ne_nil _ _ _ hG)
        have hlength := congrArg List.length hs
        rw [List.length_append] at hlength
        obtain ⟨split, hsplit⟩ := ih rest.length (by omega) rest rfl
        rw [hs]
        exact ⟨_, .piece ⟨[], body, value⟩ (freeOf_nil G _) hG hsplit⟩
      · rw [List.length_cons] at hn
        obtain ⟨split, hsplit⟩ := ih s.length (by omega) s rfl
        cases hsplit with
        | tail free =>
          exact ⟨_, .tail (freeOf_cons.2 ⟨by rwa [List.append_nil], free⟩)⟩
        | @piece rest piece split free occurs hrest =>
          exact ⟨_, .piece ⟨c :: piece.gap, piece.body, piece.value⟩
            (freeOf_cons.2 ⟨hbegins, free⟩) occurs hrest⟩

/-- No text has two splits. -/
theorem splits_unique (h : Reads p G) {s : Text} {split split' : Split α} (hs : Splits G s split)
    (hs' : Splits G s split') : split = split' := by
  induction hs generalizing split' with
  | @tail s free =>
    cases hs' with
    | tail => rfl
    | @piece rest piece split' free' occurs' hrest' =>
      -- The occurrence would begin inside the tail.
      have hbody := h.body_ne_nil _ _ _ occurs'
      refine absurd ⟨piece.body, piece.value, rest, ?_, occurs'⟩
        (free piece.gap (piece.body ++ rest) rfl (by simp [hbody]))
      rw [List.append_nil]
  | @piece rest piece split free occurs hrest ih =>
    generalize htext : piece.gap ++ (piece.body ++ rest) = text at hs'
    cases hs' with
    | tail free' =>
      have hbody := h.body_ne_nil _ _ _ occurs
      refine absurd ⟨piece.body, piece.value, rest, ?_, occurs⟩
        (free' piece.gap (piece.body ++ rest) htext.symm (by simp [hbody]))
      rw [List.append_nil]
    | @piece rest' piece' split' free' occurs' hrest' =>
      -- Neither gap is shorter than the other, so the occurrences begin at one place.
      have hle := free.length_le ⟨_, _, _, rfl, occurs'⟩ htext
      have hge := free'.length_le ⟨_, _, _, rfl, occurs⟩ htext.symm
      obtain ⟨hgap, hbodies⟩ := List.append_inj htext (Nat.le_antisymm hle hge)
      obtain ⟨hbody, hvalue, rfl⟩ := h.occurrence_unique occurs occurs' hbodies
      have hpiece : piece = piece' := by
        cases piece
        cases piece'
        simp_all
      rw [hpiece, ih hrest']

/-! ## What a search finds -/

/-- A search passes over a free gap. -/
theorem findFrom_gap (h : Reads p G) {gap rest : Text} (free : FreeOf G gap rest) (offset : Nat) :
    findFrom p offset 0 (gap ++ rest) = findFrom p (offset + gap.length) 0 rest := by
  induction gap generalizing offset with
  | nil => rfl
  | cons c gap ih =>
    obtain ⟨hhead, hgap⟩ := freeOf_cons.1 free
    have hnone : p (c :: (gap ++ rest)) = none := h.eq_none_iff.2 hhead
    rw [List.cons_append, findFrom, hnone, ih hgap, List.length_cons, Nat.add_right_comm,
      Nat.add_assoc]

/-- A search that stands at an occurrence finds it and goes on behind it. -/
theorem findFrom_occurrence (h : Reads p G) {body rest : Text} {value : α}
    (hG : G body value rest) (offset : Nat) :
    findFrom p offset 0 (body ++ rest)
      = ⟨offset, value⟩ :: findFrom p (offset + body.length) 0 rest := by
  have hread := (h.eq_some_iff (body ++ rest) value rest).2 ⟨body, rfl, hG⟩
  obtain ⟨c, body, rfl⟩ := List.exists_cons_of_ne_nil (h.body_ne_nil _ _ _ hG)
  rw [List.cons_append] at hread ⊢
  rw [findFrom, hread]
  have hskip : (body ++ rest).length - rest.length = body.length := by
    rw [List.length_append, Nat.add_sub_cancel]
  simp only [hskip]
  rw [findFrom_skip p (offset + 1) body.length, List.drop_left, List.length_cons,
    Nat.add_right_comm, Nat.add_assoc]

/-- A search that begins behind `before` finds the occurrences of a split, each behind the text in
front of it. -/
theorem findFrom_eq (h : Reads p G) {s : Text} {split : Split α} (hs : Splits G s split)
    (before : Text) :
    findFrom p before.length 0 s
      = (placed before split.pieces).map fun (front, piece) => ⟨front.length, piece.value⟩ := by
  induction hs generalizing before with
  | @tail s free =>
    have hgap := h.findFrom_gap free before.length
    rwa [List.append_nil] at hgap
  | @piece rest piece split free occurs _ ih =>
    rw [h.findFrom_gap free, h.findFrom_occurrence occurs, placed, List.map_cons, ← ih]
    simp only [List.length_append]

/-- **A search finds the occurrences of the split**, each behind the text in front of it. -/
theorem findAll_eq (h : Reads p G) {s : Text} {split : Split α} (hs : Splits G s split) :
    findAll p s
      = (placed [] split.pieces).map fun (front, piece) => ⟨front.length, piece.value⟩ :=
  h.findFrom_eq hs []

/-- **Text in which nothing begins** moves the occurrences behind it and changes nothing else. -/
theorem findAll_append_of_freeOf (h : Reads p G) {gap s : Text} (free : FreeOf G gap s) :
    findAll p (gap ++ s)
      = (findAll p s).map fun found => { found with offset := gap.length + found.offset } := by
  rw [findAll, h.findFrom_gap free, Nat.zero_add, ← Nat.add_zero gap.length, findFrom_add]
  rfl

/-- A pattern reads what its occurrence stands for. -/
theorem eq_some (h : Reads p G) {body rest : Text} {value : α} (hG : G body value rest) :
    p (body ++ rest) = some (value, rest) :=
  (h.eq_some_iff _ _ _).2 ⟨body, rfl, hG⟩

/-- A search for one occurrence passes over a free gap. -/
theorem find?_gap (h : Reads p G) {gap body rest : Text} {value : α}
    (free : FreeOf G gap (body ++ rest)) (hG : G body value rest) :
    find? p (gap ++ (body ++ rest)) = some value := by
  induction gap with
  | nil =>
    have hread := h.eq_some hG
    obtain ⟨c, body, rfl⟩ := List.exists_cons_of_ne_nil (h.body_ne_nil _ _ _ hG)
    rw [List.cons_append] at hread
    rw [List.nil_append, List.cons_append, find?, hread]
  | cons c gap ih =>
    obtain ⟨hhead, hgap⟩ := freeOf_cons.1 free
    have hnone : p (c :: (gap ++ (body ++ rest))) = none := h.eq_none_iff.2 hhead
    rw [List.cons_append, find?, hnone]
    exact ih hgap

/-- **A search for one occurrence fails** just when nothing occurs. -/
theorem find?_eq_none_iff (h : Reads p G) {s : Text} : find? p s = none ↔ FreeOf G s [] := by
  induction s with
  | nil => simp [find?]
  | cons c s ih =>
    rw [freeOf_cons, List.append_nil, ← h.eq_none_iff, ← ih, find?]
    cases p (c :: s) with
    | none => simp
    | some found => simp

/-- **A search for one occurrence finds the leftmost one.** -/
theorem find?_eq_some_iff (h : Reads p G) {s : Text} {value : α} :
    find? p s = some value ↔ ∃ gap body rest, s = gap ++ (body ++ rest) ∧ G body value rest ∧
      FreeOf G gap (body ++ rest) := by
  constructor
  · intro hfind
    have hoccurs : ¬ FreeOf G s [] := by
      rw [← h.find?_eq_none_iff, hfind]
      exact Option.some_ne_none value
    -- Something occurs, so something occurs first, and this is what the search finds.
    obtain ⟨front, back, hs, hbegins⟩ : ∃ front back, s = front ++ back ∧ Begins G back := by
      by_contra hnone
      refine hoccurs fun front back hs _ hbegins => hnone ⟨front, back, hs, ?_⟩
      rwa [List.append_nil] at hbegins
    obtain ⟨gap, body, value', rest, htext, hG, free⟩ := exists_leftmost front hbegins
    rw [hs, htext, h.find?_gap free hG, Option.some_inj] at hfind
    exact ⟨gap, body, rest, hs.trans htext, hfind ▸ hG, free⟩
  · rintro ⟨gap, body, rest, rfl, hG, free⟩
    exact h.find?_gap free hG

end Reads

/-- The text in front of an occurrence, the occurrence and the text behind it make up the whole. -/
theorem Splits.mem_placed {G : Grammar α} {s : Text} {split : Split α} (hs : Splits G s split)
    {before front : Text} {piece : Piece α} (hmem : (front, piece) ∈ placed before split.pieces) :
    ∃ rest, before ++ s = front ++ (piece.body ++ rest) ∧ G piece.body piece.value rest := by
  induction hs generalizing before with
  | tail => exact absurd hmem List.not_mem_nil
  | @piece rest first split _ occurs _ ih =>
    rw [placed, List.mem_cons, Prod.mk.injEq] at hmem
    rcases hmem with ⟨rfl, rfl⟩ | hmem
    · exact ⟨rest, by simp only [List.append_assoc], occurs⟩
    · obtain ⟨behind, htext, hG⟩ := ih hmem
      exact ⟨behind, by simpa only [List.append_assoc] using htext, hG⟩

/-- The occurrences of a split are parts of the text. -/
theorem Splits.isInfix_of_mem_placed {G : Grammar α} {s : Text} {split : Split α}
    (hs : Splits G s split) {front : Text} {piece : Piece α}
    (hmem : (front, piece) ∈ placed [] split.pieces) :
    piece.body <:+: s ∧ ∃ rest, G piece.body piece.value rest := by
  obtain ⟨rest, htext, hG⟩ := hs.mem_placed hmem
  rw [List.nil_append] at htext
  exact ⟨htext ▸ List.infix_append' front piece.body rest, rest, hG⟩

/-! ## The first occurrence -/

/-- Something occurs in a text. -/
def Occurs (G : Grammar α) (s : Text) : Prop := ∃ front back, s = front ++ back ∧ Begins G back

/-- The leftmost occurrence in a text stands for `value`. -/
def First (G : Grammar α) (s : Text) (value : α) : Prop :=
  ∃ gap body rest, s = gap ++ (body ++ rest) ∧ G body value rest ∧ FreeOf G gap (body ++ rest)

/-- What occurs first occurs. -/
theorem First.occurs {G : Grammar α} {s : Text} {value : α} (h : First G s value) : Occurs G s := by
  obtain ⟨gap, body, rest, hs, hG, -⟩ := h
  exact ⟨gap, body ++ rest, hs, body, value, rest, rfl, hG⟩

/-- Where something occurs, something occurs first. -/
theorem Occurs.exists_first {G : Grammar α} {s : Text} (h : Occurs G s) :
    ∃ value, First G s value := by
  obtain ⟨front, back, rfl, begins⟩ := h
  obtain ⟨gap, body, value, rest, hs, hG, free⟩ := exists_leftmost front begins
  exact ⟨value, gap, body, rest, hs, hG, free⟩

namespace Reads

variable {p : Pattern α} {G : Grammar α}

/-- A search for one occurrence fails where nothing occurs. -/
theorem find?_eq_none_iff_not_occurs (h : Reads p G) {s : Text} :
    find? p s = none ↔ ¬ Occurs G s := by
  constructor
  · intro hnone hoccurs
    obtain ⟨value, hfirst⟩ := hoccurs.exists_first
    rw [h.find?_eq_some_iff.2 hfirst] at hnone
    exact Option.some_ne_none value hnone
  · intro hoccurs
    rw [Option.eq_none_iff_forall_ne_some]
    intro value hsome
    have hfirst : First G s value := h.find?_eq_some_iff.1 hsome
    exact hoccurs hfirst.occurs

/-- Only one thing occurs first. -/
theorem first_unique (h : Reads p G) {s : Text} {value value' : α} (hfirst : First G s value)
    (hfirst' : First G s value') : value = value' := by
  have hsome := h.find?_eq_some_iff.2 hfirst
  rw [h.find?_eq_some_iff.2 hfirst', Option.some_inj] at hsome
  exact hsome.symm

end Reads

end DesignLint.Text
