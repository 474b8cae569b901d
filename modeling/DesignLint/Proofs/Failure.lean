import Mathlib.Data.List.Forall2

/-! # How computations fail

Statements about failures do not care for results. `failure? x` is the error of a computation, if it
ends with one, and each way to put computations together has an equation:

* `failure?_bind_or`: one computation after another;
* `failure?_mapM`: a computation for each member of a list, of which the first failure counts.

Where they do not fail, results are told step by step and member by member:

* `bind_eq_ok_iff`: the result of one computation after another;
* `mapM_eq_ok_iff`: the results for the members of a list;
* `mapM_filter_eq_ok`: those for the members that are kept. -/

namespace DesignLint

variable {ε ε' α β : Type}

/-- The error that a computation ends with, if it does. -/
def failure? : Except ε α → Option ε
  | .ok _ => none
  | .error e => some e

@[simp] theorem failure?_ok (a : α) : failure? (.ok a : Except ε α) = none := rfl

@[simp] theorem failure?_error (e : ε) : failure? (.error e : Except ε α) = some e := rfl

@[simp] theorem failure?_pure (a : α) : failure? (pure a : Except ε α) = none := rfl

/-- A computation ends with an error just when this is its failure. -/
theorem failure?_eq_some_iff {x : Except ε α} {e : ε} : failure? x = some e ↔ x = .error e := by
  cases x with
  | ok a => simp
  | error e' => simp

/-- A computation without a failure has a result. -/
theorem failure?_eq_none_iff {x : Except ε α} : failure? x = none ↔ ∃ a, x = .ok a := by
  cases x with
  | ok a => simp
  | error e => simp

/-- What is done with a result does not fail. -/
@[simp] theorem failure?_map (f : α → β) (x : Except ε α) : failure? (f <$> x) = failure? x := by
  cases x with
  | ok a => rfl
  | error e => rfl

/-- An error that is told in other words. -/
@[simp] theorem failure?_mapError (f : ε → ε') (x : Except ε α) :
    failure? (x.mapError f) = (failure? x).map f := by
  cases x with
  | ok a => rfl
  | error e => rfl

/-- What follows a result. -/
theorem ok_bind (a : α) (f : α → Except ε β) : (Except.ok a >>= f) = f a := rfl

/-- Nothing follows an error. -/
theorem error_bind (e : ε) (f : α → Except ε β) : (Except.error e >>= f) = .error e := rfl

/-- **One computation after another**: the failure of the first one, or else that of the second one,
if this does not depend on the result of the first one. -/
theorem failure?_bind_or {x : Except ε α} {f : α → Except ε β} {second : Option ε}
    (h : ∀ a, failure? (f a) = second) : failure? (x >>= f) = (failure? x).or second := by
  cases x with
  | ok a => exact h a
  | error e => rfl

/-- Two computations whose results are put together. -/
theorem failure?_pair {γ : Type} {x : Except ε α} {y : Except ε β} (f : α → β → γ) :
    failure? (do let a ← x; let b ← y; return f a b) = (failure? x).or (failure? y) :=
  failure?_bind_or fun a => failure?_map (f a) y

/-- The first hit in a list is that of its first member, or else that of the others. -/
theorem findSome?_cons_or (f : α → Option ε) (a : α) (as : List α) :
    (a :: as).findSome? f = (f a).or (as.findSome? f) := by
  rw [List.findSome?_cons]
  cases f a with
  | none => rfl
  | some e => rfl

/-- The first hit of two. -/
theorem findSome?_pair (f : α → Option ε) (first second : α) :
    [first, second].findSome? f = (f first).or (f second) := by
  rw [findSome?_cons_or, findSome?_cons_or, List.findSome?_nil, Option.or_none]

/-- The first hit in lists that are put together. -/
theorem findSome?_flatMap (f : β → Option ε) (g : α → List β) (as : List α) :
    (as.flatMap g).findSome? f = as.findSome? fun a => (g a).findSome? f := by
  induction as with
  | nil => rfl
  | cons a as ih => rw [List.flatMap_cons, List.findSome?_append, ih, findSome?_cons_or]

/-- **A computation for each member of a list** fails like the first one that fails. -/
theorem failure?_mapM (f : α → Except ε β) (as : List α) :
    failure? (as.mapM f) = as.findSome? fun a => failure? (f a) := by
  induction as with
  | nil => rfl
  | cons a as ih =>
    have hrest (b : β) : failure? (do let bs ← as.mapM f; pure (b :: bs))
        = as.findSome? fun a => failure? (f a) := (failure?_map (b :: ·) (as.mapM f)).trans ih
    rw [List.mapM_cons, failure?_bind_or hrest, findSome?_cons_or]

/-- One computation after another has a result just when both have. -/
theorem bind_eq_ok_iff {x : Except ε α} {f : α → Except ε β} {b : β} :
    (x >>= f) = .ok b ↔ ∃ a, x = .ok a ∧ f a = .ok b := by
  constructor
  · intro h
    cases x with
    | ok a => exact ⟨a, rfl, h⟩
    | error e => exact nomatch h
  · rintro ⟨a, rfl, h⟩
    exact h

/-- What is done with a result is done with the result that there is. -/
theorem map_eq_ok_iff {f : α → β} {x : Except ε α} {b : β} :
    f <$> x = .ok b ↔ ∃ a, x = .ok a ∧ f a = b := by
  cases x with
  | ok a =>
    constructor
    · rintro ⟨⟩
      exact ⟨a, rfl, rfl⟩
    · rintro ⟨_, ⟨⟩, rfl⟩
      rfl
  | error e => exact ⟨nofun, nofun⟩

/-- Errors that are told in other words leave results as they are. -/
theorem mapError_eq_ok_iff {f : ε → ε'} {x : Except ε α} {a : α} :
    x.mapError f = .ok a ↔ x = .ok a := by
  cases x with
  | ok b => rw [Except.mapError, Except.ok.injEq, Except.ok.injEq]
  | error e => exact ⟨nofun, nofun⟩

/-- One computation after another ends with an error just when the first one does, or the second one
does behind a result of the first one. -/
theorem bind_eq_error_iff {x : Except ε α} {f : α → Except ε β} {e : ε} :
    (x >>= f) = .error e ↔ x = .error e ∨ ∃ a, x = .ok a ∧ f a = .error e := by
  cases x with
  | ok a =>
    rw [ok_bind]
    constructor
    · intro h
      exact .inr ⟨a, rfl, h⟩
    · rintro (⟨⟨⟩⟩ | ⟨_, ⟨⟩, h⟩)
      exact h
  | error e' =>
    rw [error_bind, Except.error.injEq, Except.error.injEq]
    exact ⟨.inl, fun h => h.elim id nofun⟩

/-- An error that is told in other words comes from one. -/
theorem mapError_eq_error_iff {f : ε → ε'} {x : Except ε α} {e' : ε'} :
    x.mapError f = .error e' ↔ ∃ e, x = .error e ∧ f e = e' := by
  cases x with
  | ok a => exact ⟨nofun, nofun⟩
  | error e =>
    rw [Except.mapError, Except.error.injEq]
    constructor
    · intro h
      exact ⟨e, rfl, h⟩
    · rintro ⟨_, ⟨⟩, h⟩
      exact h

/-- **The results for a list** are those for its members, one by one. -/
theorem mapM_eq_ok_iff {f : α → Except ε β} {as : List α} {bs : List β} :
    as.mapM f = .ok bs ↔ List.Forall₂ (fun a b => f a = .ok b) as bs := by
  induction as generalizing bs with
  | nil =>
    rw [List.mapM_nil, List.forall₂_nil_left_iff]
    constructor
    · intro h
      exact (Except.ok.inj h).symm
    · rintro rfl
      rfl
  | cons a as ih =>
    rw [List.mapM_cons, bind_eq_ok_iff, List.forall₂_cons_left_iff]
    constructor
    · rintro ⟨b, hb, hrest⟩
      obtain ⟨rest, hmapM, hcons⟩ := bind_eq_ok_iff.1 hrest
      exact ⟨b, rest, hb, ih.1 hmapM, (Except.ok.inj hcons).symm⟩
    · rintro ⟨b, rest, hb, hmapM, rfl⟩
      exact ⟨b, hb, bind_eq_ok_iff.2 ⟨rest, ih.2 hmapM, rfl⟩⟩

/-- What is true of every result of a computation is true of the results for a list. -/
theorem forall_of_mapM_eq_ok {f : α → Except ε β} {as : List α} {bs : List β} {good : β → Prop}
    (h : as.mapM f = .ok bs) (hgood : ∀ a b, f a = .ok b → good b) : ∀ b ∈ bs, good b := by
  have hresults := mapM_eq_ok_iff.1 h
  clear h
  induction hresults with
  | nil => exact nofun
  | cons hb _ ih => exact List.forall_mem_cons.2 ⟨hgood _ _ hb, ih⟩

/-- The results for the members of a list that are kept, by a computation that has the same results
for them. -/
theorem mapM_filter_eq_ok {f g : α → Except ε β} {key : β → α} {keep : α → Bool} {as : List α}
    {bs : List β} (h : as.mapM f = .ok bs)
    (hsame : ∀ a b, f a = .ok b → key b = a ∧ (keep a = true → g a = .ok b)) :
    (as.filter keep).mapM g = .ok (bs.filter fun b => keep (key b)) := by
  have hkept : List.Forall₂ (fun a b => f a = .ok b) (as.filter keep)
      (bs.filter fun b => keep (key b)) := by
    refine List.rel_filter (fun a b hb => ?_) (mapM_eq_ok_iff.1 h)
    show keep a = true ↔ keep (key b) = true
    rw [(hsame a b hb).1]
  have hmem : ∀ a ∈ as.filter keep, keep a = true := fun a ha => (List.mem_filter.1 ha).2
  refine mapM_eq_ok_iff.2 (((List.forall₂_and_left _ _).2 ⟨hmem, hkept⟩).imp ?_)
  rintro a b ⟨hkeep, hb⟩
  exact (hsame a b hb).2 hkeep

/-- **Members that are kept one by one**: each of them must give a result, and `keep` says which of
them do not drop out. -/
theorem filterMapM_eq_ok_iff {f : α → Except ε (Option α)} {keep : α → Bool}
    (hkeep : ∀ a kept, f a = .ok kept → kept = if keep a then some a else none) {as bs : List α} :
    as.filterMapM f = .ok bs ↔ (∀ a ∈ as, ∃ kept, f a = .ok kept) ∧ bs = as.filter keep := by
  induction as generalizing bs with
  | nil =>
    rw [List.filterMapM_nil, List.filter_nil]
    constructor
    · intro h
      exact ⟨nofun, (Except.ok.inj h).symm⟩
    · rintro ⟨-, rfl⟩
      rfl
  | cons a as ih =>
    rw [List.filterMapM_cons, bind_eq_ok_iff, List.forall_mem_cons, and_assoc, ← exists_and_right]
    refine exists_congr fun kept => and_congr_right fun hkept => ?_
    rw [hkeep a kept hkept]
    cases hkept' : keep a with
    | false =>
      rw [List.filter_cons_of_neg (by rw [hkept']; exact Bool.false_ne_true)]
      exact ih
    | true =>
      rw [List.filter_cons_of_pos hkept']
      show (List.cons a <$> as.filterMapM f) = .ok bs ↔ _
      rw [map_eq_ok_iff]
      constructor
      · rintro ⟨rest, hrest, rfl⟩
        obtain ⟨hall, rfl⟩ := ih.1 hrest
        exact ⟨hall, rfl⟩
      · rintro ⟨hall, rfl⟩
        exact ⟨_, ih.2 ⟨hall, rfl⟩, rfl⟩

/-- Where this fails, one of the members fails. -/
theorem exists_of_filterMapM_eq_error {f : α → Except ε (Option β)} {as : List α} {e : ε}
    (h : as.filterMapM f = .error e) : ∃ a ∈ as, f a = .error e := by
  induction as with
  | nil => exact nomatch h
  | cons a as ih =>
    rw [List.filterMapM_cons, bind_eq_error_iff] at h
    rcases h with h | ⟨kept, -, h⟩
    · exact ⟨a, List.mem_cons_self, h⟩
    · have hrest : as.filterMapM f = .error e := by
        cases kept with
        | none => exact h
        | some b => exact (bind_eq_error_iff.1 h).resolve_right nofun
      obtain ⟨a', ha', herror⟩ := ih hrest
      exact ⟨a', List.mem_cons_of_mem a ha', herror⟩

/-- A list has results for all its members, or one of them has none. -/
theorem mapM_eq_none_iff {f : α → Option β} {as : List α} :
    as.mapM f = none ↔ ∃ a ∈ as, f a = none := by
  induction as with
  | nil => simp
  | cons a as ih =>
    simp only [List.mapM_cons, List.mem_cons, exists_eq_or_imp, ← ih]
    cases f a with
    | none => simp
    | some b =>
      cases as.mapM f with
      | none => simp
      | some bs => simp

end DesignLint
