/-! # Association lists

Lists of pairs in which every key has one value. Keys keep the order of their first arrival. -/

namespace DesignLint.Association

/-- Gives `key` the value `value`: in the place of the key if one that is the `same` is present, at
the end otherwise. A key that is present stays as it is. -/
def insert {κ α : Type} (same : κ → κ → Bool) : List (κ × α) → κ → α → List (κ × α)
  | [], key, value => [(key, value)]
  | (k, v) :: rest, key, value =>
    if same k key then (k, value) :: rest else (k, v) :: insert same rest key value

/-- The keys after a new value: the same, or one more at the end. -/
theorem keys_insert {κ α : Type} (same : κ → κ → Bool) (pairs : List (κ × α)) (key : κ)
    (value : α) :
    (insert same pairs key value).map (·.1) =
      if pairs.any fun pair => same pair.1 key then pairs.map (·.1)
      else pairs.map (·.1) ++ [key] := by
  induction pairs with
  | nil => rfl
  | cons pair rest ih =>
    by_cases h : same pair.1 key
    · simp [insert, h]
    · by_cases hr : rest.any fun pair => same pair.1 key
      · simp [insert, h, ih, hr]
      · simp [insert, h, ih, hr]

/-- The value of a key is the last one that it was given. -/
theorem lookup_insert {κ α : Type} [BEq κ] [LawfulBEq κ] (pairs : List (κ × α)) (key other : κ)
    (value : α) :
    (insert (· == ·) pairs key value).lookup other =
      if other == key then some value else pairs.lookup other := by
  induction pairs with
  | nil =>
    rw [insert, List.lookup_cons]
    cases other == key <;> rfl
  | cons pair rest ih =>
    obtain ⟨k, v⟩ := pair
    by_cases h : k = key
    · subst h
      cases ho : other == k <;> simp [insert, List.lookup_cons, ho]
    · by_cases ho : other = k
      · subst ho
        simp [insert, h]
      · simp [insert, List.lookup_cons, h, beq_false_of_ne ho, ih]

/-- The association list of some pairs, of which later ones win. -/
def ofList {κ α : Type} (same : κ → κ → Bool) (pairs : List (κ × α)) : List (κ × α) :=
  pairs.foldl (fun done pair => insert same done pair.1 pair.2) []

end DesignLint.Association
