import DesignLint.Proofs.Json.Completeness

/-! # Reading documents

The reader accepts nothing but what the grammar derives, and so it reads just the documents:

* `Json.exists_of_readAtom`: values without members;
* `Json.derives`: values, elements and members;
* `Json.parse?_eq_some_iff`: documents;
* `Json.Document.unique`: a text is a document of one value at most. -/

namespace DesignLint.Json

open Text

variable {value : Json} {items : List Json} {fields : List (Text × Json)} {s w rest : Text}
  {steps : Nat} {c : Char}

/-! ## What is read -/

/-- What is read as a value without members is one. -/
theorem exists_of_readAtom (h : readAtom s = some (value, rest)) :
    ∃ w, Atom value w ∧ s = w ++ rest := by
  rw [readAtom.eq_def] at h
  split at h
  · obtain ⟨s, hs, hpair⟩ := Option.map_eq_some_iff.1 h
    cases hpair
    rw [after?_exactly_eq_some_iff] at hs
    exact ⟨_, .null, by rw [hs]; rfl⟩
  · obtain ⟨s, hs, hpair⟩ := Option.map_eq_some_iff.1 h
    cases hpair
    rw [after?_exactly_eq_some_iff] at hs
    exact ⟨_, .bool true, by rw [hs]; rfl⟩
  · obtain ⟨s, hs, hpair⟩ := Option.map_eq_some_iff.1 h
    cases hpair
    rw [after?_exactly_eq_some_iff] at hs
    exact ⟨_, .bool false, by rw [hs]; rfl⟩
  · obtain ⟨⟨t, s⟩, hs, hpair⟩ := Option.map_eq_some_iff.1 h
    cases hpair
    obtain ⟨w, hw, rfl⟩ := readString_eq_some_iff.1 hs
    exact ⟨_, .text ⟨hw⟩, by simp⟩
  · obtain ⟨⟨n, s⟩, hs, hpair⟩ := Option.map_eq_some_iff.1 h
    cases hpair
    obtain ⟨w, hw, -, rfl⟩ := readMagnitude_eq_some_iff.1 hs
    exact ⟨_, .negative hw, rfl⟩
  · obtain ⟨⟨n, s⟩, hs, hpair⟩ := Option.map_eq_some_iff.1 h
    cases hpair
    obtain ⟨w, hw, -, rfl⟩ := readMagnitude_eq_some_iff.1 hs
    exact ⟨_, .natural hw, rfl⟩

/-- What is read in `steps` is derived by the grammar. -/
structure Derives (steps : Nat) : Prop where
  /-- A value stands behind space. -/
  value {value : Json} {s rest : Text} (h : readValue steps s = some (value, rest)) :
    ∃ before w, Space before ∧ Written value w ∧ s = before ++ (w ++ rest)
  /-- Elements stand in front of a closing bracket. -/
  items {items : List Json} {s rest : Text} (h : readItems steps s = some (items, rest)) :
    ∃ w, Elements items w ∧ s = w ++ ']' :: rest
  /-- Members stand in front of a closing brace. -/
  fields {fields : List (Text × Json)} {s rest : Text}
    (h : readFields steps s = some (fields, rest)) : ∃ w, Members fields w ∧ s = w ++ '}' :: rest

/-- What is read behind an opening bracket. -/
theorem Derives.value_bracket (h : Derives steps)
    (hs : readValue (steps + 1) ('[' :: s) = some (value, rest)) :
    ∃ w, Written value w ∧ '[' :: s = w ++ rest := by
  rw [readValue_bracket] at hs
  split at hs
  · rename_i t hclose
    obtain ⟨space, hspace, heq⟩ := exists_space s
    cases hs
    exact ⟨_, .emptyArray hspace, by rw [heq, hclose]; simp⟩
  · rw [readItems_dropSpace] at hs
    obtain ⟨⟨items, t⟩, hitems, hpair⟩ := Option.map_eq_some_iff.1 hs
    cases hpair
    obtain ⟨w, hw, rfl⟩ := h.items hitems
    exact ⟨_, .array hw, by simp⟩

/-- What is read behind an opening brace. -/
theorem Derives.value_brace (h : Derives steps)
    (hs : readValue (steps + 1) ('{' :: s) = some (value, rest)) :
    ∃ w, Written value w ∧ '{' :: s = w ++ rest := by
  rw [readValue_brace] at hs
  split at hs
  · rename_i t hclose
    obtain ⟨space, hspace, heq⟩ := exists_space s
    cases hs
    exact ⟨_, .emptyObject hspace, by rw [heq, hclose]; simp⟩
  · rw [readFields_dropSpace] at hs
    obtain ⟨⟨fields, t⟩, hfields, hpair⟩ := Option.map_eq_some_iff.1 hs
    cases hpair
    obtain ⟨w, hw, rfl⟩ := h.fields hfields
    exact ⟨_, .object hw, by simp⟩

/-- One more step reads nothing but values. -/
theorem Derives.value_succ (h : Derives steps)
    (hs : readValue (steps + 1) s = some (value, rest)) :
    ∃ before w, Space before ∧ Written value w ∧ s = before ++ (w ++ rest) := by
  obtain ⟨before, hbefore, hspace⟩ := exists_space s
  -- The character behind the space tells what kind of value is read.
  have hvisible : ∃ w, Written value w ∧ dropSpace s = w ++ rest := by
    rw [← readValue_dropSpace] at hs
    have hread := hs
    rw [readValue, dropSpace_dropSpace] at hread
    split at hread
    · rename_i heq
      rw [heq] at hs ⊢
      exact h.value_bracket hs
    · rename_i heq
      rw [heq] at hs ⊢
      exact h.value_brace hs
    · obtain ⟨w, hw, heq⟩ := exists_of_readAtom hread
      exact ⟨w, .atom hw, heq⟩
  obtain ⟨w, hw, heq⟩ := hvisible
  exact ⟨before, w, hbefore, hw, heq ▸ hspace⟩

/-- What is read as a value with something visible behind it is an element. -/
theorem Derives.element (h : Derives steps) {s' : Text} (hs : readValue steps s = some (value, s'))
    (hvisible : dropSpace s' = c :: rest) : ∃ w, Element value w ∧ s = w ++ c :: rest := by
  obtain ⟨before, w, hbefore, hw, rfl⟩ := h.value hs
  obtain ⟨after, hafter, hspace⟩ := exists_space s'
  refine ⟨_, .mk hbefore hw hafter, ?_⟩
  rw [hspace, hvisible]
  simp

/-- One more step reads nothing but elements. -/
theorem Derives.items_succ (h : Derives steps)
    (hs : readItems (steps + 1) s = some (items, rest)) :
    ∃ w, Elements items w ∧ s = w ++ ']' :: rest := by
  simp only [readItems, Option.bind_eq_bind, Option.bind_eq_some_iff, Prod.exists] at hs
  obtain ⟨item, s', hitem, hs⟩ := hs
  split at hs
  · rename_i t hcomma
    obtain ⟨⟨more, s''⟩, hmore, hpair⟩ := Option.bind_eq_some_iff.1 hs
    cases hpair
    obtain ⟨w, hw, rfl⟩ := h.element hitem hcomma
    obtain ⟨w', hw', rfl⟩ := h.items hmore
    exact ⟨_, .cons hw hw', by simp⟩
  · rename_i t hbracket
    cases hs
    obtain ⟨w, hw, rfl⟩ := h.element hitem hbracket
    exact ⟨w, .last hw, rfl⟩
  · cases hs

/-- What is read as a member, with its name and its value, is one. -/
theorem Derives.member (h : Derives steps) {key string named t s' : Text}
    (hquote : after? exactly ['"'] (dropSpace s) = some string)
    (hkey : readString string = some (key, named))
    (hcolon : after? exactly [':'] (dropSpace named) = some t)
    (hs : readValue steps t = some (value, s')) (hvisible : dropSpace s' = c :: rest) :
    ∃ w, Member (key, value) w ∧ s = w ++ c :: rest := by
  obtain ⟨before, hbefore, hspace⟩ := exists_space s
  obtain ⟨after, hafter, hspace'⟩ := exists_space named
  obtain ⟨v, hv, rfl⟩ := readString_eq_some_iff.1 hkey
  obtain ⟨w, hw, rfl⟩ := h.element hs hvisible
  rw [after?_exactly_eq_some_iff] at hquote hcolon
  refine ⟨_, .mk hbefore (.mk hv) hafter hw, ?_⟩
  rw [hspace, hquote, hspace', hcolon]
  simp

/-- One more step reads nothing but members. -/
theorem Derives.fields_succ (h : Derives steps)
    (hs : readFields (steps + 1) s = some (fields, rest)) :
    ∃ w, Members fields w ∧ s = w ++ '}' :: rest := by
  simp only [readFields, Option.bind_eq_bind, Option.bind_eq_some_iff, Prod.exists] at hs
  obtain ⟨string, hquote, key, named, hkey, t, hcolon, value, s', hvalue, hs⟩ := hs
  split at hs
  · rename_i u hcomma
    obtain ⟨⟨more, s''⟩, hmore, hpair⟩ := Option.bind_eq_some_iff.1 hs
    cases hpair
    obtain ⟨w, hw, rfl⟩ := h.member hquote hkey hcolon hvalue hcomma
    obtain ⟨w', hw', rfl⟩ := h.fields hmore
    exact ⟨_, .cons hw hw', by simp⟩
  · rename_i u hbrace
    cases hs
    obtain ⟨w, hw, rfl⟩ := h.member hquote hkey hcolon hvalue hbrace
    exact ⟨w, .last hw, rfl⟩
  · cases hs

/-- **Whatever is read is derived by the grammar.** -/
theorem derives (steps : Nat) : Derives steps := by
  induction steps with
  | zero => exact ⟨nofun, nofun, nofun⟩
  | succ steps ih => exact ⟨ih.value_succ, ih.items_succ, ih.fields_succ⟩

/-! ## Documents -/

/-- **Reading a document** gives what the grammar says it stands for, and nothing else is read. -/
theorem parse?_eq_some_iff : parse? s = some value ↔ Document value s := by
  constructor
  · intro h
    simp only [parse?, Option.bind_eq_bind, Option.bind_eq_some_iff, Prod.exists,
      Option.guard_eq_some'] at h
    obtain ⟨value, rest, hread, _, hempty, hvalue⟩ := h
    cases hvalue
    obtain ⟨before, w, hbefore, hw, rfl⟩ := (derives _).value hread
    obtain ⟨after, hafter, hspace⟩ := exists_space rest
    rw [List.isEmpty_iff] at hempty
    rw [hempty, List.append_nil] at hspace
    rw [hspace]
    exact .mk hbefore hw hafter
  · rintro @⟨_, before, w, after, hbefore, hw, hafter⟩
    have hends : EndsDigits after := by
      have hnil : EndsDigits [] := nofun
      have h := hafter.endsDigits_append hnil
      rwa [List.append_nil] at h
    have hread : readValue (2 * (before ++ (w ++ after)).length + 2) (before ++ (w ++ after))
        = some (value, after) := by
      rw [readValue_space_append hbefore]
      refine (reads _).value hw ?_ hends
      simp only [List.length_append]
      omega
    have hdrop : dropSpace after = [] := by
      have h := hafter.dropSpace_append []
      rwa [List.append_nil] at h
    rw [parse?, hread]
    simp [hdrop]

/-- A text is a document of one value at most. -/
theorem Document.unique {other : Json} (h : Document value s) (hother : Document other s) :
    other = value := by
  rw [← parse?_eq_some_iff] at h hother
  exact Option.some_inj.1 (hother.symm.trans h)

end DesignLint.Json
