import DesignLint.Association
import Mathlib.Data.List.Induction
import Mathlib.Data.List.Nodup

/-! # One value for each key

Of many pairs, an association list keeps one for each key:

* `Merges`: each key stands where it arrived first, with the value that it was given last;
* `merges_ofList`: so does what `ofList` makes of the pairs;
* `Merges.unique`: and no other list does. -/

namespace DesignLint.Association

variable {κ α : Type} [BEq κ] [LawfulBEq κ]

/-- The list `merged` holds each key of some pairs once, in the order of their first arrival, with
the last value that the key has among the pairs. -/
structure Merges (pairs merged : List (κ × α)) : Prop where
  /-- The keys, of which repetitions are left out. -/
  keys : merged.map (·.1) = (pairs.map (·.1)).eraseDups
  /-- The values, of which the last one counts. -/
  lookup : ∀ key, merged.lookup key = pairs.reverse.lookup key

/-! ## Keys without repetition -/

/-- One more key stands at the end, unless it is there. -/
theorem eraseDups_concat (keys : List κ) (key : κ) :
    (keys ++ [key]).eraseDups
      = if keys.elem key then keys.eraseDups else keys.eraseDups ++ [key] := by
  rw [List.eraseDups_append, List.removeAll, List.filter_singleton]
  cases keys.elem key with
  | true => exact List.append_nil _
  | false => rfl

/-- No key is left twice. -/
theorem nodup_eraseDups (keys : List κ) : keys.eraseDups.Nodup := by
  induction keys using List.reverseRecOn with
  | nil => exact List.nodup_nil
  | append_singleton keys key ih =>
    rw [eraseDups_concat]
    split
    · exact ih
    · rename_i habsent
      refine List.nodup_append'.2 ⟨ih, List.nodup_singleton key, ?_⟩
      rw [List.disjoint_singleton, List.mem_eraseDups]
      exact fun hmem => habsent (List.elem_eq_true_of_mem hmem)

/-! ## Merging -/

omit [BEq κ] [LawfulBEq κ] in
/-- The pairs are inserted one after the other. -/
theorem ofList_concat (same : κ → κ → Bool) (pairs : List (κ × α)) (pair : κ × α) :
    ofList same (pairs ++ [pair]) = insert same (ofList same pairs) pair.1 pair.2 := by
  rw [ofList, List.foldl_append]
  rfl

/-- **Inserting pairs one after the other merges them.** -/
theorem merges_ofList (pairs : List (κ × α)) : Merges pairs (ofList (· == ·) pairs) := by
  induction pairs using List.reverseRecOn with
  | nil => exact ⟨List.eraseDups_nil.symm, fun _ => rfl⟩
  | append_singleton pairs pair ih =>
    constructor
    · -- A key is among those of the merged pairs just when it is among those of the pairs.
      have hpresent : ((ofList (· == ·) pairs).any fun known => known.1 == pair.1)
          = (pairs.map (·.1)).elem pair.1 := by
        rw [Bool.eq_iff_iff, List.elem_iff, ← List.mem_eraseDups, ← ih.keys, List.any_eq_true,
          List.mem_map]
        simp only [beq_iff_eq]
      rw [ofList_concat, keys_insert, hpresent, ih.keys, List.map_append, List.map_singleton,
        eraseDups_concat]
    · intro key
      rw [ofList_concat, lookup_insert, List.reverse_concat, List.lookup_cons, ih.lookup]
      cases key == pair.1 with
      | true => rfl
      | false => rfl

/-- A key that is not there has no value. -/
theorem lookup_eq_none {pairs : List (κ × α)} {key : κ} (h : key ∉ pairs.map (·.1)) :
    pairs.lookup key = none := by
  refine List.lookup_eq_none_iff.2 fun pair hpair => bne_iff_ne.2 ?_
  rintro rfl
  exact h (List.mem_map_of_mem hpair)

/-- Keys and their values decide an association list. -/
theorem eq_of_lookup {as bs : List (κ × α)} (hkeys : as.map (·.1) = bs.map (·.1))
    (hnodup : (as.map (·.1)).Nodup) (hlookup : ∀ key, as.lookup key = bs.lookup key) :
    as = bs := by
  induction as generalizing bs with
  | nil => exact (List.map_eq_nil_iff.1 hkeys.symm).symm
  | cons a as ih =>
    obtain ⟨key, value⟩ := a
    cases bs with
    | nil => exact nomatch hkeys
    | cons b bs =>
      obtain ⟨key', value'⟩ := b
      obtain ⟨rfl, htail⟩ := List.cons.inj hkeys
      obtain ⟨habsent, hrest⟩ := List.nodup_cons.1 hnodup
      have hvalue : value = value' := by
        have h := hlookup key
        rw [List.lookup_cons_self, List.lookup_cons_self] at h
        exact Option.some_inj.1 h
      subst hvalue
      refine congrArg _ (ih htail hrest fun other => ?_)
      by_cases hother : other = key
      · -- The first key stands in neither of the rests.
        subst hother
        have habsent' : other ∉ bs.map (·.1) := htail ▸ habsent
        rw [lookup_eq_none habsent, lookup_eq_none habsent']
      · have h := hlookup other
        rwa [List.lookup_cons, List.lookup_cons, beq_false_of_ne hother] at h

/-- **Pairs are merged in one way only.** -/
theorem Merges.unique {pairs merged other : List (κ × α)} (h : Merges pairs merged)
    (h' : Merges pairs other) : merged = other := by
  refine eq_of_lookup (h.keys.trans h'.keys.symm) ?_ fun key =>
    (h.lookup key).trans (h'.lookup key).symm
  rw [h.keys]
  exact nodup_eraseDups _

end DesignLint.Association
