import DesignLint.Text.Lemmas
import Mathlib.Data.List.Pairwise

/-! # Sorted texts without repetition

Texts are ordered character by character, by code points:

* `lt_of_le_of_ne`: of two texts in order the first one is smaller, unless they are the same;
* `sorted_filter`: texts are sorted before or after some are left out;
* `sorted_pairwise_lt`: sorted, texts of which none is there twice are strictly increasing;
* `eq_of_pairwise_lt`: what has to be there decides a strictly increasing list. -/

namespace DesignLint.Text

/-- Of two texts in order the first one is smaller, unless they are the same. -/
theorem lt_of_le_of_ne {s t : Text} (hle : le s t = true) (hne : s ≠ t) : s < t := by
  induction s generalizing t with
  | nil =>
    cases t with
    | nil => exact absurd rfl hne
    | cons d t => exact List.nil_lt_cons d t
  | cons c s ih =>
    cases t with
    | nil => exact absurd hle Bool.false_ne_true
    | cons d t =>
      rw [List.cons_lt_cons_iff]
      rcases le_cons_iff.1 hle with hlt | ⟨rfl, htail⟩
      · exact .inl hlt
      · exact .inr ⟨rfl, ih htail fun hst => hne (by rw [hst])⟩

/-- Texts in order are the sorted ones of any list that holds the same. -/
theorem eq_sorted {texts others : List Text} (hperm : others.Perm texts)
    (horder : others.Pairwise fun s t => le s t = true) : others = sorted texts :=
  (hperm.trans (sorted_perm texts).symm).eq_of_pairwise (fun _ _ _ _ => le_antisymm) horder
    (sorted_pairwise texts)

/-- Sorting does not depend on the order before it. -/
theorem sorted_eq_of_perm {texts others : List Text} (h : others.Perm texts) :
    sorted others = sorted texts :=
  eq_sorted ((sorted_perm others).trans h) (sorted_pairwise others)

/-- Texts are sorted before or after some are left out. -/
theorem sorted_filter (keep : Text → Bool) (texts : List Text) :
    sorted (texts.filter keep) = (sorted texts).filter keep :=
  (eq_sorted ((sorted_perm texts).filter keep) ((sorted_pairwise texts).filter keep)).symm

/-- **Sorting makes a list strictly increasing** if no text is there twice. -/
theorem sorted_pairwise_lt {texts : List Text} (h : texts.Nodup) :
    (sorted texts).Pairwise (· < ·) := by
  have hnodup : (sorted texts).Pairwise (· ≠ ·) := (sorted_perm texts).nodup_iff.2 h
  exact (sorted_pairwise texts).imp₂ (fun s t hle hne => lt_of_le_of_ne hle hne) hnodup

/-- Two lists that increase strictly in a key and have the same members are one. -/
theorem eq_of_pairwise_lt {α : Type} {key : α → Text} {as bs : List α}
    (has : (as.map key).Pairwise (· < ·)) (hbs : (bs.map key).Pairwise (· < ·))
    (h : ∀ a, a ∈ as ↔ a ∈ bs) : as = bs := by
  rw [List.pairwise_map] at has hbs
  have hirrefl (a : α) : ¬ key a < key a := List.lt_irrefl (key a)
  have hne {a b : α} (hab : key a < key b) : a ≠ b := by
    rintro rfl
    exact hirrefl a hab
  have hperm : as.Perm bs := (List.perm_ext_iff_of_nodup (has.imp hne) (hbs.imp hne)).2 h
  refine hperm.eq_of_pairwise (fun a b _ _ hab hba => ?_) has hbs
  exact absurd (List.lt_trans hab hba) (hirrefl a)

end DesignLint.Text
