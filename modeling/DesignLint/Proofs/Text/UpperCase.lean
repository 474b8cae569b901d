import DesignLint.Proofs.Association
import DesignLint.Text.Case
import Mathlib.Data.Nat.Bitwise

/-! # Upper case

Upper-casing maps nothing to a character that it maps to something else, so that a text in upper
case stays as it is:

* `mapped`, `images`: the code points that are mapped, and the characters to which they are mapped;
* `upperChar_eq_self`: a character that is not mapped is its own upper-case form;
* `upperChar_cases`: an upper-case form is the character itself, or it consists of images;
* `not_mem_mapped`: no image is mapped;
* `upper_upper`: upper-casing twice is upper-casing once. -/

namespace DesignLint.Text

/-! ## The members of the table -/

/-- The code points that belong to a run. -/
def CaseRun.members (run : CaseRun) : List Nat :=
  (List.range ((run.last - run.first) / run.stride + 1)).map fun i => run.first + run.stride * i

/-- What a run makes of the code points that belong to it. -/
def CaseRun.images (run : CaseRun) : List Nat :=
  run.members.map fun n => (Int.ofNat n + run.shift).toNat

/-- A run maps its members to its images. -/
theorem CaseRun.mem_of_image?_eq_some {run : CaseRun} {n m : Nat} (h : run.image? n = some m) :
    n ∈ run.members ∧ m ∈ run.images := by
  rw [image?, Option.ite_none_right_eq_some, Option.some_inj] at h
  obtain ⟨hbelongs, rfl⟩ := h
  simp only [Bool.and_eq_true, decide_eq_true_eq, beq_iff_eq] at hbelongs
  obtain ⟨⟨hfirst, hlast⟩, hstride⟩ := hbelongs
  have hmem : n ∈ run.members := by
    refine List.mem_map.2 ⟨(n - run.first) / run.stride, List.mem_range.2 ?_, ?_⟩
    · have hle : (n - run.first) / run.stride ≤ (run.last - run.first) / run.stride :=
        Nat.div_le_div_right (Nat.sub_le_sub_right hlast run.first)
      omega
    · rw [Nat.mul_div_cancel' (Nat.dvd_of_mod_eq_zero hstride)]
      omega
  exact ⟨hmem, List.mem_map.2 ⟨n, hmem, rfl⟩⟩

/-- The letters `a` to `z`, which the table leaves out. -/
def asciiRun : CaseRun := ⟨0x61, 0x7A, 1, -32⟩

/-- The code points that upper-casing maps to something else. -/
def mapped : List Nat :=
  (asciiRun :: upperRuns).flatMap CaseRun.members ++ upperExpansions.map (·.1)

/-- The characters to which upper-casing maps them. -/
def images : List Char :=
  ((asciiRun :: upperRuns).flatMap CaseRun.images ++ upperExpansions.flatMap (·.2)).map Char.ofNat

/-- Among the first 128 characters the letters `a` to `z` are mapped, and no other one is. -/
theorem toUpper_of_ascii {c : Char} (h : c.toNat < 0x80) :
    c.toUpper = ((asciiRun.image? c.toNat).map Char.ofNat).getD c := by
  have hall : ∀ n ∈ List.range 0x80, (Char.ofNat n).toUpper
      = ((asciiRun.image? n).map Char.ofNat).getD (Char.ofNat n) := by decide +kernel
  have hchar := hall c.toNat (List.mem_range.2 h)
  rwa [Char.ofNat_toNat] at hchar

/-- What a run maps is mapped, and what it maps to is an image. -/
theorem mem_of_image?_eq_some {run : CaseRun} (hrun : run ∈ asciiRun :: upperRuns) {n m : Nat}
    (h : run.image? n = some m) : n ∈ mapped ∧ Char.ofNat m ∈ images := by
  obtain ⟨hmember, himage⟩ := CaseRun.mem_of_image?_eq_some h
  exact ⟨List.mem_append_left _ (List.mem_flatMap.2 ⟨run, hrun, hmember⟩),
    List.mem_map_of_mem (List.mem_append_left _ (List.mem_flatMap.2 ⟨run, hrun, himage⟩))⟩

/-- **A character that is not mapped** is its own upper-case form. -/
theorem upperChar_eq_self {c : Char} (h : c.toNat ∉ mapped) : upperChar c = [c] := by
  have hrun : ∀ run ∈ asciiRun :: upperRuns, run.image? c.toNat = none := by
    intro run hrun
    by_contra hsome
    obtain ⟨m, hm⟩ := Option.ne_none_iff_exists'.1 hsome
    exact h (mem_of_image?_eq_some hrun hm).1
  obtain ⟨hascii, htable⟩ := List.forall_mem_cons.1 hrun
  rw [upperChar]
  split
  · rename_i hsmall
    rw [toUpper_of_ascii hsmall, hascii]
    rfl
  · have hlookup : upperExpansions.lookup c.toNat = none :=
      Association.lookup_eq_none fun hkey => h (List.mem_append_right _ hkey)
    rw [mapCase, List.findSome?_eq_none_iff.2 htable, hlookup]

/-- **An upper-case form** is the character itself, or it consists of images. -/
theorem upperChar_cases (c : Char) : upperChar c = [c] ∨ ∀ d ∈ upperChar c, d ∈ images := by
  rw [upperChar]
  -- A character is in a run, has several characters for its form, or stays as it is.
  split
  · rename_i hsmall
    rw [toUpper_of_ascii hsmall]
    cases hrun : asciiRun.image? c.toNat with
    | none => exact .inl rfl
    | some m =>
      exact .inr (List.forall_mem_singleton.2 (mem_of_image?_eq_some List.mem_cons_self hrun).2)
  · rw [mapCase]
    split
    · rename_i m hfound
      obtain ⟨run, hrun, hm⟩ := List.exists_of_findSome?_eq_some hfound
      exact .inr (List.forall_mem_singleton.2
        (mem_of_image?_eq_some (List.mem_cons_of_mem _ hrun) hm).2)
    · split
      · rename_i codes hcodes
        obtain ⟨front, back, htable, -⟩ := List.lookup_eq_some_iff.1 hcodes
        have hentry : (c.toNat, codes) ∈ upperExpansions :=
          htable ▸ List.mem_append_right _ List.mem_cons_self
        refine .inr fun d hd => ?_
        obtain ⟨n, hn, rfl⟩ := List.mem_map.1 hd
        exact List.mem_map_of_mem
          (List.mem_append_right _ (List.mem_flatMap.2 ⟨_, hentry, hn⟩))
      · exact .inl rfl

/-! ## No image is mapped -/

/-- A set of numbers as one number, with a bit for each member. -/
def bitSet (members : List Nat) : Nat := members.foldr (fun n set => set ||| 1 <<< n) 0

/-- The bits that are set are those of the members. -/
theorem testBit_bitSet {members : List Nat} {n : Nat} :
    (bitSet members).testBit n = true ↔ n ∈ members := by
  induction members with
  | nil => simp [bitSet]
  | cons m members ih =>
    have hcons : bitSet (m :: members) = bitSet members ||| 1 <<< m := rfl
    rw [hcons, Nat.testBit_or, Bool.or_eq_true, ih, Nat.one_shiftLeft, Nat.testBit_two_pow,
      decide_eq_true_eq, List.mem_cons, or_comm, eq_comm]

/-- Sets without a common bit have no common member. -/
theorem not_mem_of_bitSet {members others : List Nat} (h : bitSet members &&& bitSet others = 0)
    {n : Nat} (hn : n ∈ members) : n ∉ others := by
  intro hn'
  have hbit : (bitSet members &&& bitSet others).testBit n = true := by
    rw [Nat.testBit_and, testBit_bitSet.2 hn, testBit_bitSet.2 hn']
    rfl
  rw [h, Nat.zero_testBit] at hbit
  exact absurd hbit (by decide)

/-- **No image is mapped.** -/
theorem not_mem_mapped {c : Char} (h : c ∈ images) : c.toNat ∉ mapped := by
  -- One operation on the bits takes the place of a comparison for each pair.
  have hapart : bitSet (images.map Char.toNat) &&& bitSet mapped = 0 := by decide +kernel
  exact not_mem_of_bitSet hapart (List.mem_map_of_mem h)

/-- Upper-casing leaves upper-case forms as they are. -/
theorem upper_upperChar (c : Char) : upper (upperChar c) = upperChar c := by
  rcases upperChar_cases c with hself | himages
  · rw [hself, upper, List.flatMap_singleton, hself]
  · have hfixed : upper (upperChar c) = (upperChar c).flatMap fun d => [d] :=
      List.flatMap_congr fun d hd => upperChar_eq_self (not_mem_mapped (himages d hd))
    rw [hfixed, List.flatMap_singleton']

/-- **Upper-casing twice is upper-casing once.** -/
theorem upper_upper (s : Text) : upper (upper s) = upper s := by
  rw [upper, upper, List.flatMap_assoc]
  exact List.flatMap_congr fun c _ => upper_upperChar c

end DesignLint.Text
