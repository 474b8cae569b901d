import DesignLint.Number.Numeral
import DesignLint.Proofs.Failure
import Mathlib.Algebra.GroupWithZero.Nat

/-! # Integers that are written

An integer is written in its digits unless it has too many. What shows several integers stops at the
first one that has:

* `Numeral.writable_iff_length`: writable integers, told by their digits;
* `Numeral.writeInteger_eq_ok_iff`: what is written of an integer;
* `Numeral.firstUnwritten?`: what is wrong with the first of some integers that is not written. -/

namespace DesignLint.Numeral

variable {n : Int} {s : Text} {numbers : List Int}

/-- An integer with few digits is written. -/
theorem writeInteger_of_writable (h : Writable n) : writeInteger n = .ok (Text.ofInt n) := if_pos h

/-- An integer with too many digits is not. -/
theorem writeInteger_of_not_writable (h : ¬ Writable n) : writeInteger n = .error .tooLong :=
  if_neg h

/-- **What is written of an integer** are its sign and its digits. -/
theorem writeInteger_eq_ok_iff : writeInteger n = .ok s ↔ Writable n ∧ Text.ofInt n = s := by
  by_cases h : Writable n
  · rw [writeInteger_of_writable h, Except.ok.injEq, and_iff_right h]
  · rw [writeInteger_of_not_writable h]
    exact iff_of_false nofun fun hs => h hs.1

/-- There is one reason not to write an integer. -/
theorem failure?_writeInteger (n : Int) :
    failure? (writeInteger n) = if Writable n then none else some .tooLong := by
  by_cases h : Writable n
  · rw [writeInteger_of_writable h, if_pos h, failure?_ok]
  · rw [writeInteger_of_not_writable h, if_neg h, failure?_error]

/-- A power of ten as it is written elsewhere. The limit itself is too large to be computed. -/
theorem tenTo_eq_pow (k : Nat) : tenTo k = 10 ^ k := rfl

/-- **Integers with few enough digits** are writable. -/
theorem writable_iff_length : Writable n ↔ (Text.ofNat n.natAbs).length ≤ maxDigits := by
  rw [Writable, Text.ofNat, Nat.length_toDigits_le_iff (by decide) (by decide), tenTo_eq_pow]

/-- The first integers have few digits. -/
theorem writable_of_natAbs_le (h : n.natAbs ≤ maxDigits) : Writable n := by
  rw [Writable, tenTo_eq_pow]
  exact Nat.lt_of_le_of_lt h (Nat.lt_pow_self (by decide))

/-- The first integer with more digits. -/
theorem not_writable_tenTo : ¬ Writable (tenTo maxDigits) := by
  rw [Writable, Int.natAbs_natCast]
  exact Nat.lt_irrefl _

/-- What is wrong with the first of some integers that is not written. -/
def firstUnwritten? (numbers : List Int) : Option Unwritable :=
  numbers.findSome? fun n => failure? (writeInteger n)

theorem firstUnwritten?_append (front back : List Int) :
    firstUnwritten? (front ++ back) = (firstUnwritten? front).or (firstUnwritten? back) :=
  List.findSome?_append

theorem firstUnwritten?_cons (n : Int) (rest : List Int) :
    firstUnwritten? (n :: rest) = (failure? (writeInteger n)).or (firstUnwritten? rest) :=
  findSome?_cons_or _ n rest

theorem firstUnwritten?_singleton (n : Int) :
    firstUnwritten? [n] = failure? (writeInteger n) := by
  rw [firstUnwritten?, findSome?_cons_or, List.findSome?_nil, Option.or_none]

/-- All of some integers are written just when they have few digits. -/
theorem firstUnwritten?_eq_none_iff :
    firstUnwritten? numbers = none ↔ ∀ n ∈ numbers, Writable n := by
  simp [firstUnwritten?, failure?_writeInteger]

/-- One of them is not just when it has too many. -/
theorem firstUnwritten?_eq_some_iff :
    firstUnwritten? numbers = some .tooLong ↔ ∃ n ∈ numbers, ¬ Writable n := by
  have hnone : firstUnwritten? numbers = none ↔ ∀ n ∈ numbers, Writable n :=
    firstUnwritten?_eq_none_iff
  constructor
  · intro h
    rw [h] at hnone
    simpa using hnone
  · rintro ⟨n, hn, hlong⟩
    cases hfirst : firstUnwritten? numbers with
    | none => exact absurd (hnone.1 hfirst n hn) hlong
    | some cause =>
      cases cause
      rfl

end DesignLint.Numeral
