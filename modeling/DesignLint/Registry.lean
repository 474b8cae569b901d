import DesignLint.Check.InlineStyle
import DesignLint.Check.RequiredAsset
import DesignLint.Check.StyleBlock

/-! # The registry of checks

A registry keeps checks in the order in which they were registered. Names are distinct and every
category is known, which `Registry` carries as proofs; `Registry.register` refuses whatever would
break this and says why. -/

namespace DesignLint

/-- The categories of checks, in increasing order. -/
def knownCategories : List Text := ["document", "inline", "style-block"].map String.toList

/-- Checks in the order of their registration. -/
structure Registry where
  /-- The registered checks. -/
  checks : List Check
  /-- No two checks share a name. -/
  names_nodup : (checks.map (·.name)).Nodup
  /-- Every category is known. -/
  category_known : ∀ check ∈ checks, check.category ∈ knownCategories

/-- An object offered for registration, which may lack parts of a check. -/
structure Candidate where
  /-- The kind of object, named in complaints about it. -/
  typeName : Text
  /-- The name, if the object has one. -/
  name : Option Text
  /-- The category, if the object has one. -/
  category : Option Text
  /-- The inspection, if the object has one. -/
  inspect : Option (Page → Except CheckFailure (List Finding))

/-- A check offered for registration. -/
def Candidate.ofCheck (check : Check) : Candidate :=
  ⟨check.typeName, some check.name, some check.category, some check.inspect⟩

/-- The check that a candidate is, if no part is missing. -/
def Candidate.check? (candidate : Candidate) : Option Check :=
  match candidate.name, candidate.category, candidate.inspect with
  | some name, some category, some inspect => some ⟨name, category, candidate.typeName, inspect⟩
  | _, _, _ => none

/-- Why a candidate is not registered. -/
inductive RegistryError where
  /-- The candidate lacks a part of a check. -/
  | incomplete (typeName : Text)
  /-- A check of that name is registered. -/
  | nameTaken (name existingType newType : Text)
  /-- There is no such category. -/
  | unknownCategory (category name : Text)
  deriving Repr, DecidableEq

/-- The text of a refusal. -/
def RegistryError.message : RegistryError → Text
  | incomplete typeName =>
    "Validator must implement the Validator protocol. Got ".toList ++ typeName ++
      " which is missing required attributes/methods (name, category, validate).".toList
  | nameTaken name existingType newType =>
    "Validator '".toList ++ name ++ "' is already registered (existing: ".toList ++
      existingType ++ ", new: ".toList ++ newType ++ ")".toList
  | unknownCategory category name =>
    "Invalid category '".toList ++ category ++ "' for validator '".toList ++ name ++
      "'. Must be one of: ".toList ++ Text.joined ", ".toList knownCategories

namespace Registry

/-- The registry without a check. -/
def empty : Registry := ⟨[], List.nodup_nil, by simp⟩

/-- The registered check of a name. -/
def find? (registry : Registry) (name : Text) : Option Check :=
  registry.checks.find? fun check => check.name == name

/-- Whether a check of that name is registered. -/
def contains (registry : Registry) (name : Text) : Bool := (registry.find? name).isSome

/-- A registry contains the names of its checks. -/
theorem contains_iff {registry : Registry} {name : Text} :
    registry.contains name = true ↔ name ∈ registry.checks.map (·.name) := by
  rw [contains, find?, List.find?_isSome, List.mem_map]
  exact ⟨fun ⟨check, h, e⟩ => ⟨check, h, eq_of_beq e⟩,
    fun ⟨check, h, e⟩ => ⟨check, h, beq_iff_eq.2 e⟩⟩

/-- The number of registered checks. -/
def size (registry : Registry) : Nat := registry.checks.length

/-- A registry with one more check at its end. -/
def push (registry : Registry) (check : Check) (fresh : registry.find? check.name = none)
    (known : check.category ∈ knownCategories) : Registry where
  checks := registry.checks ++ [check]
  names_nodup := by
    simp only [find?, List.find?_eq_none, beq_iff_eq] at fresh
    simp only [List.map_append, List.map_cons, List.map_nil]
    refine List.nodup_append.2 ⟨registry.names_nodup, by simp, ?_⟩
    intro a ha b hb
    obtain ⟨other, hother, rfl⟩ := List.mem_map.1 ha
    simp only [List.mem_singleton] at hb
    subst hb
    exact fresh other hother
  category_known := by
    intro other hother
    rcases List.mem_append.1 hother with h | h
    · exact registry.category_known other h
    · rw [List.mem_singleton.1 h]
      exact known

/-- Registers a candidate behind the checks that are registered. A missing part is reported before
a taken name, and that before an unknown category. -/
def register (registry : Registry) (candidate : Candidate) : Except RegistryError Registry :=
  match candidate.check? with
  | none => .error (.incomplete candidate.typeName)
  | some check =>
    match fresh : registry.find? check.name with
    | some existing => .error (.nameTaken check.name existing.typeName check.typeName)
    | none =>
      if known : check.category ∈ knownCategories then .ok (registry.push check fresh known)
      else .error (.unknownCategory check.category check.name)

/-- The checks of this library, in the order of their findings in reports. -/
def builtin : Registry where
  checks := [InlineStyle.check, StyleBlock.check, RequiredAsset.sheetCheck, RequiredAsset.fontCheck]
  names_nodup := by decide
  category_known := by
    intro check h
    simp only [List.mem_cons, List.not_mem_nil, or_false] at h
    rcases h with rfl | rfl | rfl | rfl <;> decide

end Registry

end DesignLint
