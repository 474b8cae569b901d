import DesignLint.Proofs.Numeral
import DesignLint.Value.Text

/-! # Values without a text

A value has no text just when an integer in it is too long to be written:

* `Value.Holds n v`: the integer `n` is `v`, or it stands somewhere inside `v`;
* `Value.Overlong v`: an integer that is too long stands in `v`;
* `Value.failure?_toText`: overlong values, and no others, have no text. -/

namespace DesignLint.Value

/-- An integer stands in a value: it is the value, or it stands in a member of it. -/
inductive Holds (n : Int) : Value → Prop
  /-- The integer itself. -/
  | int : Holds n (.int n)
  /-- In an item of a list. -/
  | item {items : List Value} {item : Value} (hitem : item ∈ items) (inner : Holds n item) :
      Holds n (.list items)
  /-- In the key of a pair. -/
  | pairKey {key value : Value} (inner : Holds n key) : Holds n (.pair key value)
  /-- In the value of a pair. -/
  | pairValue {key value : Value} (inner : Holds n value) : Holds n (.pair key value)
  /-- In a key of a mapping. -/
  | entryKey {entries : List (Value × Value)} {entry : Value × Value} (hentry : entry ∈ entries)
      (inner : Holds n entry.1) : Holds n (.mapping entries)
  /-- In a value of a mapping. -/
  | entryValue {entries : List (Value × Value)} {entry : Value × Value} (hentry : entry ∈ entries)
      (inner : Holds n entry.2) : Holds n (.mapping entries)
  /-- In a member of a set. -/
  | member {members : List Value} {member : Value} (hmember : member ∈ members)
      (inner : Holds n member) : Holds n (.set members)

/-- An integer with more digits than are written stands in a value. -/
def Overlong (v : Value) : Prop := ∃ n : Int, tenTo Numeral.maxDigits ≤ n.natAbs ∧ v.Holds n

/-! ## Where an overlong integer stands -/

theorem overlong_int_iff {n : Int} : Overlong (.int n) ↔ tenTo Numeral.maxDigits ≤ n.natAbs := by
  constructor
  · rintro ⟨n, hn, ⟨⟩⟩
    exact hn
  · intro hn
    exact ⟨n, hn, .int⟩

theorem overlong_list_iff {items : List Value} :
    Overlong (.list items) ↔ ∃ item ∈ items, item.Overlong := by
  constructor
  · rintro ⟨n, hn, ⟨⟩ | ⟨hitem, inner⟩⟩
    exact ⟨_, hitem, n, hn, inner⟩
  · rintro ⟨item, hitem, n, hn, inner⟩
    exact ⟨n, hn, .item hitem inner⟩

theorem overlong_pair_iff {key value : Value} :
    Overlong (.pair key value) ↔ key.Overlong ∨ value.Overlong := by
  constructor
  · rintro ⟨n, hn, h⟩
    cases h with
    | pairKey inner => exact .inl ⟨n, hn, inner⟩
    | pairValue inner => exact .inr ⟨n, hn, inner⟩
  · rintro (⟨n, hn, inner⟩ | ⟨n, hn, inner⟩)
    · exact ⟨n, hn, .pairKey inner⟩
    · exact ⟨n, hn, .pairValue inner⟩

theorem overlong_mapping_iff {entries : List (Value × Value)} :
    Overlong (.mapping entries) ↔ ∃ entry ∈ entries, entry.1.Overlong ∨ entry.2.Overlong := by
  constructor
  · rintro ⟨n, hn, h⟩
    cases h with
    | entryKey hentry inner => exact ⟨_, hentry, .inl ⟨n, hn, inner⟩⟩
    | entryValue hentry inner => exact ⟨_, hentry, .inr ⟨n, hn, inner⟩⟩
  · rintro ⟨entry, hentry, ⟨n, hn, inner⟩ | ⟨n, hn, inner⟩⟩
    · exact ⟨n, hn, .entryKey hentry inner⟩
    · exact ⟨n, hn, .entryValue hentry inner⟩

theorem overlong_set_iff {members : List Value} :
    Overlong (.set members) ↔ ∃ member ∈ members, member.Overlong := by
  constructor
  · rintro ⟨n, hn, h⟩
    cases h with
    | member hmember inner => exact ⟨_, hmember, n, hn, inner⟩
  · rintro ⟨member, hmember, n, hn, inner⟩
    exact ⟨n, hn, .member hmember inner⟩

/-! ## Writing -/

/-- Items fail like the first one that fails. -/
theorem failure?_quotedItems (items : List Value) :
    failure? (quotedItems items) = items.findSome? fun item => failure? item.quoted := by
  induction items with
  | nil => rfl
  | cons item rest ih =>
    have hrest (first : Text) : failure? (do return first :: (← quotedItems rest))
        = rest.findSome? fun item => failure? item.quoted := by
      rw [bind_pure_comp, failure?_map, ih]
    rw [quotedItems, failure?_bind_or hrest, findSome?_cons_or]

/-- Entries fail like the first key or value that fails. -/
theorem failure?_quotedEntries (entries : List (Value × Value)) :
    failure? (quotedEntries entries)
      = entries.findSome? fun entry => (failure? entry.1.quoted).or (failure? entry.2.quoted) := by
  induction entries with
  | nil => rfl
  | cons entry rest ih =>
    obtain ⟨key, value⟩ := entry
    have hrest (text : Text) : failure? (do return text :: (← quotedEntries rest))
        = rest.findSome? fun entry =>
          (failure? entry.1.quoted).or (failure? entry.2.quoted) := by
      rw [bind_pure_comp, failure?_map, ih]
    rw [quotedEntries, failure?_bind_or fun first => failure?_bind_or fun second => hrest _,
      findSome?_cons_or, Option.or_assoc]

/-- A value that holds no integer is not overlong. -/
theorem not_overlong {v : Value} (h : ∀ n, ¬ v.Holds n) : ¬ v.Overlong := by
  rintro ⟨n, -, hholds⟩
  exact h n hholds

/-- A null is not overlong. -/
theorem not_overlong_null : ¬ null.Overlong := by
  refine not_overlong ?_
  rintro n ⟨⟩

/-- A value that is written and holds no integer is not overlong. -/
theorem isSome_failure?_of_plain {v : Value} (hwritten : ∃ s, v.quoted = .ok s)
    (hnone : ∀ n, ¬ v.Holds n) : (failure? v.quoted).isSome = true ↔ v.Overlong := by
  refine iff_of_false ?_ (not_overlong hnone)
  rw [failure?_eq_none_iff.2 hwritten]
  exact Bool.false_ne_true

/-- **What stands inside another value** has no text just when it is overlong. -/
theorem isSome_failure?_quoted (v : Value) : (failure? v.quoted).isSome = true ↔ v.Overlong := by
  cases v with
  | int n =>
    rw [quoted, overlong_int_iff, Numeral.failure?_writeInteger, ← Nat.not_lt]
    by_cases h : Numeral.Writable n
    · rw [if_pos h]
      exact iff_of_false Bool.false_ne_true (not_not_intro h)
    · rw [if_neg h]
      exact iff_of_true rfl h
  | list items =>
    have hitems : ∀ item ∈ items, ((failure? item.quoted).isSome = true ↔ item.Overlong) :=
      fun item hitem => isSome_failure?_quoted item
    rw [quoted, bind_pure_comp, failure?_map, failure?_quotedItems, List.findSome?_isSome_iff,
      overlong_list_iff]
    exact exists_congr fun item => and_congr_right fun hitem => hitems item hitem
  | pair key value =>
    rw [quoted, failure?_bind_or fun first => failure?_bind_or fun second => failure?_pure _,
      Option.or_none, Option.isSome_or, Bool.or_eq_true, isSome_failure?_quoted key,
      isSome_failure?_quoted value, overlong_pair_iff]
  | mapping entries =>
    have hentries : ∀ entry ∈ entries,
        (((failure? entry.1.quoted).or (failure? entry.2.quoted)).isSome = true
          ↔ entry.1.Overlong ∨ entry.2.Overlong) := by
      rintro ⟨key, value⟩ hentry
      -- Key and value are smaller than the mapping, so the recursion may go on to them.
      have hsize : sizeOf (key, value) < sizeOf entries := List.sizeOf_lt_of_mem hentry
      have hparts : sizeOf key < sizeOf (key, value) ∧ sizeOf value < sizeOf (key, value) := by
        rw [Prod.mk.sizeOf_spec]
        omega
      rw [Option.isSome_or, Bool.or_eq_true, isSome_failure?_quoted key,
        isSome_failure?_quoted value]
    rw [quoted, bind_pure_comp, failure?_map, failure?_quotedEntries, List.findSome?_isSome_iff,
      overlong_mapping_iff]
    exact exists_congr fun entry => and_congr_right fun hentry => hentries entry hentry
  | set members =>
    cases members with
    | nil =>
      rw [quoted, overlong_set_iff]
      simp
    | cons first rest =>
      have hmembers : ∀ member ∈ first :: rest,
          ((failure? member.quoted).isSome = true ↔ member.Overlong) :=
        fun member hmember => isSome_failure?_quoted member
      have hrest (text : Text) : failure? (do
          return '{' :: Text.joined ", ".toList (text :: (← quotedItems rest)) ++ ['}'])
            = rest.findSome? fun member => failure? member.quoted := by
        rw [bind_pure_comp, failure?_map, failure?_quotedItems]
      -- The first member is written apart from the others, but fails in its turn.
      have hfirst : failure? (quoted (.set (first :: rest)))
          = (first :: rest).findSome? fun member => failure? member.quoted := by
        rw [quoted, failure?_bind_or hrest, findSome?_cons_or]
      rw [hfirst, List.findSome?_isSome_iff, overlong_set_iff]
      exact exists_congr fun member => and_congr_right fun hmember => hmembers member hmember
  | again shape =>
    refine isSome_failure?_of_plain ?_ (by rintro n ⟨⟩)
    cases shape with
    | _ => exact ⟨_, rfl⟩
  | _ => exact isSome_failure?_of_plain ⟨_, rfl⟩ (by rintro n ⟨⟩)
termination_by sizeOf v

/-- **A value has no text** just when it is overlong. -/
theorem failure?_toText_eq_some_iff {v : Value} :
    failure? v.toText = some .tooLong ↔ v.Overlong := by
  -- Texts, dates and moments have words of their own; all else is written as inside other values.
  have hplain (s : Text) (hnone : ∀ n, ¬ v.Holds n) :
      failure? (.ok s : Except Numeral.Unwritable Text) = some .tooLong ↔ v.Overlong :=
    iff_of_false (Option.some_ne_none _).symm (not_overlong hnone)
  have hquoted : failure? v.quoted = some .tooLong ↔ v.Overlong := by
    rw [← isSome_failure?_quoted, Option.isSome_iff_exists]
    constructor
    · intro h
      exact ⟨.tooLong, h⟩
    · rintro ⟨⟨⟩, h⟩
      exact h
  unfold toText
  split
  · exact hplain _ (by rintro n ⟨⟩)
  · exact hplain _ (by rintro n ⟨⟩)
  · exact hplain _ (by rintro n ⟨⟩)
  · exact hquoted

/-- **A value has a text** just when it is not overlong. -/
theorem failure?_toText_eq_none_iff {v : Value} : failure? v.toText = none ↔ ¬ v.Overlong := by
  rw [← failure?_toText_eq_some_iff]
  cases failure? v.toText with
  | none => simp
  | some e =>
    cases e
    simp

end DesignLint.Value
