import DesignLint.Proofs.Json.Tokens

/-! # Reading what the grammar derives

The reader accepts every value of the grammar, as long as it may take enough steps:

* `Json.Atom.readAtom`: values without members;
* `Json.readValue_array`, `Json.readValue_object`: values with members, from their parts;
* `Json.reads`: values, elements and members in twice as many steps as there are characters. -/

namespace DesignLint.Json

open Text

variable {value : Json} {items : List Json} {fields : List (Text × Json)} {s w rest : Text}
  {steps : Nat} {c : Char}

/-! ## Values without members -/

/-- The first character of a value without members. -/
theorem Atom.exists_head (h : Atom value w) :
    ∃ c tail, w = c :: tail ∧ (c ∈ ['n', 't', 'f', '"', '-'] ∨ c.isDigit = true) := by
  cases h with
  | null => exact ⟨_, _, rfl, .inl (by decide)⟩
  | bool b => cases b <;> exact ⟨_, _, rfl, .inl (by decide)⟩
  | natural h =>
    obtain ⟨c, tail, rfl⟩ := List.exists_cons_of_ne_nil h.nonempty
    exact ⟨c, tail, rfl, .inr (h.digits c List.mem_cons_self)⟩
  | negative h => exact ⟨_, _, rfl, .inl (by decide)⟩
  | text h =>
    obtain ⟨h⟩ := h
    exact ⟨_, _, rfl, .inl (by decide)⟩

/-- A value without members is read. -/
theorem Atom.readAtom (h : Atom value w) (hrest : EndsDigits rest) :
    readAtom (w ++ rest) = some (value, rest) := by
  cases h with
  | null => rfl
  | bool b => cases b <;> rfl
  | @natural n _ h =>
    have hread := readMagnitude_eq_some_iff.2 ⟨w, h, hrest, rfl⟩
    obtain ⟨c, tail, rfl⟩ := List.exists_cons_of_ne_nil h.nonempty
    have hc : c.isDigit = true := h.digits c List.mem_cons_self
    rw [List.cons_append] at hread ⊢
    rw [Json.readAtom, hread]
    · rfl
    -- A digit is none of the characters that the reader asks for first.
    all_goals
      intro s hs
      rw [(List.cons.inj hs).1] at hc
      exact absurd hc (by decide)
  | negative h =>
    rw [List.cons_append, Json.readAtom, readMagnitude_eq_some_iff.2 ⟨_, h, hrest, rfl⟩]
    rfl
  | text h =>
    obtain ⟨h⟩ := h
    rw [List.cons_append, List.append_assoc, List.singleton_append, Json.readAtom,
      readString_eq_some_iff.2 ⟨_, h, rfl⟩]
    rfl

/-! ## Space around tokens -/

/-- A text that starts with something else than space. -/
theorem dropSpace_cons (hc : c ∉ [' ', '\t', '\n', '\r']) : dropSpace (c :: s) = c :: s :=
  List.dropWhile_cons_of_neg (mt isSpace_iff.1 hc)

/-- Space holds no digit. -/
theorem isDigit_eq_false_of_space (hc : c ∈ [' ', '\t', '\n', '\r']) : c.isDigit = false := by
  simp only [List.mem_cons, List.not_mem_nil, or_false] at hc
  rcases hc with rfl | rfl | rfl | rfl <;> rfl

/-- Space goes on with no digit unless what follows it does. -/
theorem Space.endsDigits_append (hs : Space s) (hrest : EndsDigits rest) :
    EndsDigits (s ++ rest) := by
  cases s with
  | nil => exact hrest
  | cons c s =>
    intro d hd
    obtain rfl := Option.some_inj.1 hd
    exact isDigit_eq_false_of_space (hs c List.mem_cons_self)

/-- A text that starts with something else than a digit. -/
theorem endsDigits_cons (hc : c.isDigit = false) : EndsDigits (c :: s) := by
  intro d hd
  obtain rfl := Option.some_inj.1 hd
  exact hc

/-- Skipping space once is enough. -/
theorem dropSpace_dropSpace (s : Text) : dropSpace (dropSpace s) = dropSpace s := by
  obtain ⟨before, hbefore, hs⟩ := exists_space s
  have hskipped := hbefore.dropSpace_append (dropSpace s)
  rw [← hs] at hskipped
  exact hskipped.symm

/-- A value is read in the same way without the space in front of it. -/
theorem readValue_dropSpace (steps : Nat) (s : Text) :
    readValue steps (dropSpace s) = readValue steps s := by
  cases steps with
  | zero => rfl
  | succ steps => rw [readValue, readValue, dropSpace_dropSpace]

/-- So are elements. -/
theorem readItems_dropSpace (steps : Nat) (s : Text) :
    readItems steps (dropSpace s) = readItems steps s := by
  cases steps with
  | zero => rfl
  | succ steps => rw [readItems, readItems, readValue_dropSpace]

/-- So are members. -/
theorem readFields_dropSpace (steps : Nat) (s : Text) :
    readFields steps (dropSpace s) = readFields steps s := by
  cases steps with
  | zero => rfl
  | succ steps => rw [readFields, readFields, dropSpace_dropSpace]

/-- Space in front of a value is skipped. -/
theorem readValue_space_append (hs : Space s) :
    readValue steps (s ++ rest) = readValue steps rest := by
  rw [← readValue_dropSpace, hs.dropSpace_append, readValue_dropSpace]

/-! ## First characters -/

/-- The characters that a value starts with, apart from digits. -/
def openers : List Char := ['n', 't', 'f', '"', '-', '[', '{']

/-- The first character of a value. -/
theorem Written.exists_head (h : Written value w) :
    ∃ c tail, w = c :: tail ∧ (c ∈ openers ∨ c.isDigit = true) := by
  cases h with
  | atom h =>
    obtain ⟨c, tail, rfl, hc⟩ := h.exists_head
    refine ⟨c, tail, rfl, hc.imp_left fun hc => ?_⟩
    exact List.mem_append_left ['[', '{'] hc
  | emptyArray h => exact ⟨_, _, rfl, .inl (by decide)⟩
  | array h => exact ⟨_, _, rfl, .inl (by decide)⟩
  | emptyObject h => exact ⟨_, _, rfl, .inl (by decide)⟩
  | object h => exact ⟨_, _, rfl, .inl (by decide)⟩

/-- A value starts neither with space nor with a closing bracket or brace. -/
theorem not_mem_of_opens (hc : c ∈ openers ∨ c.isDigit = true) :
    c ∉ [' ', '\t', '\n', '\r'] ∧ c ≠ ']' := by
  rcases hc with hc | hc
  · simp only [openers, List.mem_cons, List.not_mem_nil, or_false] at hc
    rcases hc with rfl | rfl | rfl | rfl | rfl | rfl | rfl <;> decide
  · constructor
    · intro hmem
      rw [isDigit_eq_false_of_space hmem] at hc
      exact Bool.noConfusion hc
    · rintro rfl
      exact absurd hc (by decide)

/-- What stands in front of elements is no closing bracket. -/
theorem Element.dropSpace_ne (h : Element value s) (rest tail : Text) :
    dropSpace (s ++ rest) ≠ ']' :: tail := by
  obtain ⟨hbefore, h, -⟩ := h
  obtain ⟨c, w, rfl, hc⟩ := h.exists_head
  rw [List.append_assoc, hbefore.dropSpace_append, List.cons_append, List.cons_append,
    dropSpace_cons (not_mem_of_opens hc).1]
  intro heq
  exact (not_mem_of_opens hc).2 (List.cons.inj heq).1

/-- What stands in front of a list of elements is none either. -/
theorem Elements.dropSpace_ne (h : Elements items s) (rest tail : Text) :
    dropSpace (s ++ rest) ≠ ']' :: tail := by
  cases h with
  | last h => exact h.dropSpace_ne rest tail
  | cons h _ =>
    rw [List.append_assoc]
    exact h.dropSpace_ne _ tail

/-- What stands in front of a member is no closing brace. -/
theorem Member.dropSpace_ne {field : Text × Json} (h : Member field s) (rest tail : Text) :
    dropSpace (s ++ rest) ≠ '}' :: tail := by
  obtain ⟨hbefore, ⟨hkey⟩, -, -⟩ := h
  rw [List.append_assoc, hbefore.dropSpace_append, List.cons_append, List.cons_append,
    dropSpace_cons (by decide)]
  intro heq
  exact absurd (List.cons.inj heq).1 (by decide)

/-- What stands in front of a list of members is none either. -/
theorem Members.dropSpace_ne (h : Members fields s) (rest tail : Text) :
    dropSpace (s ++ rest) ≠ '}' :: tail := by
  cases h with
  | last h => exact h.dropSpace_ne rest tail
  | cons h _ =>
    rw [List.append_assoc]
    exact h.dropSpace_ne _ tail

/-! ## Values, elements and members -/

/-- An atom is read as a value. -/
theorem readValue_atom (h : Atom value w) (hrest : EndsDigits rest) :
    readValue (steps + 1) (w ++ rest) = some (value, rest) := by
  have hread := h.readAtom hrest
  obtain ⟨c, tail, rfl, hc⟩ := h.exists_head
  have hopens : c ∈ openers ∨ c.isDigit = true :=
    hc.imp_left fun hc => List.mem_append_left ['[', '{'] hc
  have hne : c ≠ '[' ∧ c ≠ '{' := by
    constructor
    · rintro rfl
      exact absurd hc (by decide)
    · rintro rfl
      exact absurd hc (by decide)
  rw [List.cons_append] at hread ⊢
  rw [readValue, dropSpace_cons (not_mem_of_opens hopens).1]
  split
  · rename_i heq
    exact absurd (List.cons.inj heq).1 hne.1
  · rename_i heq
    exact absurd (List.cons.inj heq).1 hne.2
  · exact hread

/-- Behind an opening bracket there are elements, if they do not close at once. -/
theorem readValue_bracket (steps : Nat) (s : Text) :
    readValue (steps + 1) ('[' :: s) = match dropSpace s with
      | ']' :: s => some (.array [], s)
      | s => (readItems steps s).map fun (items, s) => (.array items, s) := rfl

/-- Behind an opening brace there are members, if they do not close at once. -/
theorem readValue_brace (steps : Nat) (s : Text) :
    readValue (steps + 1) ('{' :: s) = match dropSpace s with
      | '}' :: s => some (.object [], s)
      | s => (readFields steps s).map fun (fields, s) => (.object fields, s) := rfl

/-- An array without elements is read. -/
theorem readValue_emptyArray (hs : Space s) :
    readValue (steps + 1) ('[' :: (s ++ ']' :: rest)) = some (.array [], rest) := by
  rw [readValue_bracket, hs.dropSpace_append, dropSpace_cons (by decide)]
  rfl

/-- An array is read if its elements are. -/
theorem readValue_array (h : readItems steps s = some (items, rest))
    (hs : ∀ tail, dropSpace s ≠ ']' :: tail) :
    readValue (steps + 1) ('[' :: s) = some (.array items, rest) := by
  rw [readValue_bracket]
  split
  · rename_i heq
    exact absurd heq (hs _)
  · rw [readItems_dropSpace, h]
    rfl

/-- An object without members is read. -/
theorem readValue_emptyObject (hs : Space s) :
    readValue (steps + 1) ('{' :: (s ++ '}' :: rest)) = some (.object [], rest) := by
  rw [readValue_brace, hs.dropSpace_append, dropSpace_cons (by decide)]
  rfl

/-- An object is read if its members are. -/
theorem readValue_object (h : readFields steps s = some (fields, rest))
    (hs : ∀ tail, dropSpace s ≠ '}' :: tail) :
    readValue (steps + 1) ('{' :: s) = some (.object fields, rest) := by
  rw [readValue_brace]
  split
  · rename_i heq
    exact absurd heq (hs _)
  · rw [readFields_dropSpace, h]
    rfl

/-- `steps` are enough to read a text of half their number of characters. -/
structure Reads (steps : Nat) : Prop where
  /-- Values are read. -/
  value {value : Json} {w : Text} (h : Written value w) (hsteps : 2 * w.length ≤ steps)
    {rest : Text} (hrest : EndsDigits rest) : readValue steps (w ++ rest) = some (value, rest)
  /-- Elements are read up to the closing bracket. -/
  items {items : List Json} {s : Text} (h : Elements items s) (hsteps : 2 * s.length < steps)
    (rest : Text) : readItems steps (s ++ ']' :: rest) = some (items, rest)
  /-- Members are read up to the closing brace. -/
  fields {fields : List (Text × Json)} {s : Text} (h : Members fields s)
    (hsteps : 2 * s.length < steps) (rest : Text) :
    readFields steps (s ++ '}' :: rest) = some (fields, rest)

/-- Elements are read up to the space behind them. -/
theorem Reads.element (h : Reads steps) (hs : Element value s) (hsteps : 2 * s.length ≤ steps)
    (hrest : EndsDigits rest) :
    ∃ after, Space after ∧ readValue steps (s ++ rest) = some (value, after ++ rest) := by
  obtain ⟨hbefore, hw, hafter⟩ := hs
  rename_i before w after
  rw [List.length_append, List.length_append] at hsteps
  refine ⟨after, hafter, ?_⟩
  rw [List.append_assoc, List.append_assoc, readValue_space_append hbefore]
  exact h.value hw (by omega) (hafter.endsDigits_append hrest)

/-- One more step is enough for values. -/
theorem Reads.value_succ (h : Reads steps) (hw : Written value w)
    (hsteps : 2 * w.length ≤ steps + 1) (hrest : EndsDigits rest) :
    readValue (steps + 1) (w ++ rest) = some (value, rest) := by
  cases hw with
  | atom hw => exact readValue_atom hw hrest
  | emptyArray hs =>
    rw [List.cons_append, List.append_assoc]
    exact readValue_emptyArray hs
  | array hs =>
    rw [List.length_cons, List.length_append, List.length_singleton] at hsteps
    rw [List.cons_append, List.append_assoc]
    exact readValue_array (h.items hs (by omega) rest) (hs.dropSpace_ne _)
  | emptyObject hs =>
    rw [List.cons_append, List.append_assoc]
    exact readValue_emptyObject hs
  | object hs =>
    rw [List.length_cons, List.length_append, List.length_singleton] at hsteps
    rw [List.cons_append, List.append_assoc]
    exact readValue_object (h.fields hs (by omega) rest) (hs.dropSpace_ne _)

/-- An element in front of others is read. -/
theorem readItems_cons {s' t : Text} (hvalue : readValue steps s = some (value, s'))
    (hcomma : dropSpace s' = ',' :: t) (hrest : readItems steps t = some (items, rest)) :
    readItems (steps + 1) s = some (value :: items, rest) := by
  simp [readItems, hvalue, hcomma, hrest]

/-- The last element is read. -/
theorem readItems_last {s' : Text} (hvalue : readValue steps s = some (value, s'))
    (hbracket : dropSpace s' = ']' :: rest) :
    readItems (steps + 1) s = some ([value], rest) := by
  simp [readItems, hvalue, hbracket]

/-- One more step is enough for elements. -/
theorem Reads.items_succ (h : Reads steps) (hs : Elements items s)
    (hsteps : 2 * s.length < steps + 1) (rest : Text) :
    readItems (steps + 1) (s ++ ']' :: rest) = some (items, rest) := by
  cases hs with
  | last hs =>
    have hbracket : EndsDigits (']' :: rest) := endsDigits_cons rfl
    obtain ⟨after, hafter, hread⟩ := h.element hs (by omega) hbracket
    refine readItems_last hread ?_
    rw [hafter.dropSpace_append, dropSpace_cons (by decide)]
  | @cons item items s s' hs hrest =>
    have hcomma : EndsDigits (',' :: (s' ++ ']' :: rest)) := endsDigits_cons rfl
    rw [List.length_append, List.length_cons] at hsteps
    obtain ⟨after, hafter, hread⟩ := h.element hs (by omega) hcomma
    rw [List.append_assoc, List.cons_append]
    refine readItems_cons hread ?_ (h.items hrest (by omega) rest)
    rw [hafter.dropSpace_append, dropSpace_cons (by decide)]

/-- A member in front of others is read. -/
theorem readFields_cons {key string named s' t u : Text}
    (hquote : after? exactly ['"'] (dropSpace s) = some string)
    (hkey : readString string = some (key, named))
    (hcolon : after? exactly [':'] (dropSpace named) = some t)
    (hvalue : readValue steps t = some (value, s')) (hcomma : dropSpace s' = ',' :: u)
    (hrest : readFields steps u = some (fields, rest)) :
    readFields (steps + 1) s = some ((key, value) :: fields, rest) := by
  simp [readFields, hquote, hkey, hcolon, hvalue, hcomma, hrest]

/-- The last member is read. -/
theorem readFields_last {key string named s' t : Text}
    (hquote : after? exactly ['"'] (dropSpace s) = some string)
    (hkey : readString string = some (key, named))
    (hcolon : after? exactly [':'] (dropSpace named) = some t)
    (hvalue : readValue steps t = some (value, s')) (hbrace : dropSpace s' = '}' :: rest) :
    readFields (steps + 1) s = some ([(key, value)], rest) := by
  simp [readFields, hquote, hkey, hcolon, hvalue, hbrace]

/-- The name of a member is read, and the colon behind it. -/
theorem Member.exists_name {field : Text × Json} (h : Member field s) (rest : Text) :
    ∃ string named t, after? exactly ['"'] (dropSpace (s ++ rest)) = some string ∧
      readString string = some (field.1, named) ∧
      after? exactly [':'] (dropSpace named) = some (t ++ rest) ∧ Element field.2 t ∧
      t.length ≤ s.length := by
  obtain @⟨key, before, w, after, t, value, hbefore, hkey, hafter, h⟩ := h
  obtain ⟨v, hv, rfl⟩ : ∃ v, Characters key v ∧ w = '"' :: (v ++ ['"']) := by
    cases hkey with
    | mk hv => exact ⟨_, hv, rfl⟩
  refine ⟨v ++ '"' :: (after ++ ':' :: (t ++ rest)), after ++ ':' :: (t ++ rest), t, ?_, ?_, ?_, h,
    ?_⟩
  · rw [List.append_assoc, hbefore.dropSpace_append, List.cons_append, List.cons_append,
      dropSpace_cons (by decide), after?_exactly_eq_some_iff]
    simp
  · exact readString_eq_some_iff.2 ⟨v, hv, rfl⟩
  · rw [hafter.dropSpace_append, dropSpace_cons (by decide), after?_exactly_eq_some_iff]
    rfl
  · simp only [List.length_append, List.length_cons]
    omega

/-- One more step is enough for members. -/
theorem Reads.fields_succ (h : Reads steps) (hs : Members fields s)
    (hsteps : 2 * s.length < steps + 1) (rest : Text) :
    readFields (steps + 1) (s ++ '}' :: rest) = some (fields, rest) := by
  cases hs with
  | last hs =>
    have hbrace : EndsDigits ('}' :: rest) := endsDigits_cons rfl
    obtain ⟨string, named, t, hquote, hkey, hcolon, ht, hlength⟩ := hs.exists_name ('}' :: rest)
    obtain ⟨after, hafter, hread⟩ := h.element ht (by omega) hbrace
    refine readFields_last hquote hkey hcolon hread ?_
    rw [hafter.dropSpace_append, dropSpace_cons (by decide)]
  | @cons field fields s s' hs hrest =>
    have hcomma : EndsDigits (',' :: (s' ++ '}' :: rest)) := endsDigits_cons rfl
    rw [List.length_append, List.length_cons] at hsteps
    rw [List.append_assoc, List.cons_append]
    obtain ⟨string, named, t, hquote, hkey, hcolon, ht, hlength⟩ :=
      hs.exists_name (',' :: (s' ++ '}' :: rest))
    obtain ⟨after, hafter, hread⟩ := h.element ht (by omega) hcomma
    refine readFields_cons hquote hkey hcolon hread ?_ (h.fields hrest (by omega) rest)
    rw [hafter.dropSpace_append, dropSpace_cons (by decide)]

/-- **Whatever the grammar derives is read**, in twice as many steps as there are characters. -/
theorem reads (steps : Nat) : Reads steps := by
  -- Each step leads from values to their elements or members, or from these to their values. At
  -- least one character is gone after two steps, so the bound on the length is kept.
  induction steps with
  | zero =>
    refine ⟨fun h hsteps => ?_, fun _ hsteps => absurd hsteps (Nat.not_lt_zero _),
      fun _ hsteps => absurd hsteps (Nat.not_lt_zero _)⟩
    obtain ⟨c, w, rfl, -⟩ := h.exists_head
    rw [List.length_cons] at hsteps
    omega
  | succ steps ih =>
    exact ⟨fun hw hsteps _ hrest => ih.value_succ hw hsteps hrest, ih.items_succ, ih.fields_succ⟩

end DesignLint.Json
