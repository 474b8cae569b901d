import DesignLint.Proofs.Json.Grammar
import DesignLint.Proofs.Numeral

/-! # Written JSON

The indented form of a value is a document of it:

* `Json.character_escapedChar`, `Json.quoted_quotedText`: strings;
* `Json.magnitude_ofNat`, `Json.atom_ofInt`: numbers;
* `Json.elements_renderItems`, `Json.members_renderFields`: the lines between brackets and braces;
* `Json.document_render`: whole documents;
* `Json.failure?_renderAt`, `Json.exists_render_iff`: the values that have one. -/

namespace DesignLint.Json

open Text

variable {c : Char} {s : Text}

/-! ## Strings -/

/-- A digit of a written hexadecimal number. -/
theorem hexDigit_digitChar {n : Nat} (h : n < 16) : HexDigit n n.digitChar := ⟨h, .inl rfl⟩

/-- A control character is written as its number. -/
theorem codeUnit_hexPadded {n : Nat} (h : n < 0x20) : CodeUnit n (hexPadded 4 n) := by
  have hdigits : ∀ n < 0x20, hexPadded 4 n = [Nat.digitChar 0, Nat.digitChar 0,
      (n / 16).digitChar, (n % 16).digitChar] := by decide
  have hunit := CodeUnit.mk (hexDigit_digitChar (n := 0) (by omega))
    (hexDigit_digitChar (n := 0) (by omega)) (hexDigit_digitChar (n := n / 16) (by omega))
    (hexDigit_digitChar (n := n % 16) (by omega))
  have hvalue : ((0 * 16 + 0) * 16 + n / 16) * 16 + n % 16 = n := by omega
  rw [hvalue] at hunit
  rw [hdigits n h]
  exact hunit

/-- The characters that are written as short escapes. -/
def shortened : List Char := ['"', '\\', '\n', '\r', '\t', '\x08', '\x0c']

/-- Any other character is written as itself, unless it is a control character. -/
theorem escapedChar_of_not_mem (h : c ∉ shortened) :
    escapedChar c = if c.toNat < 0x20 then '\\' :: 'u' :: hexPadded 4 c.toNat else [c] := by
  simp only [shortened, List.mem_cons, List.not_mem_nil, or_false, not_or] at h
  obtain ⟨hquote, hbackslash, hn, hr, ht, hb, hf⟩ := h
  simp [escapedChar, hquote, hbackslash, hn, hr, ht, hb, hf]

/-- A character is written as it may stand in a string. -/
theorem character_escapedChar (c : Char) : Character c (escapedChar c) := by
  by_cases hshort : c ∈ shortened
  · simp only [shortened, List.mem_cons, List.not_mem_nil, or_false] at hshort
    rcases hshort with rfl | rfl | rfl | rfl | rfl | rfl | rfl
    all_goals exact .escaped (.short (by decide))
  · rw [escapedChar_of_not_mem hshort]
    split
    · rename_i hcontrol
      have hunit : Escape (.ofNat c.toNat) ('u' :: hexPadded 4 c.toNat) :=
        .unit (codeUnit_hexPadded hcontrol) (.inl (by omega))
      rw [Char.ofNat_toNat] at hunit
      exact .escaped hunit
    · rename_i hcontrol
      refine .plain (Nat.le_of_not_lt hcontrol) ?_ ?_
      · rintro rfl
        exact hshort (by decide)
      · rintro rfl
        exact hshort (by decide)

/-- The characters of a string are written one by one. -/
theorem characters_flatMap (s : Text) : Characters s (s.flatMap escapedChar) := by
  induction s with
  | nil => exact .nil
  | cons c s ih =>
    rw [List.flatMap_cons]
    exact .cons (character_escapedChar c) ih

/-- A string is written in its quotes. -/
theorem quoted_quotedText (s : Text) : Quoted s (quotedText s) := .mk (characters_flatMap s)

/-! ## Numbers -/

/-- Only zero is written with a zero in front. -/
theorem toDigits_of_head? {n : Nat} (h : (Nat.toDigits 10 n).head? = some '0') :
    Nat.toDigits 10 n = ['0'] := by
  induction n using Nat.strongRecOn with
  | ind n ih =>
    rw [Nat.toDigits_eq_if (by decide)] at h ⊢
    split
    · rename_i hn
      rw [if_pos hn] at h
      rw [Option.some_inj.1 h]
    · rename_i hn
      have hdigits : Nat.toDigits 10 (n / 10) ≠ [] := Nat.toDigits_ne_nil
      obtain ⟨c, front, hcons⟩ := List.exists_cons_of_ne_nil hdigits
      rw [if_neg hn, hcons, List.cons_append, List.head?_cons] at h
      -- The digits in front would have to be those of zero, but there is more than one digit.
      have hfront := ih (n / 10) (by omega) (by rw [hcons, List.head?_cons, h])
      have hvalue : Nat.ofDigitChars 10 (Nat.toDigits 10 (n / 10)) 0 = n / 10 :=
        Nat.ofDigitChars_ten_toDigits
      rw [hfront] at hvalue
      have hzero : n / 10 = 0 := hvalue.symm
      omega

/-- A natural number is written in its digits. -/
theorem magnitude_ofNat (n : Nat) : Magnitude n (ofNat n) where
  digits _ hc := Nat.isDigit_of_mem_toDigits (by decide) (by decide) hc
  nonempty := Nat.toDigits_ne_nil
  leading := toDigits_of_head?
  value := Nat.ofDigitChars_ten_toDigits

/-- An integer is written with its sign. -/
theorem atom_ofInt (n : Int) : Atom (.int n) (ofInt n) := by
  cases n with
  | ofNat n => exact .natural (magnitude_ofNat n)
  | negSucc n => exact .negative (magnitude_ofNat (n + 1))

/-! ## Values -/

/-- The start of a line is space. -/
theorem space_newline (depth : Nat) : Space (newline depth) := by
  intro c hc
  rw [newline, List.mem_cons, List.mem_replicate] at hc
  rcases hc with rfl | ⟨-, rfl⟩
  · decide
  · decide

/-- Nothing is space. -/
theorem space_nil : Space [] := nofun

/-- A value at the start of a line is an element. -/
theorem element_of_line {value : Json} {w close : Text} (depth : Nat) (h : Written value w)
    (hclose : Space close) : Element value (newline depth ++ w ++ close) := by
  rw [List.append_assoc]
  exact .mk (space_newline depth) h hclose

/-- **Items are written as elements**, each on a line of its own. -/
theorem elements_renderItems {depth : Nat} {close first others : Text} {item : Json}
    {rest : List Json}
    (h : ∀ member ∈ item :: rest, ∀ w, renderAt depth member = .ok w → Written member w)
    (hfirst : renderAt depth item = .ok first) (hothers : renderItems depth rest = .ok others)
    (hclose : Space close) :
    Elements (item :: rest) (newline depth ++ first ++ others ++ close) := by
  obtain ⟨hitem, hrest⟩ := List.forall_mem_cons.1 h
  induction rest generalizing item first others with
  | nil =>
    obtain rfl := Except.ok.inj hothers
    rw [List.append_nil]
    exact .last (element_of_line depth (hitem first hfirst) hclose)
  | cons next rest ih =>
    obtain ⟨second, hsecond, hjoined⟩ := bind_eq_ok_iff.1 hothers
    obtain ⟨behind, hbehind, hjoined⟩ := bind_eq_ok_iff.1 hjoined
    obtain rfl := Except.ok.inj hjoined
    have hfirst := element_of_line depth (hitem first hfirst) space_nil
    obtain ⟨hnext, hrest'⟩ := List.forall_mem_cons.1 hrest
    have helements := Elements.cons hfirst (ih hrest hsecond hbehind hnext hrest')
    rw [List.append_nil] at helements
    simpa only [List.append_assoc, List.cons_append] using helements

/-- A name and a value on a line are a member. -/
theorem member_of_line {key w close : Text} {value : Json} (depth : Nat) (h : Written value w)
    (hclose : Space close) :
    Member (key, value) (newline depth ++ quotedText key ++ ": ".toList ++ w ++ close) := by
  have hspace : Space [' '] := by
    intro c hc
    rw [List.mem_singleton.1 hc]
    decide
  have hmember := Member.mk (space_newline depth) (quoted_quotedText key) space_nil
    (.mk hspace h hclose)
  simpa using hmember

/-- **Fields are written as members**, each on a line of its own. -/
theorem members_renderFields {depth : Nat} {close key first others : Text} {value : Json}
    {rest : List (Text × Json)}
    (h : ∀ field ∈ (key, value) :: rest, ∀ w, renderAt depth field.2 = .ok w → Written field.2 w)
    (hfirst : renderAt depth value = .ok first) (hothers : renderFields depth rest = .ok others)
    (hclose : Space close) :
    Members ((key, value) :: rest)
      (newline depth ++ quotedText key ++ ": ".toList ++ first ++ others ++ close) := by
  obtain ⟨hvalue, hrest⟩ := List.forall_mem_cons.1 h
  induction rest generalizing key value first others with
  | nil =>
    obtain rfl := Except.ok.inj hothers
    rw [List.append_nil]
    exact .last (member_of_line depth (hvalue first hfirst) hclose)
  | cons next rest ih =>
    obtain ⟨second, hsecond, hjoined⟩ := bind_eq_ok_iff.1 hothers
    obtain ⟨behind, hbehind, hjoined⟩ := bind_eq_ok_iff.1 hjoined
    obtain rfl := Except.ok.inj hjoined
    have hfirst : Member (key, value) _ := member_of_line depth (hvalue first hfirst) space_nil
    obtain ⟨hnext, hrest'⟩ := List.forall_mem_cons.1 hrest
    have hmembers := Members.cons hfirst (ih hrest hsecond hbehind hnext hrest')
    rw [List.append_nil] at hmembers
    simpa only [List.append_assoc, List.cons_append] using hmembers

/-- The value of a field is smaller than the fields. -/
theorem sizeOf_snd_lt_of_mem {field : Text × Json} {fields : List (Text × Json)}
    (h : field ∈ fields) : sizeOf field.2 < sizeOf fields := by
  obtain ⟨key, value⟩ := field
  have hfield := List.sizeOf_lt_of_mem h
  rw [Prod.mk.sizeOf_spec] at hfield
  show sizeOf value < sizeOf fields
  omega

/-- **A value that is written is written as itself**, at every nesting depth. -/
theorem written_renderAt (depth : Nat) (value : Json) :
    ∀ w, renderAt depth value = .ok w → Written value w := by
  match value with
  | .null =>
    intro w h
    obtain rfl := Except.ok.inj h
    exact .atom .null
  | .bool true =>
    intro w h
    obtain rfl := Except.ok.inj h
    exact .atom (.bool true)
  | .bool false =>
    intro w h
    obtain rfl := Except.ok.inj h
    exact .atom (.bool false)
  | .int n =>
    intro w h
    rw [renderAt, Numeral.writeInteger_eq_ok_iff] at h
    obtain ⟨-, rfl⟩ := h
    exact .atom (atom_ofInt n)
  | .text s =>
    intro w h
    obtain rfl := Except.ok.inj h
    exact .atom (.text (quoted_quotedText s))
  | .array [] =>
    intro w h
    obtain rfl := Except.ok.inj h
    exact .emptyArray space_nil
  | .array (item :: rest) =>
    intro w h
    rw [renderAt] at h
    obtain ⟨first, hfirst, h⟩ := bind_eq_ok_iff.1 h
    obtain ⟨others, hothers, h⟩ := bind_eq_ok_iff.1 h
    obtain rfl := Except.ok.inj h
    have hmembers : ∀ member ∈ item :: rest, ∀ w, renderAt (depth + 1) member = .ok w →
        Written member w := by
      intro member hmember
      exact written_renderAt (depth + 1) member
    have harray := Written.array
      (elements_renderItems hmembers hfirst hothers (space_newline depth))
    simpa only [List.append_assoc, List.cons_append] using harray
  | .object [] =>
    intro w h
    rw [renderAt] at h
    obtain rfl := Except.ok.inj h
    exact .emptyObject space_nil
  | .object ((key, value) :: rest) =>
    intro w h
    rw [renderAt] at h
    obtain ⟨first, hfirst, h⟩ := bind_eq_ok_iff.1 h
    obtain ⟨others, hothers, h⟩ := bind_eq_ok_iff.1 h
    obtain rfl := Except.ok.inj h
    have hfields : ∀ field ∈ (key, value) :: rest, ∀ w, renderAt (depth + 1) field.2 = .ok w →
        Written field.2 w := by
      intro field hfield
      exact written_renderAt (depth + 1) field.2
    have hobject := Written.object
      (members_renderFields hfields hfirst hothers (space_newline depth))
    simpa only [List.append_assoc, List.cons_append] using hobject
  termination_by sizeOf value
  decreasing_by
    · have hsize := List.sizeOf_lt_of_mem hmember
      rw [Json.array.sizeOf_spec]
      omega
    · have hsize := sizeOf_snd_lt_of_mem hfield
      rw [Json.object.sizeOf_spec]
      omega

/-- **The written form of a value is a document of it.** -/
theorem document_render {value : Json} {s : Text} (h : render value = .ok s) :
    Document value s := by
  have helement := Element.mk space_nil (written_renderAt 0 value s h) space_nil
  rw [List.nil_append, List.append_nil] at helement
  exact helement

/-! ## What is written at all -/

mutual

/-- The integers in a value, in order. -/
def integers : Json → List Int
  | int n => [n]
  | array items => itemIntegers items
  | object fields => fieldIntegers fields
  | null | bool _ | text _ => []

/-- The integers in some items. -/
def itemIntegers : List Json → List Int
  | [] => []
  | item :: rest => item.integers ++ itemIntegers rest

/-- The integers in some fields. -/
def fieldIntegers : List (Text × Json) → List Int
  | [] => []
  | (_, value) :: rest => value.integers ++ fieldIntegers rest

end

mutual

/-- **Writing a value fails at the first integer that cannot be written.** -/
theorem failure?_renderAt (depth : Nat) :
    ∀ value : Json, failure? (renderAt depth value) = Numeral.firstUnwritten? value.integers
  | .null => rfl
  | .bool true => rfl
  | .bool false => rfl
  | .int n => by
    rw [renderAt, integers, Numeral.firstUnwritten?_singleton]
  | .text _ => rfl
  | .array [] => rfl
  | .array (item :: rest) => by
    rw [renderAt, failure?_pair, failure?_renderAt (depth + 1) item,
      failure?_renderItems (depth + 1) rest, ← Numeral.firstUnwritten?_append]
    rfl
  | .object [] => by
    rw [renderAt]
    rfl
  | .object ((key, value) :: rest) => by
    rw [renderAt, failure?_pair, failure?_renderAt (depth + 1) value,
      failure?_renderFields (depth + 1) rest, ← Numeral.firstUnwritten?_append]
    rfl

/-- So does writing items. -/
theorem failure?_renderItems (depth : Nat) :
    ∀ items : List Json,
      failure? (renderItems depth items) = Numeral.firstUnwritten? (itemIntegers items)
  | [] => rfl
  | item :: rest => by
    rw [renderItems, failure?_pair, failure?_renderAt depth item, failure?_renderItems depth rest,
      ← Numeral.firstUnwritten?_append]
    rfl

/-- So does writing fields. -/
theorem failure?_renderFields (depth : Nat) :
    ∀ fields : List (Text × Json),
      failure? (renderFields depth fields) = Numeral.firstUnwritten? (fieldIntegers fields)
  | [] => rfl
  | (key, value) :: rest => by
    rw [renderFields, failure?_pair, failure?_renderAt depth value,
      failure?_renderFields depth rest, ← Numeral.firstUnwritten?_append]
    rfl

end

/-- The integers in some items are those in each of them. -/
theorem itemIntegers_eq_flatMap (items : List Json) :
    itemIntegers items = items.flatMap integers := by
  induction items with
  | nil => rfl
  | cons item rest ih => rw [itemIntegers, ih, List.flatMap_cons]

/-- **A document is written** just when no integer in it has too many digits. -/
theorem exists_render_iff {value : Json} :
    (∃ s, render value = .ok s) ↔ ∀ n ∈ value.integers, Numeral.Writable n := by
  rw [← Numeral.firstUnwritten?_eq_none_iff, ← failure?_renderAt 0, failure?_eq_none_iff]
  rfl

/-- **A document is not written** just when an integer in it has too many digits. -/
theorem render_eq_error_iff {value : Json} :
    render value = .error .tooLong ↔ ∃ n ∈ value.integers, ¬ Numeral.Writable n := by
  rw [← Numeral.firstUnwritten?_eq_some_iff, ← failure?_renderAt 0, failure?_eq_some_iff]
  rfl

end DesignLint.Json
