import DesignLint.Json.Basic

/-! # The grammar of JSON

Which texts are JSON documents, and what they stand for, in the rules of the format and without a
reader. Numbers are integers here, and an object is the list of its members in order:

* `Json.Escape`, `Json.Character`, `Json.Quoted`: strings;
* `Json.Magnitude`: natural numbers;
* `Json.Written`: values, and with them the elements of arrays and the members of objects;
* `Json.Document`: documents. -/

namespace DesignLint.Json

/-- What may stand between tokens. -/
def Space (s : Text) : Prop := ∀ c ∈ s, c ∈ [' ', '\t', '\n', '\r']

/-! ## Strings -/

/-- A hexadecimal digit, in either letter case. -/
def HexDigit (n : Nat) (c : Char) : Prop :=
  n < 16 ∧ (c = n.digitChar ∨ c = n.digitChar.toUpper)

instance (n : Nat) (c : Char) : Decidable (HexDigit n c) := inferInstanceAs (Decidable (_ ∧ _))

/-- A number in four hexadecimal digits. -/
inductive CodeUnit : Nat → Text → Prop
  /-- The digits from the highest to the lowest one. -/
  | mk {n₀ n₁ n₂ n₃ : Nat} {c₀ c₁ c₂ c₃ : Char} (h₀ : HexDigit n₀ c₀) (h₁ : HexDigit n₁ c₁)
      (h₂ : HexDigit n₂ c₂) (h₃ : HexDigit n₃ c₃) :
      CodeUnit (((n₀ * 16 + n₁) * 16 + n₂) * 16 + n₃) [c₀, c₁, c₂, c₃]

/-- The characters that have a short escape, each with the letter of it. -/
def shortEscapes : List (Char × Char) :=
  [('"', '"'), ('\\', '\\'), ('/', '/'), ('\x08', 'b'), ('\x0c', 'f'), ('\n', 'n'), ('\r', 'r'),
    ('\t', 't')]

/-- An escape behind its backslash, with the character that it stands for. -/
inductive Escape : Char → Text → Prop
  /-- A letter. -/
  | short {c letter : Char} (h : (c, letter) ∈ shortEscapes) : Escape c [letter]
  /-- The number of a character that has one code unit. -/
  | unit {n : Nat} {s : Text} (h : CodeUnit n s) (hscalar : n < 0xD800 ∨ 0xDFFF < n) :
      Escape (.ofNat n) ('u' :: s)
  /-- The two code units of any other character. -/
  | pair {high low : Nat} {s t : Text} (hs : CodeUnit high s) (ht : CodeUnit low t)
      (hhigh : 0xD800 ≤ high ∧ high < 0xDC00) (hlow : 0xDC00 ≤ low ∧ low ≤ 0xDFFF) :
      Escape (.ofNat (0x10000 + (high - 0xD800) * 0x400 + (low - 0xDC00)))
        ('u' :: (s ++ '\\' :: 'u' :: t))

/-- A character as it may stand in a string. -/
inductive Character : Char → Text → Prop
  /-- Itself, unless it is a control character, a quote or a backslash. -/
  | plain {c : Char} (hcontrol : 0x20 ≤ c.toNat) (hquote : c ≠ '"') (hbackslash : c ≠ '\\') :
      Character c [c]
  /-- An escape. -/
  | escaped {c : Char} {s : Text} (h : Escape c s) : Character c ('\\' :: s)

/-- What stands between the quotes of a string. -/
inductive Characters : Text → Text → Prop
  /-- Nothing. -/
  | nil : Characters [] []
  /-- A character and what follows it. -/
  | cons {c : Char} {s w t : Text} (h : Character c w) (hrest : Characters s t) :
      Characters (c :: s) (w ++ t)

/-- A string with its quotes. -/
inductive Quoted : Text → Text → Prop
  /-- The characters between two quotes. -/
  | mk {s w : Text} (h : Characters s w) : Quoted s ('"' :: (w ++ ['"']))

/-! ## Numbers -/

/-- A natural number in decimal digits. Only zero starts with a zero. -/
structure Magnitude (n : Nat) (s : Text) : Prop where
  /-- All characters are digits. -/
  digits : ∀ c ∈ s, c.isDigit = true
  /-- There is a digit. -/
  nonempty : s ≠ []
  /-- A zero in front stands alone. -/
  leading : s.head? = some '0' → s = ['0']
  /-- The digits stand for the number. -/
  value : Nat.ofDigitChars 10 s 0 = n

/-! ## Values -/

/-- A value without members. -/
inductive Atom : Json → Text → Prop
  /-- The value without content. -/
  | null : Atom .null "null".toList
  /-- A truth value. -/
  | bool (b : Bool) : Atom (.bool b) (toString b).toList
  /-- A number without a sign. -/
  | natural {n : Nat} {s : Text} (h : Magnitude n s) : Atom (.int n) s
  /-- A number behind a minus sign. -/
  | negative {n : Nat} {s : Text} (h : Magnitude n s) : Atom (.int (-n)) ('-' :: s)
  /-- A string. -/
  | text {s w : Text} (h : Quoted s w) : Atom (.text s) w

mutual

/-- A value without space around it. -/
inductive Written : Json → Text → Prop
  /-- A value without members. -/
  | atom {value : Json} {s : Text} (h : Atom value s) : Written value s
  /-- The array without elements. -/
  | emptyArray {s : Text} (h : Space s) : Written (.array []) ('[' :: (s ++ [']']))
  /-- An array with elements. -/
  | array {items : List Json} {s : Text} (h : Elements items s) :
      Written (.array items) ('[' :: (s ++ [']']))
  /-- The object without members. -/
  | emptyObject {s : Text} (h : Space s) : Written (.object []) ('{' :: (s ++ ['}']))
  /-- An object with members. -/
  | object {fields : List (Text × Json)} {s : Text} (h : Members fields s) :
      Written (.object fields) ('{' :: (s ++ ['}']))

/-- A value with space around it. -/
inductive Element : Json → Text → Prop
  /-- Space, the value and space. -/
  | mk {value : Json} {before w after : Text} (hbefore : Space before) (h : Written value w)
      (hafter : Space after) : Element value (before ++ (w ++ after))

/-- One element or more with commas between them. -/
inductive Elements : List Json → Text → Prop
  /-- A last element. -/
  | last {item : Json} {s : Text} (h : Element item s) : Elements [item] s
  /-- An element in front of others. -/
  | cons {item : Json} {items : List Json} {s t : Text} (h : Element item s)
      (hrest : Elements items t) : Elements (item :: items) (s ++ ',' :: t)

/-- A name with a value. -/
inductive Member : Text × Json → Text → Prop
  /-- The name with space around it, a colon and the value. -/
  | mk {key before w after s : Text} {value : Json} (hbefore : Space before) (hkey : Quoted key w)
      (hafter : Space after) (h : Element value s) :
      Member (key, value) (before ++ (w ++ (after ++ ':' :: s)))

/-- One member or more with commas between them. -/
inductive Members : List (Text × Json) → Text → Prop
  /-- A last member. -/
  | last {field : Text × Json} {s : Text} (h : Member field s) : Members [field] s
  /-- A member in front of others. -/
  | cons {field : Text × Json} {fields : List (Text × Json)} {s t : Text} (h : Member field s)
      (hrest : Members fields t) : Members (field :: fields) (s ++ ',' :: t)

end

/-- A text that is a document, and what it stands for. -/
def Document (value : Json) (s : Text) : Prop := Element value s

end DesignLint.Json
