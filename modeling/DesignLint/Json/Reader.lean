import DesignLint.Json.Basic
import DesignLint.Number.Numeral
import DesignLint.Text.Search

/-! # Reading JSON documents

`Json.parse? s` reads a document: one value with spaces around it and between its tokens. Numbers
with a fraction or an exponent are refused, since `Json` holds integers only; fields stay in their
order, whether or not their names are distinct. -/

namespace DesignLint.Json

open Text

/-- Whether a character may stand between tokens. -/
def isSpace (c : Char) : Bool := c == ' ' || c == '\n' || c == '\t' || c == '\r'

/-- A text without the spaces at its head. -/
def dropSpace (s : Text) : Text := s.dropWhile isSpace

/-! ## Strings -/

/-- The character that a letter behind a backslash stands for. -/
def shortEscape? : Char → Option Char
  | '"' => some '"'
  | '\\' => some '\\'
  | '/' => some '/'
  | 'b' => some '\x08'
  | 'f' => some '\x0c'
  | 'n' => some '\n'
  | 'r' => some '\r'
  | 't' => some '\t'
  | _ => none

/-- Reads a number of four hex digits. -/
def codeUnit : Pattern Nat
  | a :: b :: c :: d :: s => do
    let digits ← [a, b, c, d].mapM (Numeral.digit? 16)
    return (Numeral.digitsValue 16 digits, s)
  | _ => none

/-- Reads an escape behind its backslash. A character above U+FFFF is written as two numbers, the
halves of a pair; a half alone is no character. -/
def escape : Pattern Char
  | 'u' :: s => do
    let (high, s) ← codeUnit s
    if high < 0xD800 || 0xDFFF < high then return (Char.ofNat high, s)
    else
      guard (high < 0xDC00)
      let (low, s) ← codeUnit (← after? exactly ['\\', 'u'] s)
      guard (0xDC00 ≤ low && low ≤ 0xDFFF)
      return (Char.ofNat (0x10000 + (high - 0xD800) * 0x400 + (low - 0xDC00)), s)
  | c :: s => (shortEscape? c).map fun plain => (plain, s)
  | [] => none

/-- Reads a string up to its closing quote, behind its opening one. -/
def stringRest : (steps : Nat) → Pattern Text
  | 0, _ => none
  | _, [] => none
  | _ + 1, '"' :: s => some ([], s)
  | steps + 1, '\\' :: s => do
    let (c, s) ← escape s
    let (more, s) ← stringRest steps s
    return (c :: more, s)
  | steps + 1, c :: s =>
    if c.toNat < 0x20 then none
    else (stringRest steps s).map fun (more, s) => (c :: more, s)

/-- Reads a string behind its opening quote. -/
def readString : Pattern Text := fun s => stringRest (s.length + 1) s

/-! ## Values -/

/-- Reads an integer without a sign. Zero is the only one that starts with a zero. -/
def readMagnitude : Pattern Nat := fun s =>
  match s.span Char.isDigit with
  | ([], _) => none
  | ('0' :: _ :: _, _) => none
  | (digits, s) => some (Numeral.digitsValue 10 (digits.filterMap (Numeral.digit? 10)), s)

/-- Reads a value without members. -/
def readAtom : Pattern Json
  | 'n' :: s => (after? exactly "ull".toList s).map fun s => (null, s)
  | 't' :: s => (after? exactly "rue".toList s).map fun s => (bool true, s)
  | 'f' :: s => (after? exactly "alse".toList s).map fun s => (bool false, s)
  | '"' :: s => (readString s).map fun (t, s) => (text t, s)
  | '-' :: s => (readMagnitude s).map fun (n, s) => (int (-n), s)
  | s => (readMagnitude s).map fun (n, s) => (int n, s)

mutual

/-- Reads a value. -/
def readValue : (steps : Nat) → Pattern Json
  | 0, _ => none
  | steps + 1, s =>
    match dropSpace s with
    | '[' :: s =>
      match dropSpace s with
      | ']' :: s => some (array [], s)
      | s => (readItems steps s).map fun (items, s) => (array items, s)
    | '{' :: s =>
      match dropSpace s with
      | '}' :: s => some (object [], s)
      | s => (readFields steps s).map fun (fields, s) => (object fields, s)
    | s => readAtom s

/-- Reads items up to the closing bracket; there is at least one. -/
def readItems : (steps : Nat) → Pattern (List Json)
  | 0, _ => none
  | steps + 1, s => do
    let (item, s) ← readValue steps s
    match dropSpace s with
    | ',' :: s =>
      let (rest, s) ← readItems steps s
      return (item :: rest, s)
    | ']' :: s => return ([item], s)
    | _ => none

/-- Reads fields up to the closing brace; there is at least one. -/
def readFields : (steps : Nat) → Pattern (List (Text × Json))
  | 0, _ => none
  | steps + 1, s => do
    let (key, s) ← readString (← after? exactly ['"'] (dropSpace s))
    let (value, s) ← readValue steps (← after? exactly [':'] (dropSpace s))
    match dropSpace s with
    | ',' :: s =>
      let (rest, s) ← readFields steps s
      return ((key, value) :: rest, s)
    | '}' :: s => return ([(key, value)], s)
    | _ => none

end

/-- The document that a text is. Every character of it is read in two steps at most. -/
def parse? (s : Text) : Option Json := do
  let (value, rest) ← readValue (2 * s.length + 2) s
  guard (dropSpace rest).isEmpty
  return value

end DesignLint.Json
