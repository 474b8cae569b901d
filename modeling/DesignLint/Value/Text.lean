import DesignLint.Number.Numeral
import DesignLint.Number.Shortest
import DesignLint.Text.Quoted
import DesignLint.Value.Basic

/-! # The text of a value

How a value is written where a text is needed. A text stands for itself; inside other values texts
are quoted, and dates are written with the names of their types. Integers that are too long have
no text. -/

namespace DesignLint.Value

open Numeral (Unwritable)

/-- A byte as it stands between quotes. -/
def quotedByte (quote : Char) (byte : UInt8) : Text :=
  let n := byte.toNat
  if 0x20 ≤ n && n < 0x7F then Text.quotedChar quote (Char.ofNat n)
  else if n = 0x0A then ['\\', 'n']
  else if n = 0x0D then ['\\', 'r']
  else if n = 0x09 then ['\\', 't']
  else '\\' :: 'x' :: Text.hexPadded 2 n

/-- Bytes in quotes. -/
def quotedBytes (content : List UInt8) : Text :=
  let quote := if content.contains 0x27 && !content.contains 0x22 then '"' else '\''
  'b' :: quote :: content.flatMap (quotedByte quote) ++ [quote]

/-- Numbers separated by commas. -/
def numberList (numbers : List Nat) : Text := Text.joined ", ".toList (numbers.map Text.ofNat)

/-- A date with the name of its type. -/
def quotedDate (d : Date) : Text :=
  "datetime.date(".toList ++ numberList [d.year, d.month, d.day] ++ [')']

/-- An offset with the name of its type. -/
def quotedOffset (minutes : Int) : Text :=
  if minutes = 0 then "datetime.timezone.utc".toList
  else "datetime.timezone(".toList ++ spanText minutes ++ [')']

/-- A moment with the name of its type; seconds and millionths are left out from the end while they
are zero. -/
def quotedMoment (t : Moment) : Text :=
  "datetime.datetime(".toList ++
    numberList ([t.date.year, t.date.month, t.date.day, t.hour, t.minute] ++
      (if t.micro ≠ 0 then [t.second, t.micro] else if t.second ≠ 0 then [t.second] else [])) ++
    ((t.offset.map fun minutes => ", tzinfo=".toList ++ quotedOffset minutes).getD []) ++ [')']

mutual

/-- How a value is written inside another value. -/
def quoted : Value → Except Unwritable Text
  | null => .ok "None".toList
  | bool b => .ok (if b then "True".toList else "False".toList)
  | int n => Numeral.writeInteger n
  | float x => .ok x.text
  | text s => .ok (Text.quoted s)
  | bytes content => .ok (quotedBytes content)
  | date d => .ok (quotedDate d)
  | moment t => .ok (quotedMoment t)
  | list items => do
    return '[' :: Text.joined ", ".toList (← quotedItems items) ++ [']']
  | pair key value => do
    return '(' :: (← quoted key) ++ ", ".toList ++ (← quoted value) ++ [')']
  | mapping entries => do
    return '{' :: Text.joined ", ".toList (← quotedEntries entries) ++ ['}']
  | set [] => .ok "set()".toList
  | set (member :: rest) => do
    let first ← quoted member
    return '{' :: Text.joined ", ".toList (first :: (← quotedItems rest)) ++ ['}']
  | again .list => .ok "[...]".toList
  | again .pair => .ok "(...)".toList
  | again .mapping => .ok ("{...}".toList)

/-- How the items of a list are written. -/
def quotedItems : List Value → Except Unwritable (List Text)
  | [] => .ok []
  | item :: rest => do
    let first ← quoted item
    return first :: (← quotedItems rest)

/-- How the entries of a mapping are written. -/
def quotedEntries : List (Value × Value) → Except Unwritable (List Text)
  | [] => .ok []
  | (key, value) :: rest => do
    let first ← quoted key
    let second ← quoted value
    return (first ++ ": ".toList ++ second) :: (← quotedEntries rest)

end

/-- The text of a value. -/
def toText : Value → Except Unwritable Text
  | text s => .ok s
  | date d => .ok d.text
  | moment t => .ok t.text
  | value => value.quoted

end DesignLint.Value
