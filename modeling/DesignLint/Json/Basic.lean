import DesignLint.Number.Numeral

/-! # JSON documents

JSON values and their indented form. A value that holds an integer with too many digits has none. -/

namespace DesignLint

/-- A JSON value whose numbers are integers. -/
inductive Json where
  /-- The value without content. -/
  | null
  /-- A truth value. -/
  | bool (b : Bool)
  /-- An integer. -/
  | int (n : Int)
  /-- A string. -/
  | text (s : Text)
  /-- Values in order. -/
  | array (items : List Json)
  /-- Named values in order. -/
  | object (fields : List (Text × Json))

namespace Json

open Numeral (Unwritable)

/-- A character as it stands in a string. -/
def escapedChar (c : Char) : Text :=
  if c == '"' || c == '\\' then ['\\', c]
  else if c == '\n' then ['\\', 'n']
  else if c == '\r' then ['\\', 'r']
  else if c == '\t' then ['\\', 't']
  else if c == '\x08' then ['\\', 'b']
  else if c == '\x0c' then ['\\', 'f']
  else if c.toNat < 0x20 then '\\' :: 'u' :: Text.hexPadded 4 c.toNat
  else [c]

/-- A string in its quotes. -/
def quotedText (s : Text) : Text := '"' :: s.flatMap escapedChar ++ ['"']

/-- The start of a line at a nesting depth. -/
def newline (depth : Nat) : Text := '\n' :: List.replicate (2 * depth) ' '

mutual

/-- The written form of a value that stands at a nesting depth. Items and fields have lines of
their own, indented by two spaces more than what encloses them. -/
def renderAt (depth : Nat) : Json → Except Unwritable Text
  | null => .ok "null".toList
  | bool true => .ok "true".toList
  | bool false => .ok "false".toList
  | int n => Numeral.writeInteger n
  | text s => .ok (quotedText s)
  | array [] => .ok "[]".toList
  | array (item :: rest) => do
    let first ← renderAt (depth + 1) item
    let others ← renderItems (depth + 1) rest
    return '[' :: newline (depth + 1) ++ first ++ others ++ newline depth ++ [']']
  | object [] => .ok ['{', '}']
  | object ((key, value) :: rest) => do
    let first ← renderAt (depth + 1) value
    let others ← renderFields (depth + 1) rest
    return '{' :: newline (depth + 1) ++ quotedText key ++ ": ".toList ++ first ++ others ++
      newline depth ++ ['}']

/-- The written form of the items behind the first one. -/
def renderItems (depth : Nat) : List Json → Except Unwritable Text
  | [] => .ok []
  | item :: rest => do
    let first ← renderAt depth item
    return ',' :: newline depth ++ first ++ (← renderItems depth rest)

/-- The written form of the fields behind the first one. -/
def renderFields (depth : Nat) : List (Text × Json) → Except Unwritable Text
  | [] => .ok []
  | (key, value) :: rest => do
    let first ← renderAt depth value
    return ',' :: newline depth ++ quotedText key ++ ": ".toList ++ first ++
      (← renderFields depth rest)

end

/-- The written form of a document. -/
def render (value : Json) : Except Unwritable Text := renderAt 0 value

end Json

end DesignLint
