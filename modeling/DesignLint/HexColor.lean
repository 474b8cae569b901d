import DesignLint.Text.Search

/-! # Hex colour literals

A hex colour literal is a `#` with three to eight hex digits behind it. Two readings differ on
longer runs of digits:

* `HexColor.literal` cuts a run to its first eight digits;
* `HexColor.wholeLiteral` refuses a run of more than eight digits. -/

namespace DesignLint.HexColor

open Text

/-- Whether a character is a hex digit. -/
def isHexDigit (c : Char) : Bool :=
  ('0' ≤ c && c ≤ '9') || ('A' ≤ c && c ≤ 'F') || ('a' ≤ c && c ≤ 'f')

/-- A `#` with at least three hex digits, of which at most eight are read. -/
def literal : Pattern Text
  | '#' :: s =>
    let digits := s.takeWhile isHexDigit
    if digits.length < 3 then none else some ('#' :: digits.take 8, s.drop (min digits.length 8))
  | _ => none

/-- A `#` with three to eight hex digits that are not followed by another one. -/
def wholeLiteral : Pattern Text
  | '#' :: s =>
    let digits := s.takeWhile isHexDigit
    if digits.length < 3 || 8 < digits.length then none
    else some ('#' :: digits, s.drop digits.length)
  | _ => none

/-- The literals of a text, long runs cut to eight digits. -/
def literals (s : Text) : List Text := (findAll literal s).map (·.value)

/-- The literals of a text, without those that a further hex digit follows. -/
def wholeLiterals (s : Text) : List Text := (findAll wholeLiteral s).map (·.value)

end DesignLint.HexColor
