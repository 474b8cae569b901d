import DesignLint.Text.Basic

/-! # Base 64

Bytes from text, six bits a character. Characters that are no digits are skipped. Padding ends the
bytes once it completes a group of four characters; elsewhere it is skipped too. -/

namespace DesignLint.Base64

/-- The value of a digit. -/
def digit? (c : Char) : Option Nat :=
  if 'A' ≤ c && c ≤ 'Z' then some (c.toNat - 65)
  else if 'a' ≤ c && c ≤ 'z' then some (c.toNat - 71)
  else if c.isDigit then some (c.toNat + 4)
  else if c = '+' then some 62
  else if c = '/' then some 63
  else none

/-- What a digit adds: a byte, if the bits suffice, and the bits that are left over. `place` is the
place of the digit in its group and `left` the bits left over before. -/
def step (place left digit : Nat) : List UInt8 × Nat :=
  match place with
  | 0 => ([], digit)
  | 1 => ([UInt8.ofNat (left * 4 + digit / 16)], digit % 16)
  | 2 => ([UInt8.ofNat (left * 16 + digit / 4)], digit % 4)
  | _ => ([UInt8.ofNat (left * 64 + digit)], 0)

/-- The bytes of a text from a place in a group on, with `left` as the bits left over and `pads` as
the padding since the last digit; none if the last group is incomplete. -/
def decodeFrom (place left pads : Nat) : Text → Option (List UInt8)
  | [] => if place = 0 then some [] else none
  | c :: s =>
    if c = '=' then
      if place < 2 then decodeFrom place left pads s
      else if 4 ≤ place + pads + 1 then some []
      else decodeFrom place left (pads + 1) s
    else match digit? c with
      | none => decodeFrom place left pads s
      | some digit =>
        let (bytes, left) := step place left digit
        (decodeFrom ((place + 1) % 4) left 0 s).map (bytes ++ ·)

/-- The bytes of a text; none if the last group is incomplete. -/
def decode? (s : Text) : Option (List UInt8) := decodeFrom 0 0 0 s

end DesignLint.Base64
