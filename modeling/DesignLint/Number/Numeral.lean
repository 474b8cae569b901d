import DesignLint.Number.Binary64
import DesignLint.Text.Blank
import DesignLint.Text.DecimalDigit
import DesignLint.Text.Quoted

/-! # Numerals

How texts are read as numbers, and integers are written. Digits may come from any script and blanks
may surround a numeral; ASCII separators are no blanks here. A decimal number may have low lines
between its digits. An integer with too many digits is neither read nor written. -/

namespace DesignLint.Numeral

open Text

/-- The most decimal digits of an integer that is read or written. -/
def maxDigits : Nat := 4300

/-- Why a text is no numeral. -/
inductive Flaw where
  /-- The text is no integer of the base. -/
  | notInteger (base : Nat) (text : Text)
  /-- The text has more decimal digits than are read. -/
  | tooManyDigits (count : Nat)
  /-- The text is no decimal number. -/
  | notDecimal (text : Text)
  deriving Repr, DecidableEq

/-- The most characters of a text that a complaint about an integer shows. -/
def maxShown : Nat := 200

/-- The text of a flaw. -/
def Flaw.message : Flaw → Text
  | notInteger base s =>
    "invalid literal for int() with base ".toList ++ Text.ofNat base ++ ": ".toList ++
      (Text.quoted s).take maxShown
  | tooManyDigits count =>
    "Exceeds the limit (".toList ++ Text.ofNat maxDigits ++
      " digits) for integer string conversion: value has ".toList ++ Text.ofNat count ++
      " digits; use sys.set_int_max_str_digits() to increase the limit".toList
  | notDecimal s => "could not convert string to float: ".toList ++ Text.quoted s

/-- Whether a character may surround a numeral. -/
def isSurrounding (c : Char) : Bool :=
  (0x09 ≤ c.toNat && c.toNat ≤ 0x0D) || c == ' ' || (0x7F < c.toNat && isBlank c)

/-- A character with its digit in ASCII, if it is a digit of another script. -/
def asciiDigit (c : Char) : Char :=
  if c.toNat < 0x80 then c else ((digitValue? c).map fun d => Char.ofNat (48 + d)).getD c

/-- A text without the characters that may surround a numeral, and with ASCII digits. -/
def core (s : Text) : Text :=
  (((s.map asciiDigit).dropWhile isSurrounding).reverse.dropWhile isSurrounding).reverse

/-- The value of a digit in bases up to 36. -/
def digit? (base : Nat) (c : Char) : Option Nat :=
  let value :=
    if c.isDigit then some (c.toNat - 48)
    else if 'a' ≤ c && c ≤ 'z' then some (c.toNat - 87)
    else if 'A' ≤ c && c ≤ 'Z' then some (c.toNat - 55)
    else none
  value.filter (· < base)

/-- The value of some digits. -/
def digitsValue (base : Nat) (digits : List Nat) : Nat :=
  digits.foldl (fun value digit => value * base + digit) 0

/-- A sign at the head of a text, and the text behind it. -/
def splitSign : Text → Bool × Text
  | '-' :: s => (true, s)
  | '+' :: s => (false, s)
  | s => (false, s)

/-- A text without the letter pair that marks its base. -/
def dropBaseMark (base : Nat) : Text → Text
  | '0' :: mark :: s =>
    let marked := match base with
      | 2 => mark == 'b' || mark == 'B'
      | 8 => mark == 'o' || mark == 'O'
      | 16 => mark == 'x' || mark == 'X'
      | _ => false
    if marked then s else '0' :: mark :: s
  | s => s

/-- Reads an integer: a sign, a mark of the base, and digits without separators. Only decimal
numerals are limited in length, and the limit comes before a flaw behind the digits. -/
def readInteger (base : Nat) (s : Text) : Except Flaw Int :=
  let (negative, magnitude) := splitSign (core s)
  let body := dropBaseMark base magnitude
  let digits := (body.takeWhile fun c => (digit? base c).isSome).filterMap (digit? base)
  if base = 10 && maxDigits < digits.length then .error (.tooManyDigits digits.length)
  else if digits.isEmpty || digits.length < body.length then .error (.notInteger base s)
  else
    let value := digitsValue base digits
    .ok (if negative then -value else value)

/-- The digits at the head of a text and the text behind them. -/
def splitDigits (s : Text) : Text × Text := s.span Char.isDigit

/-- Reads the exponent of a decimal number at the end of a text. -/
def readExponent? : Text → Option Int
  | [] => some 0
  | mark :: s =>
    if mark == 'e' || mark == 'E' then
      let (negative, magnitude) := splitSign s
      let (digits, rest) := splitDigits magnitude
      if digits.isEmpty || !rest.isEmpty then none
      else
        let value := digitsValue 10 (digits.filterMap (digit? 10))
        some (if negative then -value else value)
    else none

/-- Reads the magnitude of a decimal number: digits with a point or without, and an exponent. -/
def readMagnitude? (negative : Bool) (s : Text) : Option Binary64 :=
  let (whole, afterWhole) := splitDigits s
  let (fraction, afterFraction) := match afterWhole with
    | '.' :: rest => splitDigits rest
    | rest => ([], rest)
  if whole.isEmpty && fraction.isEmpty then none
  else (readExponent? afterFraction).map fun exponent =>
    .ofDecimal negative (digitsValue 10 ((whole ++ fraction).filterMap (digit? 10)))
      (exponent - fraction.length)

/-- A text without its low lines, each of which has to stand between two digits; none if one of
them does not. The flag tells whether a digit comes before the text. -/
def dropSeparators? : (afterDigit : Bool) → Text → Option Text
  | _, [] => some []
  | afterDigit, '_' :: s =>
    if afterDigit && (s.head?.map Char.isDigit).getD false then dropSeparators? false s else none
  | _, c :: s => (dropSeparators? c.isDigit s).map (c :: ·)

/-- Reads a decimal number, an infinity or the word for no number, all without low lines. -/
def readPlainDecimal? (s : Text) : Option Binary64 :=
  let (negative, magnitude) := splitSign s
  let word := magnitude.map Char.toLower
  if word = "inf".toList || word = "infinity".toList then some (.infinity negative)
  else if word = "nan".toList then some .nan
  else readMagnitude? negative magnitude

/-- Reads a decimal number, an infinity or the word for no number. -/
def readDecimal (s : Text) : Except Flaw Binary64 :=
  match (dropSeparators? false (core s)).bind readPlainDecimal? with
  | some x => .ok x
  | none => .error (.notDecimal s)

/-- Why something has no text: an integer in it has too many digits. -/
inductive Unwritable where
  /-- An integer has too many digits. -/
  | tooLong
  deriving Repr, DecidableEq

/-- The text of the failure. -/
def Unwritable.message : Unwritable → Text
  | tooLong =>
    "Exceeds the limit (".toList ++ Text.ofNat maxDigits ++
      " digits) for integer string conversion; ".toList ++
      "use sys.set_int_max_str_digits() to increase the limit".toList

/-- An integer has no more digits than are written. -/
def Writable (n : Int) : Prop := n.natAbs < tenTo maxDigits

instance : DecidablePred Writable := fun n =>
  inferInstanceAs (Decidable (n.natAbs < tenTo maxDigits))

/-- The decimal text of an integer. -/
def writeInteger (n : Int) : Except Unwritable Text :=
  if Writable n then .ok (Text.ofInt n) else .error .tooLong

end DesignLint.Numeral
