import DesignLint.Number.Numeral
import DesignLint.Text.Quoted
import DesignLint.Text.Utf8
import DesignLint.Value.Calendar

/-! # Faults of YAML documents

Why bytes give no configuration values. Whatever breaks the rules of the language is one fault, with
whatever words a reader has for it; the others tell what is wrong with bytes, with a character that
is written as a number, or with the text of a typed scalar. -/

namespace DesignLint.Yaml

/-- Why a document cannot be read. -/
inductive Fault where
  /-- The document breaks a rule of the language, and the words say which and where. -/
  | malformed (explanation : Text := [])
  /-- Bytes that are no UTF-8: the flaw, the first byte of it, and the offsets of its first byte and
  of the byte behind it, counted from the start of the block that holds it. -/
  | undecodable (flaw : Utf8.Flaw) (byte : UInt8) (start stop : Nat)
  /-- An escape for a number beyond the last character. -/
  | noCharacter
  /-- An escape for a number beyond the signed words of 32 bits. -/
  | beyondWord
  /-- A scalar that should be a truth value and is none. -/
  | notBoolean (text : Text)
  /-- A scalar that should be a number and is none. -/
  | notNumber (flaw : Numeral.Flaw)
  /-- A scalar that should be a number and is empty. -/
  | emptyNumber
  /-- An integer that no floating-point number is near to. -/
  | tooLarge
  /-- A scalar that should be a date and is none. -/
  | notTimestamp
  /-- A mapping that should be a date. -/
  | timestampMapping
  /-- A date or a moment that does not exist. -/
  | noSuchTime (flaw : CalendarFlaw)
  deriving Repr, DecidableEq

/-- What is wrong with bytes, in words. -/
def flawWords : Utf8.Flaw → Text
  | .badStart => "invalid start byte".toList
  | .badContinuation => "invalid continuation byte".toList
  | .truncated => "unexpected end of data".toList

/-- The place of bytes that are no UTF-8. -/
def bytesPlace (byte : UInt8) (start stop : Nat) : Text :=
  if stop = start + 1 then
    "byte 0x".toList ++ Text.hexPadded 2 byte.toNat ++ " in position ".toList ++ Text.ofNat start
  else
    "bytes in position ".toList ++ Text.ofNat start ++ '-' :: Text.ofNat (stop - 1)

/-- The text of a fault. -/
def Fault.message : Fault → Text
  | malformed explanation => explanation
  | undecodable flaw byte start stop =>
    "'utf-8' codec can't decode ".toList ++ bytesPlace byte start stop ++ ": ".toList ++
      flawWords flaw
  | noCharacter => "chr() arg not in range(0x110000)".toList
  | beyondWord => "Python int too large to convert to C int".toList
  | notBoolean s => Text.quoted s
  | notNumber flaw => flaw.message
  | emptyNumber => "string index out of range".toList
  | tooLarge => "int too large to convert to float".toList
  | notTimestamp => "'NoneType' object has no attribute 'groupdict'".toList
  | timestampMapping => "expected string or bytes-like object, got 'list'".toList
  | noSuchTime flaw => flaw.message

/-- A fault with the words for a rule that is broken. -/
def Fault.explained (explanation : Text) : Fault → Fault
  | malformed _ => malformed explanation
  | fault => fault

end DesignLint.Yaml
