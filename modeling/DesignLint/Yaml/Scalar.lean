import DesignLint.Text.Base64
import DesignLint.Text.Case
import DesignLint.Value.Basic
import DesignLint.Yaml.Fault
import DesignLint.Yaml.Tag
import DesignLint.Yaml.Timestamp

/-! # Values of scalars

The value of a scalar with a tag, from its text:

* `Tag.ofPlain`: the tag that the text of a plain scalar implies;
* `Scalar.bool`, `Scalar.int`, `Scalar.float`, `Scalar.binary`, `Scalar.timestamp`: the values. -/

namespace DesignLint.Yaml

/-- A text without a line feed at its end. -/
def dropFinalLineFeed (s : Text) : Text := if s.getLast? = some '\n' then s.dropLast else s

/-- The tag that the text of a plain scalar implies. A line feed at the end does not matter, except
that a line feed alone is not empty. -/
def Tag.ofPlain (s : Text) : Tag :=
  let form := dropFinalLineFeed s
  if isBoolean form then bool
  else if isFloat form then float
  else if isInteger form then int
  else if form = ['<', '<'] then merge
  else if s.isEmpty || isWord ["~", "null", "Null", "NULL"] form then null
  else if ((Timestamp.ofText? form).map Timestamp.isUsual).getD false then timestamp
  else if form = ['='] then value
  else if form = ['!'] || form = ['&'] || form = ['*'] then other
  else str

namespace Scalar

/-- The words for truth values. -/
def booleans : List (Text × Bool) :=
  [("yes", true), ("no", false), ("true", true), ("false", false), ("on", true), ("off", false)].map
    fun (word, b) => (word.toList, b)

/-- The truth value that a text denotes in any letter case. -/
def bool (s : Text) : Except Fault Bool :=
  match booleans.lookup (Text.lower s) with
  | some b => .ok b
  | none => .error (.notBoolean (Text.lower s))

/-- A text with its sign apart, which must not be empty. -/
def signed (s : Text) : Except Fault (Bool × Text) :=
  match s with
  | [] => .error .emptyNumber
  | s => .ok (Numeral.splitSign s)

/-- A text without the separators of digits. -/
def dropSeparators (s : Text) : Text := s.filter (· != '_')

/-- The integer that a text denotes in a base. -/
def integer (base : Nat) (s : Text) : Except Fault Int :=
  (Numeral.readInteger base s).mapError .notNumber

/-- The integer that digits in base 60 denote, the first one being the most significant. -/
def sexagesimal (digits : List Int) : Int := digits.foldl (fun n digit => n * 60 + digit) 0

/-- The integer that a text without a sign denotes: binary, hexadecimal or octal by its head, or
sexagesimal with colons. -/
def magnitude (s : Text) : Except Fault Int :=
  match s with
  | [] => .error .emptyNumber
  | ['0'] => .ok 0
  | '0' :: 'b' :: digits => integer 2 digits
  | '0' :: 'x' :: digits => integer 16 digits
  | '0' :: _ => integer 8 s
  | _ =>
    if s.contains ':' then (Tag.colonParts s).mapM (integer 10) |>.map sexagesimal
    else integer 10 s

/-- The integer that a text denotes. -/
def int (s : Text) : Except Fault Int := do
  let (negative, body) ← signed (dropSeparators s)
  let n ← magnitude body
  return if negative then -n else n

/-- The number that a text denotes. -/
def decimal (s : Text) : Except Fault Binary64 := (Numeral.readDecimal s).mapError .notNumber

/-- The sum of digits in base 60, the first one being the least significant, with the weight of the
first digit. -/
def weightedSum (sum : Binary64) (weight : Nat) : List Binary64 → Except Fault Binary64
  | [] => .ok sum
  | digit :: rest =>
    match Binary64.ofInt? weight with
    | none => .error .tooLarge
    | some w => weightedSum (sum.add (digit.mul w)) (weight * 60) rest

/-- The number, or the one with the other sign if a minus sign stands in front of it. -/
def withSign (negative : Bool) (x : Binary64) : Binary64 := if negative then x.neg else x

/-- Whether a text without a sign denotes the value that is no number. -/
def isNaN (s : Text) : Bool := s == ".nan".toList

/-- The text of a floating-point number with its sign apart. -/
def floatBody (s : Text) : Except Fault (Bool × Text) := signed (Text.lower (dropSeparators s))

/-- The floating-point number that a text denotes. -/
def float (s : Text) : Except Fault Binary64 := do
  let (negative, body) ← floatBody s
  if body = ".inf".toList then return .infinity negative
  else if isNaN body then return .nan
  else if body.contains ':' then
    let digits ← (Tag.colonParts body).mapM decimal
    return withSign negative (← weightedSum .zero 1 digits.reverse)
  else return withSign negative (← decimal body)

/-- The bytes that a text denotes, which has to be ASCII. -/
def binary (s : Text) : Except Fault (List UInt8) :=
  if s.all fun c => c.toNat < 0x80 then
    match Base64.decode? s with
    | some content => .ok content
    | none => .error .malformed
  else .error .malformed

/-- The day or the moment that a text denotes. -/
def timestamp (s : Text) : Except Fault Value :=
  match Timestamp.ofText? (dropFinalLineFeed s) with
  | none => .error .notTimestamp
  | some t =>
    match t.time with
    | none => (t.toDate.map Value.date).mapError .noSuchTime
    | some time => ((t.toMoment time).map Value.moment).mapError .noSuchTime

end Scalar

end DesignLint.Yaml
