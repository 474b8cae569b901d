import DesignLint.Number.Binary64
import DesignLint.Value.Calendar

/-! # Configuration values

The values that a configuration may hold, whatever the file format. A value that contains itself
is cut where it would repeat: the place is held by `Value.again` with the shape of what repeats
there. -/

namespace DesignLint

/-- The shapes of values with members. -/
inductive Shape where
  /-- A list. -/
  | list
  /-- A key with a value. -/
  | pair
  /-- A mapping. -/
  | mapping
  deriving Repr, DecidableEq

/-- A configuration value. -/
inductive Value where
  /-- The value without content. -/
  | null
  /-- A truth value. -/
  | bool (b : Bool)
  /-- An integer. -/
  | int (n : Int)
  /-- A binary floating-point number. -/
  | float (x : Binary64)
  /-- A text. -/
  | text (s : Text)
  /-- Bytes. -/
  | bytes (content : List UInt8)
  /-- A day. -/
  | date (d : Date)
  /-- A moment. -/
  | moment (t : Moment)
  /-- Values in order. -/
  | list (items : List Value)
  /-- A key with a value, as a member of an ordered list of such pairs. -/
  | pair (key value : Value)
  /-- Keys with values, in the order of their first arrival. -/
  | mapping (entries : List (Value × Value))
  /-- Distinct values, in the order in which their reader gives them. -/
  | set (members : List Value)
  /-- The place of an enclosing value inside itself. -/
  | again (shape : Shape)
  deriving Repr

namespace Value

/-- The word for the type of a value. -/
def typeName : Value → Text
  | null => "NoneType".toList
  | bool _ => "bool".toList
  | int _ => "int".toList
  | float _ => "float".toList
  | text _ => "str".toList
  | bytes _ => "bytes".toList
  | date _ => "date".toList
  | moment _ => "datetime".toList
  | list _ => "list".toList
  | pair .. => "tuple".toList
  | mapping _ => "dict".toList
  | set _ => "set".toList
  | again .list => "list".toList
  | again .pair => "tuple".toList
  | again .mapping => "dict".toList

/-- A number as a quotient, for comparison. -/
inductive Magnitude where
  /-- `num / den`. -/
  | ratio (num : Int) (den : Nat)
  /-- An infinity. -/
  | infinite (negative : Bool)
  deriving Repr, DecidableEq

/-- Compares two magnitudes. -/
def Magnitude.compare : Magnitude → Magnitude → Ordering
  | ratio m p, ratio n q => Ord.compare (m * q) (n * p)
  | infinite a, infinite b => if a = b then .eq else if a then .lt else .gt
  | infinite a, ratio .. => if a then .lt else .gt
  | ratio .., infinite b => if b then .gt else .lt

/-- The magnitude of a truth value, an integer or a floating-point number. -/
def magnitude? : Value → Option Magnitude
  | bool b => some (.ratio (if b then 1 else 0) 1)
  | int n => some (.ratio n 1)
  | float (.infinity negative) => some (.infinite negative)
  | float (.finite negative mantissa exponent) =>
    some (.ratio (Binary64.signed negative mantissa * twoTo exponent.toNat)
      (twoTo (-exponent).toNat))
  | _ => none

/-- Whether two values are one key of a mapping. Numbers are compared by magnitude, so truth values
are the keys 0 and 1; what is no number is no key but itself. -/
def sameKey : Value → Value → Bool
  | null, null => true
  | text s, text t => s == t
  | bytes a, bytes b => a == b
  | date a, date b => a == b
  | moment a, moment b => a.same b
  | a, b =>
    match a.magnitude?, b.magnitude? with
    | some m, some n => m.compare n == .eq
    | _, _ => false

end Value

end DesignLint
