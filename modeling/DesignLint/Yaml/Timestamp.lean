import DesignLint.Number.Power
import DesignLint.Value.Calendar

/-! # Written dates and moments

`Timestamp.ofText? s` reads a day or a moment: year, month and day between hyphens, and behind a
`T` or blanks the time between colons, with an optional fraction and an optional offset. -/

namespace DesignLint.Yaml

/-- The time of a moment, as written. -/
structure TimeText where
  /-- The digits of the hour. -/
  hour : Text
  /-- The digits of the minute. -/
  minute : Text
  /-- The digits of the second. -/
  second : Text
  /-- The digits behind the point. -/
  fraction : Text
  /-- The offset in minutes. -/
  offset : Option Int
  deriving Repr, DecidableEq

/-- A day or a moment, as written. -/
structure Timestamp where
  /-- The digits of the year. -/
  year : Text
  /-- The digits of the month. -/
  month : Text
  /-- The digits of the day. -/
  day : Text
  /-- The time, if there is one. -/
  time : Option TimeText
  deriving Repr, DecidableEq

namespace Timestamp

/-- At least `least` and at most `most` digits at the head of a text, as many as there are, and the
text behind them. -/
def digits? (least most : Nat) (s : Text) : Option (Text × Text) :=
  let digits := (s.take most).takeWhile Char.isDigit
  if digits.length < least then none else some (digits, s.drop digits.length)

/-- The text behind a character. -/
def after? (c : Char) : Text → Option Text
  | d :: s => if d = c then some s else none
  | [] => none

/-- A text without the blanks at its head. -/
def dropBlanks (s : Text) : Text := s.dropWhile fun c => c == ' ' || c == '\t'

/-- The number that digits denote. -/
def number (digits : Text) : Nat := digits.foldl (fun n c => n * 10 + (c.toNat - 48)) 0

/-- The offset that a text denotes: none if it is empty, zero for `Z`, hours and minutes behind a
sign otherwise. -/
def offset? : Text → Option (Option Int)
  | [] => some none
  | ['Z'] => some (some 0)
  | sign :: s => do
    guard (sign == '+' || sign == '-')
    let (hours, s) ← digits? 1 2 s
    let minutes ← match s with
      | [] => pure []
      | s => do
        let (minutes, s) ← digits? 2 2 (← after? ':' s)
        guard s.isEmpty
        pure minutes
    let ahead : Int := number hours * 60 + number minutes
    return some (if sign == '-' then -ahead else ahead)

/-- The text behind what separates a day from a time. -/
def afterDay? : Text → Option Text
  | 'T' :: s => some s
  | 't' :: s => some s
  | c :: s => if c == ' ' || c == '\t' then some (dropBlanks s) else none
  | [] => none

/-- The time that a text denotes. -/
def time? (s : Text) : Option TimeText := do
  let (hour, s) ← digits? 1 2 s
  let (minute, s) ← digits? 2 2 (← after? ':' s)
  let (second, s) ← digits? 2 2 (← after? ':' s)
  let (fraction, s) := match s with
    | '.' :: s => s.span Char.isDigit
    | s => ([], s)
  let offset ← match dropBlanks s with
    | [] => if s.isEmpty then some none else none
    | zone => offset? zone
  return ⟨hour, minute, second, fraction, offset⟩

/-- The day or the moment that a text denotes. -/
def ofText? (s : Text) : Option Timestamp := do
  let (year, s) ← digits? 4 4 s
  let (month, s) ← digits? 1 2 (← after? '-' s)
  let (day, s) ← digits? 1 2 (← after? '-' s)
  match s with
  | [] => return ⟨year, month, day, none⟩
  | s => return ⟨year, month, day, ← time? (← afterDay? s)⟩

/-- Whether a plain scalar written like this is a day or a moment: a day alone takes two digits for
the month and for the day. -/
def isUsual (t : Timestamp) : Bool :=
  t.time.isSome || (t.month.length == 2 && t.day.length == 2)

/-- The number of digits of a fraction that count. -/
def fractionDigits : Nat := 6

/-- The millionths that the digits behind a point denote; later digits are dropped. -/
def micros (fraction : Text) : Nat :=
  let digits := fraction.take fractionDigits
  number digits * tenTo (fractionDigits - digits.length)

/-- A moment, if there is a time. -/
def toMoment (t : Timestamp) (time : TimeText) : Except CalendarFlaw Moment :=
  Moment.make (number t.year) (number t.month) (number t.day) (number time.hour)
    (number time.minute) (number time.second) (micros time.fraction) time.offset

/-- A day, if there is no time. -/
def toDate (t : Timestamp) : Except CalendarFlaw Date :=
  Date.make (number t.year) (number t.month) (number t.day)

end Timestamp

end DesignLint.Yaml
