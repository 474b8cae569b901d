import DesignLint.Text.Basic

/-! # Dates and moments

Days of the proleptic Gregorian calendar, moments of a day with an optional offset from universal
time, and their written forms. -/

namespace DesignLint

/-- A day of the calendar. -/
structure Date where
  /-- The year, from 1 to 9999. -/
  year : Nat
  /-- The month, from 1 to 12. -/
  month : Nat
  /-- The day of the month. -/
  day : Nat
  deriving Repr, DecidableEq

/-- A moment of a day. -/
structure Moment where
  /-- The day. -/
  date : Date
  /-- The hour. -/
  hour : Nat
  /-- The minute. -/
  minute : Nat
  /-- The second. -/
  second : Nat
  /-- The millionths of a second. -/
  micro : Nat
  /-- The minutes that local time is ahead of universal time, if that is known. -/
  offset : Option Int
  deriving Repr, DecidableEq

/-- Which part of a date or a moment is out of range. -/
inductive CalendarFlaw where
  /-- There is no such year. -/
  | year (year : Nat)
  /-- There is no such month. -/
  | month
  /-- The month has no such day. -/
  | day
  /-- There is no such hour. -/
  | hour
  /-- There is no such minute. -/
  | minute
  /-- There is no such second. -/
  | second
  /-- The offset is a day or more, in minutes. -/
  | offset (minutes : Int)
  deriving Repr, DecidableEq

namespace Date

/-- Whether February has 29 days. -/
def isLeap (year : Nat) : Bool := year % 4 == 0 && (year % 100 != 0 || year % 400 == 0)

/-- The number of days of a month. -/
def monthLength (year month : Nat) : Nat :=
  match month with
  | 2 => if isLeap year then 29 else 28
  | 4 | 6 | 9 | 11 => 30
  | _ => 31

/-- The date with given parts. -/
def make (year month day : Nat) : Except CalendarFlaw Date :=
  if year = 0 || 9999 < year then .error (.year year)
  else if month = 0 || 12 < month then .error .month
  else if day = 0 || monthLength year month < day then .error .day
  else .ok ⟨year, month, day⟩

/-- The number of days before a date. -/
def ordinal (d : Date) : Nat :=
  let before := d.year - 1
  let yearStart := before * 365 + before / 4 - before / 100 + before / 400
  let monthStart := (List.range (d.month - 1)).foldl
    (fun days month => days + monthLength d.year (month + 1)) yearStart
  monthStart + (d.day - 1)

/-- A number with leading zeros up to a width. -/
def padded (width n : Nat) : Text :=
  let digits := Text.ofNat n
  List.replicate (width - digits.length) '0' ++ digits

/-- The written form, such as `2024-01-31`. -/
def text (d : Date) : Text :=
  padded 4 d.year ++ '-' :: padded 2 d.month ++ '-' :: padded 2 d.day

end Date

namespace Moment

/-- The moment with given parts. The offset is judged first. -/
def make (year month day hour minute second micro : Nat) (offset : Option Int) :
    Except CalendarFlaw Moment := do
  if let some minutes := offset then
    if 1440 ≤ minutes.natAbs then throw (.offset minutes)
  let date ← Date.make year month day
  if 24 ≤ hour then throw .hour
  if 60 ≤ minute then throw .minute
  if 60 ≤ second then throw .second
  return ⟨date, hour, minute, second, micro, offset⟩

/-- The millionths of a second before a moment, in local time. -/
def localMicros (t : Moment) : Int :=
  (((t.date.ordinal * 24 + t.hour) * 60 + t.minute) * 60 + t.second) * 1000000 + t.micro

/-- Whether two moments are the same. Moments with offsets are compared in universal time; one with
an offset and one without are never the same. -/
def same (s t : Moment) : Bool :=
  match s.offset, t.offset with
  | none, none => s.localMicros == t.localMicros
  | some a, some b => s.localMicros - a * 60000000 == t.localMicros - b * 60000000
  | _, _ => false

/-- An offset as hours and minutes behind a sign. -/
def offsetText (minutes : Int) : Text :=
  (if minutes < 0 then '-' else '+') :: Date.padded 2 (minutes.natAbs / 60) ++
    ':' :: Date.padded 2 (minutes.natAbs % 60)

/-- The written form, such as `2024-01-31 08:15:00+01:00`. -/
def text (t : Moment) : Text :=
  t.date.text ++ ' ' :: Date.padded 2 t.hour ++ ':' :: Date.padded 2 t.minute ++
    ':' :: Date.padded 2 t.second ++
    (if t.micro = 0 then [] else '.' :: Date.padded 6 t.micro) ++
    ((t.offset.map offsetText).getD [])

end Moment

/-- A span of minutes in the notation for spans: whole days, which carry the sign, and seconds. -/
def spanText (minutes : Int) : Text :=
  let seconds := minutes * 60
  let days := seconds.fdiv 86400
  let rest := seconds.fmod 86400
  let parts := (if days = 0 then [] else ["days=".toList ++ Text.ofInt days]) ++
    (if rest = 0 then [] else ["seconds=".toList ++ Text.ofInt rest])
  "datetime.timedelta(".toList ++
    (if parts.isEmpty then ['0'] else Text.joined ", ".toList parts) ++ [')']

/-- The text of a flaw. -/
def CalendarFlaw.message : CalendarFlaw → Text
  | year n => "year ".toList ++ Text.ofNat n ++ " is out of range".toList
  | month => "month must be in 1..12".toList
  | day => "day is out of range for month".toList
  | hour => "hour must be in 0..23".toList
  | minute => "minute must be in 0..59".toList
  | second => "second must be in 0..59".toList
  | offset minutes =>
    "offset must be a timedelta strictly between -timedelta(hours=24) and ".toList ++
      "timedelta(hours=24), not ".toList ++ spanText minutes ++ ['.']

end DesignLint
