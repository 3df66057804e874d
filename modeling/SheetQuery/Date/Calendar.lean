/-!
# The calendar

The proleptic Gregorian calendar of the years 1 to 9999, counted in days from 1970-01-01, and points
in time with microseconds and an optional offset from UTC.
-/

namespace SheetQuery

/-- A calendar date and time of day, with the offset from UTC in microseconds if it has one. -/
structure Timestamp where
  year : Nat
  month : Nat
  day : Nat
  hour : Nat
  minute : Nat
  second : Nat
  micro : Nat
  offset : Option Int
deriving DecidableEq, Repr

namespace Calendar

def isLeapYear (year : Nat) : Bool :=
  year % 4 == 0 && (year % 100 != 0 || year % 400 == 0)

/-- The number of days of a month; none for a number that is no month. -/
def daysInMonth (year month : Nat) : Nat :=
  if month == 2 then if isLeapYear year then 29 else 28
  else if month == 4 || month == 6 || month == 9 || month == 11 then 30
  else if 1 ≤ month && month ≤ 12 then 31
  else 0

/-- Is there such a day? -/
def isDate (year month day : Nat) : Bool :=
  1 ≤ year && year ≤ 9999 && 1 ≤ day && day ≤ daysInMonth year month

/-- The days from 0000-03-01 to a date: years are counted from March, so that the leap day is the
last of its year. -/
def daysFromMarch (year month day : Nat) : Int :=
  let y : Int := if month ≤ 2 then (year : Int) - 1 else year
  let m : Int := if month ≤ 2 then (month : Int) + 9 else (month : Int) - 3
  365 * y + y / 4 - y / 100 + y / 400 + (153 * m + 2) / 5 + day - 1

/-- The days from 1970-01-01 to a date. -/
def dayNumber (year month day : Nat) : Int := daysFromMarch year month day - 719468

/-- The date, as year, month and day, a number of days after 1970-01-01. -/
def ofDayNumber (days : Int) : Int × Nat × Nat :=
  let z := days + 719468
  let era := z / 146097
  let dayOfEra := (z % 146097).toNat
  let yearOfEra := (dayOfEra - dayOfEra / 1460 + dayOfEra / 36524 - dayOfEra / 146096) / 365
  let dayOfYear := dayOfEra - (365 * yearOfEra + yearOfEra / 4 - yearOfEra / 100)
  let m := (5 * dayOfYear + 2) / 153
  let day := dayOfYear - (153 * m + 2) / 5 + 1
  let month := if m < 10 then m + 3 else m - 9
  (era * 400 + yearOfEra + (if month ≤ 2 then 1 else 0), month, day)

/-- The day of the week, counted from Monday as 0. -/
def weekday (year month day : Nat) : Nat := ((dayNumber year month day + 3) % 7).toNat

/-- The number of ISO weeks of a year: 53 if it begins on a Thursday, or on a Wednesday in a leap
year. -/
def weeksInYear (year : Nat) : Nat :=
  let first := weekday year 1 1
  if first == 3 || (first == 2 && isLeapYear year) then 53 else 52

/-- The date of a day of an ISO week. -/
def ofWeek? (year week day : Nat) : Option (Int × Nat × Nat) :=
  if 1 ≤ week && week ≤ weeksInYear year && 1 ≤ day && day ≤ 7 then
    let january4 := dayNumber year 1 4
    let firstMonday := january4 - weekday year 1 4
    some (ofDayNumber (firstMonday + 7 * (week - 1 : Nat) + (day - 1 : Nat)))
  else none

end Calendar

namespace Timestamp

/-- Midnight at the start of a date, if there is such a date. -/
def ofDate? (year month day : Nat) : Option Timestamp :=
  if Calendar.isDate year month day then some ⟨year, month, day, 0, 0, 0, 0, none⟩ else none

/-- The UTC date and time a number of seconds after 1970-01-01. -/
def ofUnixSeconds (seconds : Nat) : Timestamp :=
  let (year, month, day) := Calendar.ofDayNumber (seconds / 86400)
  let rest := seconds % 86400
  ⟨year.toNat, month, day, rest / 3600, rest / 60 % 60, rest % 60, 0, none⟩

/-- Midnight, without an offset from UTC? -/
def isPlainDate (t : Timestamp) : Bool :=
  t.offset.isNone && t.hour == 0 && t.minute == 0 && t.second == 0 && t.micro == 0

end Timestamp

end SheetQuery
