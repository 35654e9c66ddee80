namespace Mockup

/-!
# The calendar

Days of the proleptic Gregorian calendar, and the moment that a count of
milliseconds since the start of 1970 stands for.
-/

/-- A day of the calendar. -/
structure Date where
  year : Int
  month : Nat
  day : Nat
  deriving Repr, DecidableEq

/-- A day and a time of that day, to the second. -/
structure DateTime where
  date : Date
  hour : Nat
  minute : Nat
  second : Nat
  deriving Repr, DecidableEq

namespace Date

/-- The first and the last year that dates have. -/
def years : Int × Int :=
  (-262143, 262142)

/-- Whether a year has a 29 February. -/
def isLeapYear
    (year : Int) :
    Bool :=
  year % 4 = 0 && (year % 100 ≠ 0 || year % 400 = 0)

/-- How many days a month has, none for a number that names no month. -/
def daysInMonth
    (year : Int)
    (month : Nat) :
    Nat :=
  if month = 2 then
    if isLeapYear year then 29 else 28
  else if month = 4 || month = 6 || month = 9 || month = 11 then
    30
  else if 1 ≤ month && month ≤ 12 then
    31
  else
    0

/-- Whether a date names a day. -/
def isValid
    (date : Date) :
    Bool :=
  years.1 ≤ date.year && date.year ≤ years.2 &&
    1 ≤ date.day && date.day ≤ daysInMonth date.year date.month

/-- How many days an era of four hundred years has. -/
def daysPerEra : Int :=
  146097

/-- How many days lie between 1 March of the year 0 and 1 January 1970. -/
def daysToEpoch : Int :=
  719468

/--
The date a number of days after 1 January 1970.  Years are counted from March
on, so that a leap day is the last day of its year.
-/
def ofDays
    (days : Int) :
    Date :=
  let shifted := days + daysToEpoch
  let era := shifted / daysPerEra
  let dayOfEra := shifted % daysPerEra
  let yearOfEra :=
    (dayOfEra - dayOfEra / 1460 + dayOfEra / 36524 -
      dayOfEra / 146096) / 365
  let dayOfYear :=
    dayOfEra - (365 * yearOfEra + yearOfEra / 4 - yearOfEra / 100)
  let fromMarch := (5 * dayOfYear + 2) / 153
  let day := dayOfYear - (153 * fromMarch + 2) / 5 + 1
  let month := if fromMarch < 10 then fromMarch + 3 else fromMarch - 9
  let year := yearOfEra + era * 400 + (if month ≤ 2 then 1 else 0)
  ⟨year, month.toNat, day.toNat⟩

end Date

namespace DateTime

/-- How many seconds a day has. -/
def secondsPerDay : Int :=
  86400

/-- The start of a day. -/
def ofDate
    (date : Date) :
    DateTime :=
  ⟨date, 0, 0, 0⟩

/-- The moment some milliseconds after the start of 1970, if it has a date. -/
def ofMilliseconds?
    (milliseconds : Int) :
    Option DateTime :=
  let seconds := milliseconds / 1000
  let date := Date.ofDays (seconds / secondsPerDay)
  let second := (seconds % secondsPerDay).toNat
  if Date.years.1 ≤ date.year && date.year ≤ Date.years.2 then
    some ⟨date, second / 3600, second / 60 % 60, second % 60⟩
  else
    none

/-- A moment from its parts; a leap second counts as the one before it. -/
def ofParts?
    (date : Date)
    (hour minute second : Nat) :
    Option DateTime :=
  if date.isValid && hour < 24 && minute < 60 && second ≤ 60 then
    some ⟨date, hour, minute, min second 59⟩
  else
    none

end DateTime

end Mockup
