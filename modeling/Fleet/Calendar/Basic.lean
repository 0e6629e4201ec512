/-!
# The calendar

Days are counted from the first of January 1970. A day has a date: a year, a month and a day of the
month. Years are counted from March, so that the day that some years have more comes last; four
hundred years always have the same number of days.
-/

namespace Fleet.Calendar

/-- A date. -/
structure Date : Type where
  year : Int
  /-- From 1 to 12. -/
  month : Nat
  /-- From 1 on. -/
  day : Nat
  deriving Repr, DecidableEq

/-- A point of time, counted from the start of 1970. -/
structure Instant : Type where
  seconds : Int
  nanoseconds : Nat := 0
  deriving Repr, DecidableEq

/-- How the clocks of a place differ from universal time, and what that is called. -/
structure Zone : Type where
  name : List Char
  /-- How many seconds the clocks are ahead. -/
  offset : Int
  deriving Repr

/-- Universal time. -/
def Zone.universal : Zone :=
  ⟨"UTC".toList, 0⟩

/-- Whether a year has a day more than others. -/
def isLeap (year : Int) : Bool :=
  year % 4 = 0 && (year % 100 ≠ 0 || year % 400 = 0)

/-- How many days a month has. -/
def monthLength (year : Int) (month : Nat) : Nat :=
  if month = 2 then (if isLeap year then 29 else 28)
  else if [4, 6, 9, 11].contains month then 30
  else 31

/-- The day on which a date falls. The month counts as one from 1 to 12, the day may be any. -/
def dayOf (year : Int) (month : Nat) (day : Int) : Int :=
  let year := if month ≤ 2 then year - 1 else year
  let era := year / 400
  let yearOfEra := year % 400
  let place : Int := (153 * ((month + 9) % 12) + 2) / 5
  let dayOfEra := yearOfEra * 365 + yearOfEra / 4 - yearOfEra / 100 + place + day - 1
  era * 146097 + dayOfEra - 719468

/-- The date of a day. -/
def dateOf (day : Int) : Date :=
  let day := day + 719468
  let era := day / 146097
  let dayOfEra := day % 146097
  let yearOfEra := (dayOfEra - dayOfEra / 1460 + dayOfEra / 36524 - dayOfEra / 146096) / 365
  let dayOfYear := dayOfEra - (365 * yearOfEra + yearOfEra / 4 - yearOfEra / 100)
  let place := (5 * dayOfYear + 2) / 153
  let month := if place < 10 then place + 3 else place - 9
  let year := yearOfEra + era * 400
  { year := if month ≤ 2 then year + 1 else year
    month := month.toNat
    day := (dayOfYear - (153 * place + 2) / 5 + 1).toNat }

/-- The day of the week on which a day falls: 0 is Sunday. -/
def weekdayOf (day : Int) : Nat :=
  ((day + 4) % 7).toNat

/-- The day on which a month starts, given how many months it is after another one. -/
def monthStart (year : Int) (month : Int) : Int :=
  let months := year * 12 + (month - 1)
  dayOf (months / 12) ((months % 12).toNat + 1) 1

/-- What the clocks and calendars of a place show. -/
structure Reading : Type where
  date : Date
  hour : Nat
  minute : Nat
  second : Nat
  nanosecond : Nat
  weekday : Nat
  /-- How many days of the year have passed. -/
  yearDay : Nat
  zone : Zone
  instant : Instant
  deriving Repr

/-- What the clocks and calendars of a place show at a point of time. -/
def Instant.reading (t : Instant) (zone : Zone) : Reading :=
  let here := t.seconds + zone.offset
  let day := here / 86400
  let second := (here % 86400).toNat
  let date := dateOf day
  { date
    hour := second / 3600
    minute := second / 60 % 60
    second := second % 60
    nanosecond := t.nanoseconds
    weekday := weekdayOf day
    yearDay := (day - dayOf date.year 1 1).toNat
    zone
    instant := t }

/-- The number of a week of the year, if weeks start on a day of the week. -/
def Reading.week (r : Reading) (start : Nat) : Nat :=
  (r.yearDay + 7 - (r.weekday + 7 - start) % 7) / 7

/-- The year and the number of the week, if weeks belong to the year that has most of their days. -/
def Reading.isoWeek (r : Reading) : Int × Nat :=
  let day : Int := r.yearDay
  -- The Thursday of the week decides.
  let thursday := day - ((r.weekday + 6) % 7 : Nat) + 3
  let length (year : Int) : Int := if isLeap year then 366 else 365
  if thursday < 0 then
    (r.date.year - 1, ((thursday + length (r.date.year - 1)) / 7 + 1).toNat)
  else if length r.date.year ≤ thursday then (r.date.year + 1, 1)
  else (r.date.year, (thursday / 7 + 1).toNat)

/-- The names of the days of the week. -/
def weekdayNames : List String :=
  ["Sunday", "Monday", "Tuesday", "Wednesday", "Thursday", "Friday", "Saturday"]

/-- The names of the months. -/
def monthNames : List String :=
  ["January", "February", "March", "April", "May", "June", "July", "August", "September",
    "October", "November", "December"]

end Fleet.Calendar
