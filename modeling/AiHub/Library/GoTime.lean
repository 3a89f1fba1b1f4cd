import Mathlib.Algebra.Ring.Int.Defs
import Mathlib.Algebra.Ring.Nat

/-!
# Civil time and durations

A moment is its number of seconds since the Unix epoch.  A time zone gives the
offset from UTC in force at each moment; the calendar is the proleptic Gregorian
one.  Durations are 64-bit numbers of nanoseconds and wrap around.
-/

namespace AiHub.Library

/-- The value of a signed 64-bit computation whose exact result is `value`. -/
def int64 (value : Int) : Int := Int.bmod value (2 ^ 64)

/-- The largest signed 64-bit integer. -/
def maxInt64 : Int := 2 ^ 63 - 1

/-- A time zone: the offset, in seconds east of UTC, in force at a moment. -/
structure Zone where
  offset : Int → Int

/-- Coordinated universal time. -/
def Zone.utc : Zone := ⟨fun _ => 0⟩

/-- Year, month (`1` to `12`) and day of the month of a day counted from the
epoch. -/
def civilOfDays (days : Int) : Int × Int × Int :=
  let shifted := days + 719468
  let era := shifted / 146097
  let dayOfEra := shifted % 146097
  let yearOfEra :=
    (dayOfEra - dayOfEra / 1460 + dayOfEra / 36524 - dayOfEra / 146096) / 365
  let dayOfYear := dayOfEra - (365 * yearOfEra + yearOfEra / 4 - yearOfEra / 100)
  let monthIndex := (5 * dayOfYear + 2) / 153
  let day := dayOfYear - (153 * monthIndex + 2) / 5 + 1
  let month := if monthIndex < 10 then monthIndex + 3 else monthIndex - 9
  let year := yearOfEra + era * 400 + (if month ≤ 2 then 1 else 0)
  (year, month, day)

/-- The day, counted from the epoch, of a civil date whose month may lie outside
`1` to `12` and whose day may lie outside its month; both overflow into the next
larger unit. -/
def daysOfCivil (year month day : Int) : Int :=
  let normalYear := year + (month - 1) / 12
  let normalMonth := (month - 1) % 12 + 1
  let shiftedYear := if normalMonth ≤ 2 then normalYear - 1 else normalYear
  let era := shiftedYear / 400
  let yearOfEra := shiftedYear % 400
  let monthIndex := if normalMonth > 2 then normalMonth - 3 else normalMonth + 9
  let dayOfYear := (153 * monthIndex + 2) / 5
  let dayOfEra := yearOfEra * 365 + yearOfEra / 4 - yearOfEra / 100 + dayOfYear
  era * 146097 + dayOfEra - 719468 + (day - 1)

/-- A civil date with a time of the day in seconds. -/
structure CivilTime where
  year : Int
  month : Int
  day : Int
  secondOfDay : Int
  deriving DecidableEq, Repr

namespace Zone

variable (zone : Zone)

/-- The day, counted from the epoch, on which a moment falls in a zone. -/
def localDay (moment : Int) : Int := (moment + zone.offset moment) / 86400

/-- The civil reading of a moment in a zone. -/
def civil (moment : Int) : CivilTime :=
  let (year, month, day) := civilOfDays (zone.localDay moment)
  ⟨year, month, day, (moment + zone.offset moment) % 86400⟩

/-- The moment with a given civil reading.  The offset is looked up twice, since
the first look-up takes local time for a moment; a reading that the zone skips or
repeats is resolved by the second one. -/
def date (civil : CivilTime) : Int :=
  let reading := daysOfCivil civil.year civil.month civil.day * 86400 + civil.secondOfDay
  let guess := zone.offset reading
  if guess = 0 then reading else reading - zone.offset (reading - guess)

/-- Midnight of the day on which a moment falls. -/
def startOfDay (moment : Int) : Int :=
  zone.date { zone.civil moment with secondOfDay := 0 }

/-- The same time of day, a number of years, months and days later. -/
def addDate (moment years months days : Int) : Int :=
  let civil := zone.civil moment
  zone.date
    { civil with
      year := civil.year + years
      month := civil.month + months
      day := civil.day + days }

/-- The day of the week, with Sunday as `0`. -/
def weekday (moment : Int) : Int := (zone.localDay moment + 4) % 7

end Zone

/-- Nanoseconds in a second. -/
def second : Int := 1000000000

/-- Nanoseconds in an hour. -/
def hour : Int := 3600 * second

/-- The moment a duration later, to the second. -/
def addDuration (moment duration : Int) : Int := moment + int64 duration / second

example : Zone.utc.civil 1771718400 = ⟨2026, 2, 22, 0⟩ := by decide
example : Zone.utc.addDate 1769817600 0 1 0 = 1772496000 := by decide

end AiHub.Library
