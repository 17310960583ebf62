import Mathlib.Tactic.Common

/-!
# The UTC calendar of a `Date`

A `Date` is a number of milliseconds since the epoch.  Its calendar fields are those of the
proleptic Gregorian calendar; setting one that is out of range carries over into the next.
-/

namespace AjoCloud.Lib.Calendar

/-- Milliseconds in a day. -/
def msPerDay : Int := 86400000

/-- The number of the day, counted from the epoch. -/
def day (t : Int) : Int := t / msPerDay

/-- The time since midnight. -/
def timeWithinDay (t : Int) : Int := t % msPerDay

/-- The number of the day `date` of the month `month + 1`.  Years are counted from March, in eras of
400 of them, so that the leap day is the last one. -/
def dayOfCivil (year month date : Int) : Int :=
  let y := if month ≤ 1 then year - 1 else year
  let yearOfEra := y % 400
  let monthFromMarch := if month ≤ 1 then month + 10 else month - 2
  let dayOfYear := (153 * monthFromMarch + 2) / 5 + date - 1
  y / 400 * 146097 + (yearOfEra * 365 + yearOfEra / 4 - yearOfEra / 100 + dayOfYear) - 719468

/-- Year, month (from zero) and date of a day. -/
def civilOfDay (d : Int) : Int × Int × Int :=
  let shifted := d + 719468
  let dayOfEra := shifted % 146097
  let yearOfEra := (dayOfEra - dayOfEra / 1460 + dayOfEra / 36524 - dayOfEra / 146096) / 365
  let dayOfYear := dayOfEra - (365 * yearOfEra + yearOfEra / 4 - yearOfEra / 100)
  let monthFromMarch := (5 * dayOfYear + 2) / 153
  let month := if monthFromMarch < 10 then monthFromMarch + 2 else monthFromMarch - 10
  let year := yearOfEra + shifted / 146097 * 400
  (if month ≤ 1 then year + 1 else year, month, dayOfYear - (153 * monthFromMarch + 2) / 5 + 1)

/-- `getUTCFullYear`. -/
def utcFullYear (t : Int) : Int := (civilOfDay (day t)).1

/-- `getUTCMonth`. -/
def utcMonth (t : Int) : Int := (civilOfDay (day t)).2.1

/-- `getUTCDate`. -/
def utcDate (t : Int) : Int := (civilOfDay (day t)).2.2

/-- The number of a day whose month and date may be out of range. -/
def makeDay (year month date : Int) : Int := dayOfCivil (year + month / 12) (month % 12) 1 + date - 1

/-- A day and a time of it. -/
def makeDate (d time : Int) : Int := d * msPerDay + time

/-- `setUTCFullYear`. -/
def setUtcFullYear (t year : Int) : Int :=
  makeDate (makeDay year (utcMonth t) (utcDate t)) (timeWithinDay t)

/-- `setUTCMonth`. -/
def setUtcMonth (t month : Int) : Int :=
  makeDate (makeDay (utcFullYear t) month (utcDate t)) (timeWithinDay t)

/-- `setUTCDate`. -/
def setUtcDate (t date : Int) : Int :=
  makeDate (makeDay (utcFullYear t) (utcMonth t) date) (timeWithinDay t)

/-- `Date.UTC`, of a day. -/
def utc (year month date : Int) : Int := makeDate (makeDay year month date) 0

/-- A `DATE` column keeps the day and drops the time. -/
def toDate (t : Int) : Int := makeDate (day t) 0

-- The 29th of February 2024, a year later.
example : setUtcFullYear (utc 2024 1 29) 2025 = utc 2025 2 1 := by decide +kernel

end AjoCloud.Lib.Calendar
