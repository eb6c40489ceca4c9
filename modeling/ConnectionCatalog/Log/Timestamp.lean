import ConnectionCatalog.Log.Fault
import ConnectionCatalog.Number.Number
import ConnectionCatalog.Number.Rounded

/-! # Log.Timestamp — dates and times of day

A time counted in seconds from the start of 1970 is a day and a second of that
day.  The date of a day follows the Gregorian calendar in both directions; it is
found in the cycle of 400 years that starts on the first of March, so that a leap
day comes last.  The time of a record is shown as the local time, which is ahead of
that of the epoch by seconds that depend on the moment.
-/

namespace ConnectionCatalog.Log

def secondsPerDay : Nat := 86400

/-- The days of 400 years. -/
def daysPerCycle : Nat := 146097

/-- The days from the first of March of the year 0 to the start of 1970. -/
def daysBeforeEpoch : Nat := 719468

/-- A date. -/
structure Date where
  year : Int
  month : Nat
  day : Nat
deriving DecidableEq, Repr

/-- The date of a day, counted from the start of 1970. -/
def dateOf (days : Int) : Date :=
  let n := days + daysBeforeEpoch
  let cycle := n / daysPerCycle
  let dayOfCycle := (n % daysPerCycle).toNat
  let yearOfCycle :=
    (dayOfCycle - dayOfCycle / 1460 + dayOfCycle / 36524 - dayOfCycle / 146096) / 365
  let dayOfYear := dayOfCycle - (365 * yearOfCycle + yearOfCycle / 4 - yearOfCycle / 100)
  let monthFromMarch := (5 * dayOfYear + 2) / 153
  let day := dayOfYear - (153 * monthFromMarch + 2) / 5 + 1
  let month := if monthFromMarch < 10 then monthFromMarch + 3 else monthFromMarch - 9
  let year := cycle * 400 + yearOfCycle
  ⟨if month ≤ 2 then year + 1 else year, month, day⟩

/-- The second of the day. -/
def secondOfDay (seconds : Int) : Nat := (seconds % secondsPerDay).toNat

/-- A time as a date and a time of day, with a text between the two. -/
def timestamp (between : String) (seconds : Int) : String :=
  let d := dateOf (seconds / secondsPerDay)
  let s := secondOfDay seconds
  toString d.year ++ "-" ++ padded 2 d.month ++ "-" ++ padded 2 d.day ++ between ++
    padded 2 (s / 3600) ++ ":" ++ padded 2 (s / 60 % 60) ++ ":" ++ padded 2 (s % 60)

/-! ## Times of records -/

/-- The years that the calendar counts. -/
def firstYear : Int := -2147481748

def lastYear : Int := 2147485547

/-- A year that is later is not written. -/
def lastWrittenYear : Int := 2147483647

/-- The whole seconds of a time, the fraction cut off downwards, as the local time, if the
time has a local date that can be written. -/
def secondsOf (ahead : Int → Int) (time : Number) : Except TimeFault Int :=
  let inRange := fun n : Int =>
    if !Number.fitsWord n then .error .outOfRange
    else
      let shown := n + ahead n
      let year := (dateOf (shown / secondsPerDay)).year
      if year < firstYear ∨ lastYear < year then .error .outsideCalendar
      else if lastWrittenYear < year then .error .lateYear
      else .ok shown
  match time with
  | .whole n => inRange n
  | .real (.finite s n) => inRange (Double.signed s n / Double.unitsPerOne)
  | .real (.infinite _) => .error .outOfRange
  | .real .nan => .error .notANumber

example : dateOf 0 = ⟨1970, 1, 1⟩ := by decide
example : dateOf 19782 = ⟨2024, 2, 29⟩ := by decide
example : dateOf (-1) = ⟨1969, 12, 31⟩ := by decide

end ConnectionCatalog.Log
