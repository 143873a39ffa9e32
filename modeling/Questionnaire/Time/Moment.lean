/-
Points in time.

A moment is a number of microseconds since the beginning of 1970, without leap seconds.
It is written as a date and a time of day in universal time; the fraction of a second
is left out where it is zero.  The date follows from counting days in eras of 400
years that begin on the first of March, so that a leap day is the last of its year.
-/
import Questionnaire.Decimal.Layout
import Questionnaire.Misfit

namespace Questionnaire

/-- A point in time, in microseconds since the beginning of 1970. -/
structure Moment where
  micros : Int
  deriving DecidableEq, Repr, Inhabited

namespace Moment

/-- A calendar date. -/
structure Date where
  year : Int
  month : Nat
  day : Nat
  deriving DecidableEq, Repr

/-- The microseconds of a day. -/
def perDay : Int := 86400000000

/-- The date of a day, counted from the first of January 1970. -/
def dateOfDay (day : Int) : Date :=
  let shifted := day + 719468
  let era := shifted.fdiv 146097
  let dayOfEra := (shifted - era * 146097).toNat
  let yearOfEra := (dayOfEra - dayOfEra / 1460 + dayOfEra / 36524 - dayOfEra / 146096) / 365
  let dayOfYear := dayOfEra - (365 * yearOfEra + yearOfEra / 4 - yearOfEra / 100)
  let fromMarch := (5 * dayOfYear + 2) / 153
  let month := if fromMarch < 10 then fromMarch + 3 else fromMarch - 9
  { year := yearOfEra + era * 400 + (if month ≤ 2 then 1 else 0)
    month
    day := dayOfYear - (153 * fromMarch + 2) / 5 + 1 }

def date (m : Moment) : Date := dateOfDay (m.micros.fdiv perDay)

/-- The microseconds since midnight. -/
def ofDay (m : Moment) : Nat := (m.micros.fmod perDay).toNat

/-- The seconds in which the years 1 to 9999 begin and end. -/
def firstSecond : Int := -62135596800

@[inherit_doc firstSecond]
def lastSecond : Int := 253402300799

/-- The seconds in which the years begin and end that the system can number: those whose
distance from the year 1900 fits 32 bits. -/
def firstDated : Int := -67768040609740800

@[inherit_doc firstDated]
def lastDated : Int := 67768036191676799

/-- The moment with a count of microseconds, if it lies in a year with at most four digits.
A count of seconds beyond 64 bits is out of range altogether, and for one with a year
beyond 32 bits the system has no date. -/
def ofMicros (micros : Int) : Except Misfit Moment :=
  let seconds := micros.fdiv 1000000
  if seconds < -(2 ^ 63) || 2 ^ 63 ≤ seconds then .error .range
  else if seconds < firstDated || lastDated < seconds then .error .calendar
  else if seconds < firstSecond || lastSecond < seconds then .error .content
  else .ok ⟨micros⟩

/-- The moment that many seconds after the beginning of 1970. -/
def ofSeconds (seconds : Int) : Except Misfit Moment := ofMicros (seconds * 1000000)

/-- The moment that many seconds after the beginning of 1970.  The fraction is taken to
microseconds in double precision first and then to the nearest whole one. -/
def ofDouble : Decimal.Double → Except Misfit Moment
  | .finite x =>
    let whole := Decimal.Double.truncate x
    let (num, den) := Decimal.Double.ratio x
    let micros : Int :=
      match Decimal.Double.ofSigned x.negative ((num - whole * den) * 1000000) den with
      | .finite y => Decimal.Double.nearest y
      | _ => 0
    ofMicros (whole * 1000000 + micros)
  | .infinite _ => .error .range
  | .nan => .error .content

/-- A number in decimal with zeros in front. -/
def fixed (width n : Nat) : String := String.ofList (Decimal.padded width n)

/-- The time of day to the second. -/
def clock (m : Moment) : String :=
  let seconds := m.ofDay / 1000000
  fixed 2 (seconds / 3600) ++ ":" ++ fixed 2 (seconds / 60 % 60) ++ ":" ++ fixed 2 (seconds % 60)

/-- The time of day as a local clock shows it.  Whether the hour is one that comes twice is told
from the same time on the day before, so that day has to be in the calendar too. -/
def localClock (m : Moment) : Except Misfit String :=
  if m.micros.fdiv 1000000 - 86400 < firstSecond then .error .content else .ok m.clock

/-- Date, time and zone. -/
def iso (m : Moment) : String :=
  let d := m.date
  let fraction := m.ofDay % 1000000
  fixed 4 d.year.toNat ++ "-" ++ fixed 2 d.month ++ "-" ++ fixed 2 d.day ++ "T" ++ m.clock ++
    (if fraction = 0 then "" else "." ++ fixed 6 fraction) ++ "+00:00"

example : iso ⟨0⟩ = "1970-01-01T00:00:00+00:00" := by decide +kernel
example : iso ⟨1709251199000001⟩ = "2024-02-29T23:59:59.000001+00:00" := by decide +kernel
example : (ofSeconds 86400).toOption = some ⟨86400000000⟩ := by decide +kernel
example : (ofSeconds 253402300800).toOption = none := by decide +kernel
example : (localClock ⟨(firstSecond + 86399) * 1000000⟩).toOption = none := by decide +kernel
example : iso ⟨-1⟩ = "1969-12-31T23:59:59.999999+00:00" := by decide +kernel

end Moment

end Questionnaire
