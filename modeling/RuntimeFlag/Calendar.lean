import RuntimeFlag.Text.Blank
/-!
# Calendar

Seconds since the start of 1970 as dates of the Gregorian calendar, which is extended to all years.
-/
namespace RuntimeFlag.Calendar

structure Date where
  year : Int
  month : Nat
  day : Nat
  deriving DecidableEq, Repr

private def secondsPerDay : Int := 86400

/-- The date of a day, counted from the first of January 1970. A year is taken to start in March,
so that the leap day is its last, and 400 years are a cycle. -/
def dateOfDay (day : Int) : Date :=
  let shifted := day + 719468
  let cycle := shifted.fdiv 146097
  let dayOfCycle := (shifted.fmod 146097).toNat
  let yearOfCycle :=
    (dayOfCycle - dayOfCycle / 1460 + dayOfCycle / 36524 - dayOfCycle / 146096) / 365
  let dayOfYear := dayOfCycle - (365 * yearOfCycle + yearOfCycle / 4 - yearOfCycle / 100)
  let month := (5 * dayOfYear + 2) / 153
  let year : Int := cycle * 400 + yearOfCycle
  { year := if month < 10 then year else year + 1
    month := if month < 10 then month + 3 else month - 9
    day := dayOfYear - (153 * month + 2) / 5 + 1 }

/-- The first second that has a date: the start of the year -262143. -/
def firstSecond : Int := -8334601228800

/-- The last second that has a date: the end of the year 262142. -/
def lastSecond : Int := 8210266876799

def isRepresentable (second : Int) : Bool := firstSecond ≤ second && second ≤ lastSecond

private def twoDigits (n : Nat) : String :=
  String.ofList (Nat.toDigits 10 (n / 10 % 10) ++ Nat.toDigits 10 (n % 10))

private def digits (width n : Nat) : String :=
  let digits := Nat.toDigits 10 n
  String.ofList (List.replicate (width - digits.length) '0' ++ digits)

/-- A year in four digits; one outside of 0 to 9999 has a sign. -/
private def yearText (year : Int) : String :=
  (if year < 0 then "-" else if 9999 < year then "+" else "") ++ digits 4 year.natAbs

private def dateText (date : Date) : String :=
  yearText date.year ++ "-" ++ twoDigits date.month ++ "-" ++ twoDigits date.day

private def timeText (second : Nat) : String :=
  twoDigits (second / 3600) ++ ":" ++ twoDigits (second / 60 % 60) ++ ":" ++ twoDigits (second % 60)

private def dateAndTime (separator : String) (second : Int) : String :=
  dateText (dateOfDay (second.fdiv secondsPerDay)) ++ separator ++
    timeText (second.fmod secondsPerDay).toNat

/-- A second as messages show it. -/
def text (second : Int) : String := dateAndTime " " second ++ " UTC"

/-- A point in time, in nanoseconds since the start of 1970. -/
structure Instant where
  nanoseconds : Int
  deriving DecidableEq, Repr

namespace Instant

private def nanosecondsPerSecond : Int := 1000000000

def second (time : Instant) : Int := time.nanoseconds.fdiv nanosecondsPerSecond

def nanosecond (time : Instant) : Nat := (time.nanoseconds.fmod nanosecondsPerSecond).toNat

/-- The time in seconds, rounded up, so that comparing seconds with it loses nothing. -/
def ceiling (time : Instant) : Int := -(-time.nanoseconds).fdiv nanosecondsPerSecond

theorem lt_ceiling_iff {time : Instant} {second : Int} :
    second < time.ceiling ↔ second * 1000000000 < time.nanoseconds := by
  rw [ceiling, nanosecondsPerSecond, Int.fdiv_eq_ediv_of_nonneg _ (by decide)]
  omega

end Instant

/-- The part of a second, in as many groups of three digits as it takes. -/
private def fractionText (nanosecond : Nat) : String :=
  if nanosecond = 0 then ""
  else if nanosecond % 1000000 = 0 then "." ++ digits 3 (nanosecond / 1000000)
  else if nanosecond % 1000 = 0 then "." ++ digits 6 (nanosecond / 1000)
  else "." ++ digits 9 nanosecond

/-- The form in which programs exchange a point in time. -/
def exchangeText (time : Instant) : String :=
  dateAndTime "T" time.second ++ fractionText time.nanosecond ++ "+00:00"

end RuntimeFlag.Calendar
