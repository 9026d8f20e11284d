/-!
The clock that stamps writes.

* `Clock`: the next reading and the step between readings, in microseconds.
* `Clock.read`: one reading; the clock moves on by its step.
* `dateOfDay`: the date in the Gregorian calendar of a day counted from 0001-01-01.
* `timestamp`: date, time and offset; the fraction of a second is written only when there is one.
* `plainTime`: date and time to the second, with a blank between them.
-/

namespace EntityGraph

/-- A date of the Gregorian calendar. -/
structure Date where
  year : Nat
  month : Nat
  day : Nat
  deriving DecidableEq, Repr

/-- The days before a month in a year that starts in March: months there have 31, 30, 31, 30, 31
days over and over. -/
def daysBeforeMonth (monthFromMarch : Nat) : Nat := (153 * monthFromMarch + 2) / 5

/-- Days from 0000-03-01 to 0001-01-01. -/
def daysToYearOne : Nat := 306

/-- The date of a day, counted from 0001-01-01. Leap days come last in a year that starts in March,
and 400 such years have 146097 days. -/
def dateOfDay (day : Nat) : Date :=
  let shifted := day + daysToYearOne
  let era := shifted / 146097
  let dayOfEra := shifted % 146097
  let yearOfEra :=
    (dayOfEra - dayOfEra / 1460 + dayOfEra / 36524 - dayOfEra / 146096) / 365
  let dayOfYear := dayOfEra - (365 * yearOfEra + yearOfEra / 4 - yearOfEra / 100)
  let monthFromMarch := (5 * dayOfYear + 2) / 153
  let month := if monthFromMarch < 10 then monthFromMarch + 3 else monthFromMarch - 9
  let year := yearOfEra + era * 400 + (if month ≤ 2 then 1 else 0)
  ⟨year, month, dayOfYear - daysBeforeMonth monthFromMarch + 1⟩

/-- The day of a date, counted from 0001-01-01. -/
def dayOfDate (d : Date) : Nat :=
  let year := if d.month ≤ 2 then d.year - 1 else d.year
  let monthFromMarch := if d.month ≤ 2 then d.month + 9 else d.month - 3
  let yearOfEra := year % 400
  let dayOfYear := daysBeforeMonth monthFromMarch + d.day - 1
  year / 400 * 146097 + (yearOfEra * 365 + yearOfEra / 4 - yearOfEra / 100 + dayOfYear)
    - daysToYearOne

/-- A number with zeros in front up to a width. -/
def padded (width n : Nat) : String :=
  let digits := Nat.toDigits 10 n
  String.ofList (List.replicate (width - digits.length) '0' ++ digits)

/-- Microseconds in a second. -/
def secondMicros : Nat := 1000000

/-- Microseconds in a day. -/
def dayMicros : Nat := 86400 * secondMicros

/-- The date of a moment, which is given in microseconds from the start of 0001-01-01. -/
def dateText (micros : Nat) : String :=
  let d := dateOfDay (micros / dayMicros)
  padded 4 d.year ++ "-" ++ padded 2 d.month ++ "-" ++ padded 2 d.day

/-- The time of day of a moment, to the second. -/
def timeText (micros : Nat) : String :=
  let seconds := micros % dayMicros / secondMicros
  padded 2 (seconds / 3600) ++ ":" ++ padded 2 (seconds / 60 % 60) ++ ":"
    ++ padded 2 (seconds % 60)

/-- A moment as date, time and offset. -/
def timestamp (micros : Nat) : String :=
  let fraction := micros % secondMicros
  dateText micros ++ "T" ++ timeText micros
    ++ (if fraction = 0 then "" else "." ++ padded 6 fraction) ++ "+00:00"

/-- A moment as date and time. -/
def plainTime (micros : Nat) : String := dateText micros ++ " " ++ timeText micros

/-- A clock that moves on by a fixed step with every reading. -/
structure Clock where
  now : Int
  step : Int
  deriving DecidableEq, Repr, Inhabited

namespace Clock

/-- A clock that starts at a date and a time of day. -/
def startingAt (date : Date) (micros : Nat) (step : Int) : Clock :=
  ⟨((dayOfDate date * dayMicros + micros : Nat) : Int), step⟩

/-- A clock that starts at noon of 2024-05-01 and moves on by one second. -/
def standard : Clock := startingAt ⟨2024, 5, 1⟩ (12 * 3600 * secondMicros) secondMicros

/-- What the clock shows. -/
def text (c : Clock) : String := timestamp c.now.toNat

/-- The clock after a reading. -/
def tick (c : Clock) : Clock := { c with now := c.now + c.step }

end Clock

end EntityGraph
