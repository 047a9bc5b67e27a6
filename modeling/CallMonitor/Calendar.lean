/-!
The proleptic Gregorian calendar, and points in time written as a date, a time of day and
milliseconds. Years 0 to 9999 have four digits; others carry a sign.
-/

namespace CallMonitor

/-- A day of the calendar. Months and days count from one. -/
structure Date where
  year : Int
  month : Nat
  day : Nat
  deriving DecidableEq, Repr

/-- A point in time: nanoseconds since the start of 1970. -/
structure Instant where
  nanos : Int
  deriving DecidableEq, Repr

namespace Date

def isLeap (year : Int) : Bool :=
  year % 4 == 0 && (year % 100 != 0 || year % 400 == 0)

def monthLengths (leap : Bool) : List Nat :=
  [31, if leap then 29 else 28, 31, 30, 31, 30, 31, 31, 30, 31, 30, 31]

def daysBeforeYear (year : Int) : Int :=
  let past := year - 1
  365 * past + past / 4 - past / 100 + past / 400

def daysInto (date : Date) : Nat :=
  ((monthLengths (isLeap date.year)).take (date.month - 1)).foldl (· + ·) (date.day - 1)

def toDays (date : Date) : Int := daysBeforeYear date.year + (date.daysInto : Int)

/-- Finds the month in which a day of the year falls: the month counted from `month`, and the
day in it counted from zero. -/
def monthOfDay (month day : Nat) : List Nat → Nat × Nat
  | [] => (month, day)
  | length :: rest =>
      if day < length then (month, day) else monthOfDay (month + 1) (day - length) rest

/-- The date a number of days after the start of year 1. Four hundred years have 146097 days, and
within them centuries, four-year spans and years have a fixed length save the last of each. -/
def ofDays (days : Int) : Date :=
  let era := days / 146097
  let inEra := (days % 146097).toNat
  let century := min 3 (inEra / 36524)
  let inCentury := inEra - 36524 * century
  let span := inCentury / 1461
  let inSpan := inCentury % 1461
  let single := min 3 (inSpan / 365)
  let inYear := inSpan - 365 * single
  let year := 400 * era + (100 * century + 4 * span + single : Nat) + 1
  let (month, day) := monthOfDay 1 inYear (monthLengths (isLeap year))
  ⟨year, month, day + 1⟩

/-- Whether the calendar has such a date, in a year that timestamps can hold. -/
def isValid (date : Date) : Bool :=
  decide (-262143 ≤ date.year ∧ date.year ≤ 262142) &&
    match (monthLengths (isLeap date.year))[date.month - 1]? with
    | none => false
    | some length => decide (1 ≤ date.month ∧ 1 ≤ date.day ∧ date.day ≤ length)

end Date

def padded (width n : Nat) : List Char :=
  let digits := Nat.toDigits 10 n
  List.replicate (width - digits.length) '0' ++ digits

/-- A year in four digits, with a sign when it is not between 0 and 9999. -/
def writeYear (year : Int) : List Char :=
  if 0 ≤ year ∧ year ≤ 9999 then padded 4 year.toNat
  else (if year < 0 then '-' else '+') :: padded 4 year.natAbs

namespace Instant

def epochDays : Int := 719162

def millisPerDay : Int := 86400000

/-- Whole milliseconds since the start of 1970; what is left of the last one is dropped. -/
def millis (instant : Instant) : Int := instant.nanos / 1000000

def date (instant : Instant) : Date :=
  Date.ofDays (instant.millis / millisPerDay + epochDays)

def dayMillis (instant : Instant) : Nat := (instant.millis % millisPerDay).toNat

def write (instant : Instant) : String :=
  let date := instant.date
  let time := instant.dayMillis
  String.ofList <|
    writeYear date.year ++ ['-'] ++ padded 2 date.month ++ ['-'] ++ padded 2 date.day ++ [' '] ++
    padded 2 (time / 3600000) ++ [':'] ++ padded 2 (time / 60000 % 60) ++ [':'] ++
    padded 2 (time / 1000 % 60) ++ ['.'] ++ padded 3 (time % 1000)

def ofDateTime? (date : Date) (hour minute second : Nat) : Option Instant :=
  if date.isValid ∧ hour < 24 ∧ minute < 60 ∧ second < 60 then
    let days := date.toDays - epochDays
    some ⟨(days * 86400 + (hour * 3600 + minute * 60 + second : Nat)) * 1000000000⟩
  else none

def after (instant : Instant) (elapsed : Nat) : Instant := ⟨instant.nanos + elapsed⟩

end Instant

/-- A clock: the wall-clock time at which it was set, and the time that has passed since, which
only ever grows. -/
structure Clock where
  anchor : Instant
  elapsed : Nat
  deriving DecidableEq, Repr

namespace Clock

def anchoredAt (anchor : Instant) : Clock := ⟨anchor, 0⟩

def advance (clock : Clock) (nanos : Nat) : Clock := { clock with elapsed := clock.elapsed + nanos }

def now (clock : Clock) : Instant := clock.anchor.after clock.elapsed

def nowText (clock : Clock) : String := clock.now.write

/-- The pattern of the clock's text, in the notation of the time formatting functions. -/
def pattern : String := "%Y-%m-%d %H:%M:%S%.3f"

end Clock

end CallMonitor
