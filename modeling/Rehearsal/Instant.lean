/-!
# Instants, their dates, and clocks

An instant is a signed 64-bit count of milliseconds from the start of 1970, in
universal time, which is how the stored document holds it. It is shown in three
ways: as a date with time in an answer, as date and time in the list of backups,
and as a time of day in the list of functions.

The calendar is the Gregorian one, carried back before its introduction. A date is
found by counting days from a first of March: then the leap day is the last of its
year, and years, centuries and eras of 400 years are whole numbers of days with the
exception at the end.

A clock is known by what it shows each time it is looked at. Nothing is said of how these
instants follow each other: a clock may stand still, and it may be set back.
-/

namespace Rehearsal

/-- **A point in time**, in milliseconds from the start of 1970. -/
abbrev Instant := Int64

/-- A day of the Gregorian calendar. -/
structure Date where
  year : Int
  month : Nat
  day : Nat
deriving DecidableEq

/-- The day so many days after the first of January 1970. -/
def Date.ofDays (days : Int) : Date :=
  -- day 0 of the count is the first of March of year 0
  let count := days + 719468
  let era := count / 146097
  let dayOfEra := (count % 146097).toNat
  let yearOfEra := (dayOfEra - dayOfEra / 1460 + dayOfEra / 36524 - dayOfEra / 146096) / 365
  let dayOfYear := dayOfEra - (365 * yearOfEra + yearOfEra / 4 - yearOfEra / 100)
  let monthFromMarch := (5 * dayOfYear + 2) / 153
  let day := dayOfYear - (153 * monthFromMarch + 2) / 5 + 1
  let month := if monthFromMarch < 10 then monthFromMarch + 3 else monthFromMarch - 9
  let year := era * 400 + yearOfEra
  ⟨if month ≤ 2 then year + 1 else year, month, day⟩

/-- A number in decimal, with zeros in front up to a width. -/
def padded (width n : Nat) : String :=
  let digits := Nat.toDigits 10 n
  String.ofList (List.replicate (width - digits.length) '0' ++ digits)

/-- A year in four digits, or with its sign where four unsigned digits do not hold it. -/
def yearText (year : Int) : String :=
  if 0 ≤ year ∧ year ≤ 9999 then padded 4 year.toNat
  else (if year < 0 then "-" else "+") ++ padded 4 year.natAbs

namespace Instant

/-- Whole days before the instant. -/
def days (t : Instant) : Int := t.toInt / 86400000

/-- The milliseconds of its day that have passed. -/
def millisOfDay (t : Instant) : Nat := (t.toInt % 86400000).toNat

/-- The date of the instant, as year, month and day. -/
def dateText (t : Instant) : String :=
  let d := Date.ofDays t.days
  yearText d.year ++ "-" ++ padded 2 d.month ++ "-" ++ padded 2 d.day

/-- **The time of day**, as hours, minutes and seconds. -/
def timeText (t : Instant) : String :=
  let s := t.millisOfDay / 1000
  padded 2 (s / 3600) ++ ":" ++ padded 2 (s / 60 % 60) ++ ":" ++ padded 2 (s % 60)

/-- Date and time, as lists of backups show them. -/
def dateTimeText (t : Instant) : String := t.dateText ++ " " ++ t.timeText

/-- **Date and time in the form of a time stamp.** The milliseconds are left out
when there are none. -/
def stamp (t : Instant) : String :=
  let ms := t.millisOfDay % 1000
  t.dateText ++ "T" ++ t.timeText ++ (if ms = 0 then "" else "." ++ padded 3 ms) ++ "Z"

/-- The calendar reaches from the first day of year -262143 to the last of year 262142. -/
def inCalendar (t : Instant) : Bool :=
  let year := (Date.ofDays t.days).year
  decide (-262143 ≤ year ∧ year ≤ 262142)

/-- The time of day, for an instant that the calendar reaches. -/
def timeText? (t : Instant) : Option String := if t.inCalendar then some t.timeText else none

end Instant

/-- **What a clock shows**, by how often it was looked at before. -/
structure Clock where
  reading : Nat → Instant

namespace Clock

/-- What the clock shows when it is looked at. -/
def now (clock : Clock) : Instant := clock.reading 0

/-- **The clock from then on**, when it was looked at once. -/
def later (clock : Clock) : Clock := ⟨fun n => clock.reading (n + 1)⟩

/-- A clock that stands still. An instant by itself is meant as such a clock. -/
def still (t : Instant) : Clock := ⟨fun _ => t⟩

instance : Coe Instant Clock := ⟨still⟩

end Clock

end Rehearsal
