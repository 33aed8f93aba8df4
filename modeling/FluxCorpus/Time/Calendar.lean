/-!
# The Gregorian calendar

Dates of the proleptic Gregorian calendar and their distance from 1970-01-01.

* `Date.toDays` counts days with the leap-year rule and the lengths of the months.
* `Date.ofDays` goes back, by cutting the days into cycles of 400 years that begin in March.
-/

namespace FluxCorpus

/-- Every fourth year is a leap year, but of the full centuries only every fourth. -/
def isLeapYear (year : Int) : Bool :=
  year % 4 = 0 && (year % 100 ≠ 0 || year % 400 = 0)

/-- The number of days in a month of a year; a month outside 1 to 12 has none. -/
def daysInMonth (year : Int) : Nat → Nat
  | 1 => 31
  | 2 => if isLeapYear year then 29 else 28
  | 3 => 31
  | 4 => 30
  | 5 => 31
  | 6 => 30
  | 7 => 31
  | 8 => 31
  | 9 => 30
  | 10 => 31
  | 11 => 30
  | 12 => 31
  | _ => 0

/-- The days of a year that lie before the first of a month. -/
def daysBeforeMonth (year : Int) (month : Nat) : Nat :=
  (List.range (month - 1)).foldl (fun days m => days + daysInMonth year (m + 1)) 0

/-- The days from the first of January of year 1 to the first of January of a year. -/
def daysBeforeYear (year : Int) : Int :=
  365 * (year - 1) + (year - 1) / 4 - (year - 1) / 100 + (year - 1) / 400

/-- The days of a cycle of 400 years, beginning in March, that lie before one of its years. -/
def cycleDaysBefore (year : Int) : Int := 365 * year + year / 4 - year / 100

/-- The year of a cycle in which a day of the cycle lies. -/
def yearOfCycle (day : Int) : Int := (day - day / 1460 + day / 36524 - day / 146096) / 365

/-- A day of the calendar. -/
structure Date where
  year : Int
  month : Nat
  day : Nat
deriving DecidableEq, Repr

namespace Date

/-- A date that the calendar has. -/
def Valid (d : Date) : Prop :=
  1 ≤ d.month ∧ d.month ≤ 12 ∧ 1 ≤ d.day ∧ d.day ≤ daysInMonth d.year d.month

instance (d : Date) : Decidable d.Valid := by unfold Valid; infer_instance

/-- The days from 1970-01-01 to a date. -/
def toDays (d : Date) : Int :=
  daysBeforeYear d.year - daysBeforeYear 1970 + daysBeforeMonth d.year d.month + (d.day - 1)

/-- The date of a day of a year that begins with the first of March. -/
def ofMarchDay (year dayOfYear : Int) : Date :=
  let monthFromMarch := (5 * dayOfYear + 2) / 153
  let day := dayOfYear - (153 * monthFromMarch + 2) / 5 + 1
  if monthFromMarch < 10 then ⟨year, (monthFromMarch + 3).toNat, day.toNat⟩
  else ⟨year + 1, (monthFromMarch - 9).toNat, day.toNat⟩

/-- The date a number of days after 1970-01-01.  Counted from the first of March of year 0, every
400 years have 146097 days, and a leap day is the last day of its year. -/
def ofDays (days : Int) : Date :=
  let shifted := days + 719468
  let cycle := shifted / 146097
  let dayOfCycle := shifted % 146097
  let year := yearOfCycle dayOfCycle
  ofMarchDay (year + 400 * cycle) (dayOfCycle - cycleDaysBefore year)

end Date

/-- A time of day in whole seconds. -/
structure Clock where
  hour : Nat
  minute : Nat
  second : Nat
deriving DecidableEq, Repr

namespace Clock

/-- The time of day a number of seconds after midnight. -/
def ofSeconds (s : Nat) : Clock := ⟨s / 3600, s / 60 % 60, s % 60⟩

/-- The seconds from midnight to a time of day. -/
def toSeconds (c : Clock) : Nat := c.hour * 3600 + c.minute * 60 + c.second

theorem toSeconds_ofSeconds (s : Nat) : (ofSeconds s).toSeconds = s := by
  simp only [ofSeconds, toSeconds]
  omega

end Clock

end FluxCorpus
