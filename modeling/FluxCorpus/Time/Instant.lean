import FluxCorpus.Text.Decimal
import FluxCorpus.Text.Utf8
import FluxCorpus.Time.Calendar

/-!
# Points in time

An `Instant` is a number of seconds since 1970-01-01 and a number of nanoseconds.  Instants are
written with a zone offset and as many fraction digits as they need (`Instant.render`); a count of
nanoseconds is written to the second (`timestamp`); and `Instant.parse?` reads a timestamp that may
leave out its zone, its fraction, or both.
-/

namespace FluxCorpus

/-- A point in time.  Nanoseconds from one second on mean a leap second that lasts beyond the
second it is counted in. -/
structure Instant where
  seconds : Int
  nanos : Nat
deriving DecidableEq, Repr

open Text

/-! ## Writing -/

/-- The numeral of a year: four digits at least, and a sign outside of the years 0 to 9999. -/
def yearDigits (year : Int) : List Char :=
  if 0 ≤ year ∧ year ≤ 9999 then Decimal.padded 4 year.toNat
  else (if year < 0 then '-' else '+') :: Decimal.padded 4 year.natAbs

/-- A date as year, month and day. -/
def Date.chars (d : Date) : List Char :=
  yearDigits d.year ++ '-' :: Decimal.padded 2 d.month ++ '-' :: Decimal.padded 2 d.day

/-- A time of day as hour, minute and second. -/
def Clock.chars (c : Clock) : List Char :=
  Decimal.padded 2 c.hour ++ ':' :: Decimal.padded 2 c.minute ++ ':' :: Decimal.padded 2 c.second

/-- The number of seconds in a day. -/
def secondsPerDay : Int := 86400

/-- The date on which a second lies. -/
def dateOf (seconds : Int) : Date := Date.ofDays (seconds / secondsPerDay)

/-- The time of day at which a second lies. -/
def clockOf (seconds : Int) : Clock := Clock.ofSeconds (seconds % secondsPerDay).toNat

/-- A second since 1970 as date and time of day, in universal time. -/
def secondChars (seconds : Int) : List Char :=
  (dateOf seconds).chars ++ 'T' :: (clockOf seconds).chars ++ ['Z']

/-- The second in which a count of nanoseconds since 1970 lies, as date and time of day. -/
def timestamp (nanos : Int) : String := String.ofList (secondChars (nanos / 1000000000))

namespace Instant

/-- The nanoseconds since 1970, a leap second being counted like any other time. -/
def unixNanos (t : Instant) : Int := t.seconds * 1000000000 + t.nanos

/-- The date on which an instant lies. -/
def date (t : Instant) : Date := dateOf (t.unixNanos / 1000000000)

/-- The calendar has the date of an instant: its years go from -262143 to 262142. -/
def InCalendar (t : Instant) : Prop := -262143 ≤ t.date.year ∧ t.date.year ≤ 262142

instance (t : Instant) : Decidable t.InCalendar := by unfold InCalendar; infer_instance

/-- A fraction of a second in three, six or nine digits, or nothing for none. -/
def fractionChars (nanos : Nat) : List Char :=
  if nanos = 0 then []
  else if nanos % 1000000 = 0 then '.' :: Decimal.padded 3 (nanos / 1000000)
  else if nanos % 1000 = 0 then '.' :: Decimal.padded 6 (nanos / 1000)
  else '.' :: Decimal.padded 9 nanos

/-- An instant with all of its fraction and the offset of universal time.  A leap second is
written as second 60. -/
def render (t : Instant) : String :=
  let clock := clockOf t.seconds
  String.ofList <|
    (dateOf t.seconds).chars
      ++ 'T' :: { clock with second := clock.second + t.nanos / 1000000000 }.chars
      ++ fractionChars (t.nanos % 1000000000) ++ ['+', '0', '0', ':', '0', '0']

/-! ## Reading -/

/-- The number that two digits denote. -/
def twoDigits? (a b : Char) : Option Nat := Decimal.nat? [a, b]

/-- Reads the digits of a fraction, each worth `unit` nanoseconds, a tenth of the one before.  They
end with the text, with a final `Z`, or with a `+` that has five bytes after it. -/
def fraction? (unit : Nat) : List Char → Option Nat
  | [] => some 0
  | ['Z'] => some 0
  | c :: cs =>
    if c = '+' then if byteLength cs = 5 then some 0 else none
    else if c.isDigit then (fraction? (unit / 10) cs).map (unit * (c.toNat - 48) + ·)
    else none

/-- Reads what follows the seconds of a timestamp, and returns the nanoseconds. -/
def tail? : List Char → Option Nat
  | [] => some 0
  | '.' :: cs => fraction? 100000000 cs
  | 'Z' :: cs => if byteLength cs ≤ 5 then some 0 else none
  | cs => if cs = ['+', '0', '0', ':', '0', '0'] then some 0 else none

/-- The instant of a date, a time of day and nanoseconds, if the calendar has them and they are not
before 1970.  A second 60 counts as 59. -/
def ofParts? (d : Date) (c : Clock) (nanos : Nat) : Option Instant :=
  if 1970 ≤ d.year ∧ d.Valid ∧ c.hour ≤ 23 ∧ c.minute ≤ 59 ∧ c.second ≤ 60 then
    let clock := { c with second := min c.second 59 }
    some ⟨d.toDays * secondsPerDay + clock.toSeconds, nanos⟩
  else none

/-- Reads a timestamp over characters. -/
def parseChars? : List Char → Option Instant
  | y₁ :: y₂ :: y₃ :: y₄ :: '-' :: m₁ :: m₂ :: '-' :: d₁ :: d₂ :: t
      :: h₁ :: h₂ :: ':' :: n₁ :: n₂ :: ':' :: s₁ :: s₂ :: rest => do
    guard (t = 'T' ∨ t = ' ')
    let century ← twoDigits? y₁ y₂
    let year ← twoDigits? y₃ y₄
    let month ← twoDigits? m₁ m₂
    let day ← twoDigits? d₁ d₂
    let hour ← twoDigits? h₁ h₂
    let minute ← twoDigits? n₁ n₂
    let second ← twoDigits? s₁ s₂
    let nanos ← tail? rest
    ofParts? ⟨(century * 100 + year : Nat), month, day⟩ ⟨hour, minute, second⟩ nanos
  | _ => none

/-- Reads a timestamp such as `2016-01-01T00:00:00Z`. -/
def parse? (s : String) : Option Instant := parseChars? s.toList

end Instant

end FluxCorpus
