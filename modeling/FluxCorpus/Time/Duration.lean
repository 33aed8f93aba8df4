import FluxCorpus.Text.Decimal

/-!
# Lengths of time

A `Duration` is a natural number of nanoseconds.  Its text form uses the largest units that fit:
hours, minutes and seconds from one second on, and a single unit below it.
-/

namespace FluxCorpus

/-- A length of time in whole nanoseconds. -/
structure Duration where
  nanos : Nat
deriving DecidableEq, Repr

namespace Duration

/-- The nanoseconds in one second. -/
def nanosPerSecond : Nat := 1000000000

/-- A length of time given in seconds. -/
def ofSeconds (s : Nat) : Duration := ⟨s * nanosPerSecond⟩

/-- A length of time given in minutes. -/
def ofMinutes (m : Nat) : Duration := ofSeconds (m * 60)

/-- A length of time given in hours. -/
def ofHours (h : Nat) : Duration := ofSeconds (h * 3600)

/-- The digits after the point of `n / 10 ^ places`, without trailing zeros and with the point in
front; empty for a whole number. -/
def fraction (places n : Nat) : List Char :=
  let rest := n % Nat.pow 10 places
  if rest = 0 then []
  else '.' :: ((Text.Decimal.padded places rest).reverse.dropWhile (· = '0')).reverse

/-- A number of units, given in parts of which `10 ^ places` make one unit. -/
def inUnits (places n : Nat) (unit : List Char) : List Char :=
  Text.Decimal.digits (n / Nat.pow 10 places) ++ fraction places n ++ unit

/-- The text of a length of time, over characters. -/
def chars (d : Duration) : List Char :=
  let n := d.nanos
  if n = 0 then ['0', 's']
  else if n < 1000 then inUnits 0 n ['n', 's']
  else if n < 1000000 then inUnits 3 n ['µ', 's']
  else if n < 1000000000 then inUnits 6 n ['m', 's']
  else
    let seconds := n / nanosPerSecond
    let hours := seconds / 3600
    let minutes := seconds / 60 % 60
    let lead :=
      if 0 < hours then Text.Decimal.digits hours ++ 'h' :: Text.Decimal.digits minutes ++ ['m']
      else if 0 < minutes then Text.Decimal.digits minutes ++ ['m']
      else []
    lead ++ Text.Decimal.digits (seconds % 60) ++ fraction 9 n ++ ['s']

/-- The text of a length of time: `12h0m0s`, `1m0s`, `1.5s`, `250ms`. -/
def render (d : Duration) : String := String.ofList d.chars

instance : ToString Duration := ⟨render⟩

end Duration

end FluxCorpus
