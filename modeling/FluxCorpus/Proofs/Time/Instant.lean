import FluxCorpus.Proofs.Text.Reading
import FluxCorpus.Proofs.Time.Window

/-!
# Intervals between instants

The text of an instant has all of it: a reader gets back its seconds, its nanoseconds, and whether it
lies in a leap second.  So an error that names an instant tells which one it is.

* `Instant.Valid` — an instant that can be: only the last second of a minute can be a leap second.
* `Instant.read?` — what a text with a signed year, a fraction and the offset of universal time
  denotes; `Instant.read?_render` — the text of an instant denotes it.
* `Interval.ofInstants_exact` — **an interval has exactly the bounds and the length that its instants
  say**, or else the first thing that is wrong with them is named.
-/

namespace FluxCorpus

open Text (Decimal.padded Decimal.nat? Decimal.signed?)

namespace Instant

/-- An instant that can be: a leap second follows the last second of a minute. -/
def Valid (t : Instant) : Prop :=
  t.nanos < 1000000000 ∨ t.nanos < 2000000000 ∧ t.seconds % 60 = 59

instance (t : Instant) : Decidable t.Valid := by unfold Valid; infer_instance

/-! ## What the text of an instant denotes -/

/-- The offset of universal time. -/
def offset : List Char := ['+', '0', '0', ':', '0', '0']

/-- The nanoseconds that a fraction of up to nine digits denotes, in front of the offset. -/
def readFraction? : List Char → Option Nat
  | '.' :: cs =>
    let digits := cs.takeWhile Char.isDigit
    if digits.length ≤ 9 ∧ cs.dropWhile Char.isDigit = offset then
      (Decimal.nat? digits).map (· * 10 ^ (9 - digits.length))
    else none
  | cs => if cs = offset then some 0 else none

/-- The instant of a date, a time of day and a fraction.  Second 60 is a leap second. -/
def ofShown? (d : Date) (c : Clock) (fraction : Nat) : Option Instant :=
  if d.Valid ∧ c.hour ≤ 23 ∧ c.minute ≤ 59 ∧ c.second ≤ 60 then
    let clock := { c with second := min c.second 59 }
    some ⟨d.toDays * secondsPerDay + clock.toSeconds, c.second / 60 * 1000000000 + fraction⟩
  else none

/-- The instant that a text denotes.  The year may have a sign, and goes on up to a character that is
not a digit. -/
def read? (cs : List Char) : Option Instant :=
  match (cs.drop 1).dropWhile Char.isDigit with
  | '-' :: m₁ :: m₂ :: '-' :: d₁ :: d₂ :: 'T' :: h₁ :: h₂ :: ':' :: n₁ :: n₂ :: ':' :: s₁ :: s₂
      :: rest => do
    let year ← Decimal.signed? (cs.take 1 ++ (cs.drop 1).takeWhile Char.isDigit)
    let month ← Decimal.nat? [m₁, m₂]
    let day ← Decimal.nat? [d₁, d₂]
    let hour ← Decimal.nat? [h₁, h₂]
    let minute ← Decimal.nat? [n₁, n₂]
    let second ← Decimal.nat? [s₁, s₂]
    let fraction ← readFraction? rest
    ofShown? ⟨year, month, day⟩ ⟨hour, minute, second⟩ fraction
  | _ => none

/-! ## The parts of the text -/

/-- A year is a digit or a sign, and then digits; it is read as an integer. -/
theorem exists_yearDigits (year : Int) :
    ∃ c ds, yearDigits year = c :: ds ∧ (∀ d ∈ ds, d.isDigit) ∧
      Decimal.signed? (c :: ds) = some year := by
  rw [yearDigits]
  split
  · next h =>
    obtain ⟨c, ds, hc⟩ := List.exists_cons_of_ne_nil (Text.Decimal.padded_ne_nil 4 year.toNat)
    have hdigits : ∀ d ∈ c :: ds, d.isDigit := hc ▸ fun _ => Text.Decimal.isDigit_of_mem_padded
    rw [List.forall_mem_cons] at hdigits
    refine ⟨c, ds, hc, hdigits.2, ?_⟩
    have hread := Text.Decimal.nat?_padded 4 year.toNat
    rw [hc] at hread
    have hminus : c ≠ '-' := by
      rintro rfl
      exact absurd hdigits.1 (by decide)
    have hplus : c ≠ '+' := by
      rintro rfl
      exact absurd hdigits.1 (by decide)
    rw [Decimal.signed?]
    · rw [hread]
      exact congrArg some (Int.toNat_of_nonneg h.1)
    · rintro cs heq
      exact hminus (List.cons.inj heq).1
    · rintro cs heq
      exact hplus (List.cons.inj heq).1
  · next h =>
    refine ⟨_, _, rfl, fun _ => Text.Decimal.isDigit_of_mem_padded, ?_⟩
    split
    · rw [Decimal.signed?, Text.Decimal.nat?_padded]
      exact congrArg some (show -(year.natAbs : Int) = year by omega)
    · rw [Decimal.signed?, Text.Decimal.nat?_padded]
      exact congrArg some (show (year.natAbs : Int) = year by omega)

/-- A fraction of a fixed number of digits denotes as many nanoseconds as its width tells. -/
theorem readFraction?_padded {w n : Nat} (h0 : 0 < w) (h1 : w ≤ 9) (hn : n < 10 ^ w) :
    readFraction? ('.' :: Decimal.padded w n ++ offset) = some (n * 10 ^ (9 - w)) := by
  have hdigits : ∀ c ∈ Decimal.padded w n, c.isDigit :=
    fun _ => Text.Decimal.isDigit_of_mem_padded
  have hlength := Text.Decimal.length_padded h0 hn
  have hsign : ∀ c ∈ offset.head?, c.isDigit = false := by
    rintro c ⟨⟩
    rfl
  obtain ⟨htake, hdrop⟩ := Text.takeWhile_dropWhile_append hdigits hsign
  rw [List.cons_append, readFraction?, htake, hdrop, if_pos ⟨by omega, rfl⟩,
    Text.Decimal.nat?_padded, hlength, Option.map_some]

/-- The fraction of a second is read back, however many digits it has. -/
theorem readFraction?_fractionChars {n : Nat} (h : n < 1000000000) :
    readFraction? (fractionChars n ++ offset) = some n := by
  rw [fractionChars]
  split_ifs with h0 h6 h3
  · rw [h0]
    rfl
  · rw [readFraction?_padded (by decide) (by decide) (by omega)]
    exact congrArg some (by omega)
  · rw [readFraction?_padded (by decide) (by decide) (by omega)]
    exact congrArg some (by omega)
  · rw [readFraction?_padded (by decide) (by decide) (by omega)]
    exact congrArg some (by omega)

/-- A text is read in its parts. -/
theorem read?_eq {c m₁ m₂ d₁ d₂ a₁ a₂ n₁ n₂ s₁ s₂ : Char} {ds rest : List Char} {year : Int}
    {month day hour minute second fraction : Nat} (hds : ∀ d ∈ ds, d.isDigit)
    (hyear : Decimal.signed? (c :: ds) = some year) (hmonth : Decimal.nat? [m₁, m₂] = some month)
    (hday : Decimal.nat? [d₁, d₂] = some day) (hhour : Decimal.nat? [a₁, a₂] = some hour)
    (hminute : Decimal.nat? [n₁, n₂] = some minute) (hsecond : Decimal.nat? [s₁, s₂] = some second)
    (hfraction : readFraction? rest = some fraction) :
    read? (c :: (ds ++ '-' :: m₁ :: m₂ :: '-' :: d₁ :: d₂ :: 'T' :: a₁ :: a₂ :: ':' :: n₁ :: n₂
        :: ':' :: s₁ :: s₂ :: rest))
      = ofShown? ⟨year, month, day⟩ ⟨hour, minute, second⟩ fraction := by
  obtain ⟨htake, hdrop⟩ := Text.takeWhile_dropWhile_append (p := Char.isDigit)
    (b := '-' :: m₁ :: m₂ :: '-' :: d₁ :: d₂ :: 'T' :: a₁ :: a₂ :: ':' :: n₁ :: n₂ :: ':' :: s₁ :: s₂
      :: rest) hds (by simp)
  simp only [read?, List.drop_succ_cons, List.drop_zero, List.take_succ_cons, List.take_zero, htake,
    hdrop, List.singleton_append, hyear, hmonth, hday, hhour, hminute, hsecond, hfraction]
  rfl

/-- **The text of an instant denotes it**, also if it lies in a leap second. -/
theorem read?_render {t : Instant} (h : t.Valid) : read? t.render.toList = some t := by
  obtain ⟨-, hmonth, -, hday⟩ : (dateOf t.seconds).Valid := Date.valid_ofDays _
  have hmonthLength := daysInMonth_le (dateOf t.seconds).year (dateOf t.seconds).month
  obtain ⟨hhour, hminute, hsecond⟩ := clockOf_valid t.seconds
  have hleap : t.nanos < 1000000000 ∨ t.nanos < 2000000000 ∧ (clockOf t.seconds).second = 59 := by
    refine h.imp_right fun ⟨hnanos, hlast⟩ => ⟨hnanos, ?_⟩
    simp only [clockOf, Clock.ofSeconds, secondsPerDay]
    omega
  obtain ⟨c, ds, hy, hds, hyear⟩ := exists_yearDigits (dateOf t.seconds).year
  obtain ⟨m₁, m₂, hm, hmonth'⟩ := padded_two (n := (dateOf t.seconds).month) (by omega)
  obtain ⟨d₁, d₂, hd, hday'⟩ := padded_two (n := (dateOf t.seconds).day) (by omega)
  obtain ⟨a₁, a₂, ha, hhour'⟩ := padded_two (n := (clockOf t.seconds).hour) (by omega)
  obtain ⟨n₁, n₂, hn, hminute'⟩ := padded_two (n := (clockOf t.seconds).minute) (by omega)
  obtain ⟨s₁, s₂, hs, hsecond'⟩ :=
    padded_two (n := (clockOf t.seconds).second + t.nanos / 1000000000) (by omega)
  have hfraction := readFraction?_fractionChars (Nat.mod_lt t.nanos (by decide : 0 < 1000000000))
  have htext : t.render.toList = c :: (ds ++ '-' :: m₁ :: m₂ :: '-' :: d₁ :: d₂ :: 'T' :: a₁ :: a₂
      :: ':' :: n₁ :: n₂ :: ':' :: s₁ :: s₂ :: (fractionChars (t.nanos % 1000000000) ++ offset)) := by
    rw [render, String.toList_ofList]
    simp only [Date.chars, Clock.chars, hy, hm, hd, ha, hn, hs, List.cons_append,
      List.nil_append, List.append_assoc]
    rfl
  have hsixty : (clockOf t.seconds).second + t.nanos / 1000000000 ≤ 60 := by omega
  have hshown : min ((clockOf t.seconds).second + t.nanos / 1000000000) 59
      = (clockOf t.seconds).second := by omega
  have hnanos : ((clockOf t.seconds).second + t.nanos / 1000000000) / 60 * 1000000000
      + t.nanos % 1000000000 = t.nanos := by omega
  rw [htext, read?_eq hds hyear hmonth' hday' hhour' hminute' hsecond' hfraction, ofShown?,
    if_pos ⟨Date.valid_ofDays _, hhour, hminute, hsixty⟩, hshown, hnanos]
  exact congrArg (fun seconds => some (⟨seconds, t.nanos⟩ : Instant)) (dateOf_clockOf t.seconds)

end Instant

/-! ## Intervals -/

/-- **Intervals between instants are exact.**  The instants are looked at in their order.  The first
one whose nanoseconds cannot be represented is named in full; instants that are not in order are
named by their seconds; and all others bound the interval of exactly their nanoseconds, whose length
is their distance, also where this is no integer of 64 bits with a sign. -/
theorem Interval.ofInstants_exact {a b : Instant} (ha : a.Valid) (hb : b.Valid) :
    (¬ Representable a.unixNanos →
      ∃ text, ofInstants a b = .error (.timestampOutOfRange text)
        ∧ Instant.read? text.toList = some a)
    ∧ (Representable a.unixNanos → ¬ Representable b.unixNanos →
      ∃ text, ofInstants a b = .error (.timestampOutOfRange text)
        ∧ Instant.read? text.toList = some b)
    ∧ (Representable a.unixNanos → Representable b.unixNanos → b.unixNanos ≤ a.unixNanos →
      ∃ first last, ofInstants a b = .error (.invalidInterval first last)
        ∧ readSecond? first.toList = some (a.unixNanos / 1000000000)
        ∧ readSecond? last.toList = some (b.unixNanos / 1000000000))
    ∧ (Representable a.unixNanos → Representable b.unixNanos → a.unixNanos < b.unixNanos →
      ∃ i, ofInstants a b = .ok i ∧ i.start = a.unixNanos ∧ i.stop = b.unixNanos
        ∧ (i.length.nanos : Int) = b.unixNanos - a.unixNanos
        ∧ i.length.nanos < 18446744073709551616) := by
  refine ⟨fun hstart => ?_, fun hstart hstop => ?_, fun hstart hstop hle => ?_,
    fun hstart hstop hlt => ?_⟩
  · refine ⟨a.render, ?_, Instant.read?_render ha⟩
    rw [ofInstants_eq, if_neg hstart]
  · refine ⟨b.render, ?_, Instant.read?_render hb⟩
    rw [ofInstants_eq, if_pos hstart, if_neg hstop]
  · refine ⟨timestamp a.unixNanos, timestamp b.unixNanos, ?_, readSecond?_timestamp hstart,
      readSecond?_timestamp hstop⟩
    rw [ofInstants_eq, if_pos hstart, if_pos hstop, ofNanos, if_pos hle]
    rfl
  · refine ⟨⟨a.unixNanos, b.unixNanos⟩, ofInstants_ok.2 ⟨hstart, hstop, hlt, rfl⟩, rfl, rfl, ?_, ?_⟩
    · simp only [length]
      omega
    · simp only [length]
      omega

/-- All of the time that can be represented, and an end in a leap second behind it. -/
theorem Interval.ofInstants_exact_bounds :
    (∃ i, ofInstants ⟨-9223372037, 145224192⟩ ⟨9223372036, 854775807⟩ = .ok i
        ∧ i.start = -9223372036854775808 ∧ i.length.nanos = 18446744073709551615)
      ∧ ∃ text, ofInstants ⟨-9223372037, 145224192⟩ ⟨9223372079, 1999999999⟩
          = .error (.timestampOutOfRange text)
        ∧ Instant.read? text.toList = some ⟨9223372079, 1999999999⟩ := by
  obtain ⟨-, -, -, hok⟩ := ofInstants_exact (a := ⟨-9223372037, 145224192⟩)
    (b := ⟨9223372036, 854775807⟩) (by decide) (by decide)
  obtain ⟨-, herror, -⟩ := ofInstants_exact (a := ⟨-9223372037, 145224192⟩)
    (b := ⟨9223372079, 1999999999⟩) (by decide) (by decide)
  obtain ⟨i, hi, hstart, -, hlength, -⟩ := hok (by decide) (by decide) (by decide)
  refine ⟨⟨i, hi, hstart, ?_⟩, herror (by decide) (by decide)⟩
  simp only [Instant.unixNanos] at hlength
  omega

end FluxCorpus
