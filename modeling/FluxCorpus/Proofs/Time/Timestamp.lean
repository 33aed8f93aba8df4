import FluxCorpus.Proofs.Text.Decimal
import FluxCorpus.Proofs.Time.Calendar
import FluxCorpus.Representable
import FluxCorpus.Time.Instant

/-!
# Timestamps to the second

A timestamp is the text `YYYY-MM-DDTHH:MM:SSZ` of the second in which a count of nanoseconds lies.

* `readSecond?` — what such a text denotes, by the leap-year rule and the lengths of the months.
* `secondOfDay?` — the seconds since midnight that its hours, minutes and seconds add up to.
* `readSecond?_timestamp` — the timestamp of a representable count of nanoseconds denotes its
  whole seconds, rounded down; `secondOfDay?_timestamp` — and the part of the day that they leave.
-/

namespace FluxCorpus

open Text (Decimal.padded Decimal.nat?)

/-! ## What a timestamp denotes -/

/-- A time of day that a clock shows. -/
def Clock.Valid (c : Clock) : Prop := c.hour ≤ 23 ∧ c.minute ≤ 59 ∧ c.second ≤ 59

instance (c : Clock) : Decidable c.Valid := by unfold Clock.Valid; infer_instance

/-- The seconds since 1970 that a text `YYYY-MM-DDTHH:MM:SSZ` denotes.  Anything else, also a day
that the calendar does not have, denotes nothing. -/
def readSecond? : List Char → Option Int
  | [y₁, y₂, y₃, y₄, '-', m₁, m₂, '-', d₁, d₂, 'T', h₁, h₂, ':', n₁, n₂, ':', s₁, s₂, 'Z'] => do
    let year ← Decimal.nat? [y₁, y₂, y₃, y₄]
    let month ← Decimal.nat? [m₁, m₂]
    let day ← Decimal.nat? [d₁, d₂]
    let hour ← Decimal.nat? [h₁, h₂]
    let minute ← Decimal.nat? [n₁, n₂]
    let second ← Decimal.nat? [s₁, s₂]
    let date : Date := ⟨year, month, day⟩
    let clock : Clock := ⟨hour, minute, second⟩
    guard (date.Valid ∧ clock.Valid)
    return date.toDays * secondsPerDay + clock.toSeconds
  | _ => none

/-- The seconds since midnight in a text `YYYY-MM-DDTHH:MM:SSZ`: those of its hours, its minutes and
its seconds.  The date is not looked at. -/
def secondOfDay? (cs : List Char) : Option Nat :=
  match cs.drop 10 with
  | ['T', h₁, h₂, ':', n₁, n₂, ':', s₁, s₂, 'Z'] => do
    let hour ← Decimal.nat? [h₁, h₂]
    let minute ← Decimal.nat? [n₁, n₂]
    let second ← Decimal.nat? [s₁, s₂]
    return 3600 * hour + 60 * minute + second
  | _ => none

/-! ## The parts of a timestamp -/

/-- Two digits are enough for a number below 100. -/
theorem padded_two {n : Nat} (h : n < 100) :
    ∃ a b, Decimal.padded 2 n = [a, b] ∧ Decimal.nat? [a, b] = some n := by
  have hlen : (Decimal.padded 2 n).length = 2 := Text.Decimal.length_padded (by decide) h
  match hp : Decimal.padded 2 n, hlen with
  | [a, b], _ => exact ⟨a, b, rfl, hp ▸ Text.Decimal.nat?_padded 2 n⟩

/-- Four digits are enough for a year up to 9999. -/
theorem yearDigits_four {year : Int} (h0 : 0 ≤ year) (h1 : year ≤ 9999) :
    ∃ a b c d, yearDigits year = [a, b, c, d] ∧
      Decimal.nat? [a, b, c, d] = some year.toNat := by
  have hlen : (Decimal.padded 4 year.toNat).length = 4 :=
    Text.Decimal.length_padded (by decide) (by omega)
  rw [yearDigits, if_pos ⟨h0, h1⟩]
  match hp : Decimal.padded 4 year.toNat, hlen with
  | [a, b, c, d], _ => exact ⟨a, b, c, d, rfl, hp ▸ Text.Decimal.nat?_padded 4 year.toNat⟩

theorem daysInMonth_le (year : Int) (month : Nat) : daysInMonth year month ≤ 31 := by
  unfold daysInMonth
  split <;> (try split) <;> decide

theorem clockOf_valid (t : Int) : (clockOf t).Valid := by
  have h0 : 0 ≤ t % secondsPerDay := Int.emod_nonneg _ (by decide)
  have h1 : t % secondsPerDay < 86400 := Int.emod_lt_of_pos _ (by decide)
  simp only [Clock.Valid, clockOf, Clock.ofSeconds]
  omega

/-- A second is its day and its time of day. -/
theorem dateOf_clockOf (t : Int) :
    (dateOf t).toDays * secondsPerDay + (clockOf t).toSeconds = t := by
  have h0 : 0 ≤ t % secondsPerDay := Int.emod_nonneg _ (by decide)
  rw [dateOf, Date.toDays_ofDays, clockOf, Clock.toSeconds_ofSeconds, Int.toNat_of_nonneg h0,
    Int.mul_comm, Int.mul_ediv_add_emod]

/-- The text of a second, as long as its year has four digits: each numeral is read as what it
stands for. -/
theorem exists_secondChars {t : Int} (h0 : 0 ≤ (dateOf t).year) (h1 : (dateOf t).year ≤ 9999) :
    ∃ y₁ y₂ y₃ y₄ m₁ m₂ d₁ d₂ a₁ a₂ n₁ n₂ s₁ s₂,
      secondChars t = [y₁, y₂, y₃, y₄, '-', m₁, m₂, '-', d₁, d₂, 'T', a₁, a₂, ':', n₁, n₂, ':',
        s₁, s₂, 'Z']
      ∧ Decimal.nat? [y₁, y₂, y₃, y₄] = some (dateOf t).year.toNat
      ∧ Decimal.nat? [m₁, m₂] = some (dateOf t).month
      ∧ Decimal.nat? [d₁, d₂] = some (dateOf t).day
      ∧ Decimal.nat? [a₁, a₂] = some (clockOf t).hour
      ∧ Decimal.nat? [n₁, n₂] = some (clockOf t).minute
      ∧ Decimal.nat? [s₁, s₂] = some (clockOf t).second := by
  obtain ⟨-, hmonth, -, hday⟩ : (dateOf t).Valid := Date.valid_ofDays _
  have hmonthLength := daysInMonth_le (dateOf t).year (dateOf t).month
  obtain ⟨hhour, hminute, hsecond⟩ := clockOf_valid t
  obtain ⟨y₁, y₂, y₃, y₄, hy, hyear⟩ := yearDigits_four h0 h1
  obtain ⟨m₁, m₂, hm, hmonth'⟩ := padded_two (n := (dateOf t).month) (by omega)
  obtain ⟨d₁, d₂, hd, hday'⟩ := padded_two (n := (dateOf t).day) (by omega)
  obtain ⟨a₁, a₂, ha, hhour'⟩ := padded_two (n := (clockOf t).hour) (by omega)
  obtain ⟨n₁, n₂, hn, hminute'⟩ := padded_two (n := (clockOf t).minute) (by omega)
  obtain ⟨s₁, s₂, hs, hsecond'⟩ := padded_two (n := (clockOf t).second) (by omega)
  refine ⟨y₁, y₂, y₃, y₄, m₁, m₂, d₁, d₂, a₁, a₂, n₁, n₂, s₁, s₂, ?_, hyear, hmonth', hday', hhour',
    hminute', hsecond'⟩
  simp only [secondChars, Date.chars, Clock.chars, hy, hm, hd, ha, hn, hs, List.cons_append,
    List.nil_append]

/-- The text of a second denotes it, as long as its year has four digits. -/
theorem readSecond?_secondChars {t : Int} (h0 : 0 ≤ (dateOf t).year)
    (h1 : (dateOf t).year ≤ 9999) : readSecond? (secondChars t) = some t := by
  obtain ⟨y₁, y₂, y₃, y₄, m₁, m₂, d₁, d₂, a₁, a₂, n₁, n₂, s₁, s₂, hchars, hyear, hmonth, hday, hhour,
    hminute, hsecond⟩ := exists_secondChars h0 h1
  simp only [hchars, readSecond?, hyear, hmonth, hday, hhour, hminute, hsecond, Option.bind_eq_bind,
    Option.bind_some, Int.toNat_of_nonneg h0]
  change (Option.bind (guard ((dateOf t).Valid ∧ (clockOf t).Valid)) fun _ =>
    some ((dateOf t).toDays * secondsPerDay + (clockOf t).toSeconds)) = some t
  rw [guard, if_pos ⟨Date.valid_ofDays _, clockOf_valid t⟩]
  exact congrArg some (dateOf_clockOf t)

/-! ## The characters of a timestamp -/

/-- A timestamp consists of digits, signs, colons and two letters. -/
theorem mem_timestamp {nanos : Int} {c : Char} (h : c ∈ (timestamp nanos).toList) :
    c.isDigit ∨ c ∈ ['-', '+', ':', 'T', 'Z'] := by
  have hyear : ∀ year, c ∈ yearDigits year → c.isDigit ∨ c ∈ ['-', '+', ':', 'T', 'Z'] := by
    intro year hc
    rw [yearDigits] at hc
    split at hc
    · exact .inl (Text.Decimal.isDigit_of_mem_padded hc)
    · obtain rfl | hc := List.mem_cons.1 hc
      · split <;> decide
      · exact .inl (Text.Decimal.isDigit_of_mem_padded hc)
  rw [timestamp, String.toList_ofList] at h
  simp only [secondChars, Date.chars, Clock.chars, List.mem_append, List.mem_cons,
    List.not_mem_nil, or_false] at h
  obtain (((h | rfl | h) | rfl | h) | rfl | ((h | rfl | h) | rfl | h)) | rfl := h <;>
    first
    | exact hyear _ h
    | exact .inl (Text.Decimal.isDigit_of_mem_padded h)
    | decide

/-! ## Representable times -/

theorem daysBeforeMonth_le (year : Int) {month : Nat} (h : month ≤ 12) :
    daysBeforeMonth year month ≤ 335 := by
  interval_cases month <;>
    simp [daysBeforeMonth, daysInMonth, List.range, List.range.loop] <;> split <;> omega

/-- The years around 1970 have four digits: those some 1900 years before it and 7900 years after it. -/
theorem year_ofDays {n : Int} (h0 : -700000 ≤ n) (h1 : n ≤ 2900000) :
    0 ≤ (Date.ofDays n).year ∧ (Date.ofDays n).year ≤ 9999 := by
  obtain ⟨-, hmonth, hday0, hday1⟩ := Date.valid_ofDays n
  have hdays := Date.toDays_ofDays n
  have hmonthDays := daysBeforeMonth_le (Date.ofDays n).year hmonth
  have hlength := daysInMonth_le (Date.ofDays n).year (Date.ofDays n).month
  simp only [Date.toDays, daysBeforeYear] at hdays
  omega

theorem year_of_representable {nanos : Int} (h : Representable nanos) :
    0 ≤ (dateOf (nanos / 1000000000)).year ∧ (dateOf (nanos / 1000000000)).year ≤ 9999 := by
  apply year_ofDays
  · simp only [secondsPerDay]
    omega
  · simp only [secondsPerDay]
    omega

/-- The calendar has every instant whose nanoseconds are representable. -/
theorem Instant.inCalendar_of_representable {t : Instant} (h : Representable t.unixNanos) :
    t.InCalendar := by
  obtain ⟨hlow, hhigh⟩ := year_of_representable h
  rw [InCalendar, date]
  omega

/-- It has others too, up to the end of the year 262142. -/
example : (⟨8210266876799, 999999999⟩ : Instant).InCalendar
    ∧ ¬ (⟨8210266876800, 0⟩ : Instant).InCalendar := by decide

/-- **A timestamp denotes the second of its instant**, rounded down, for every count of nanoseconds
that can be represented. -/
theorem readSecond?_timestamp {nanos : Int} (h : Representable nanos) :
    readSecond? (timestamp nanos).toList = some (nanos / 1000000000) := by
  have hyear := year_of_representable h
  rw [timestamp, String.toList_ofList]
  exact readSecond?_secondChars hyear.1 hyear.2

/-- The time of day in a timestamp is what is left of its second after whole days. -/
theorem secondOfDay?_timestamp {nanos : Int} (h : Representable nanos) :
    secondOfDay? (timestamp nanos).toList
      = some (nanos / 1000000000 % secondsPerDay).toNat := by
  have hyear := year_of_representable h
  obtain ⟨y₁, y₂, y₃, y₄, m₁, m₂, d₁, d₂, a₁, a₂, n₁, n₂, s₁, s₂, hchars, -, -, -, hhour, hminute,
    hsecond⟩ := exists_secondChars hyear.1 hyear.2
  rw [timestamp, String.toList_ofList, hchars, secondOfDay?]
  simp only [List.drop_succ_cons, List.drop_zero, hhour, hminute, hsecond, Option.bind_eq_bind,
    Option.bind_some]
  refine congrArg some ?_
  rw [← Clock.toSeconds_ofSeconds (nanos / 1000000000 % secondsPerDay).toNat]
  simp only [clockOf, Clock.toSeconds]
  omega

end FluxCorpus
