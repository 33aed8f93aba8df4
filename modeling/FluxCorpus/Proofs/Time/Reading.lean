import FluxCorpus.Proofs.Time.Order

/-!
# What a timestamp that is read denotes

A timestamp may leave out its zone, its fraction, or both, and a second 60 counts as 59.  Apart from
that it denotes the second that `readSecond?` finds in it, and the whole nanoseconds of its fraction.

* `Instant.IsFraction` — what stands behind the seconds, with the nanoseconds that it denotes.
* `Instant.worth_eq` — digits that are worth less and less add up to the fraction, rounded down.
* `Instant.DenotedBy` — the instant that a text denotes.
* `Instant.parse?_eq_some_iff` — **a timestamp is read if and only if it denotes an instant**, and as
  this instant.
-/

namespace FluxCorpus

open Text (Decimal.nat? Decimal.IsNumeral byteLength)

theorem Text.byteLength_eq_sum (cs : List Char) : byteLength cs = (cs.map Char.utf8Size).sum := by
  have hfrom (n : Nat) : cs.foldl (fun n c => n + c.utf8Size) n = n + (cs.map Char.utf8Size).sum := by
    induction cs generalizing n with
    | nil => rfl
    | cons c cs ih => rw [List.foldl_cons, ih, List.map_cons, List.sum_cons, Nat.add_assoc]
  rw [byteLength, hfrom, Nat.zero_add]

namespace Instant

/-! ## Behind the seconds -/

/-- What may end a fraction: nothing, the letter of universal time, or a plus sign with five bytes
that are not looked at. -/
def IsZone (cs : List Char) : Prop :=
  cs = [] ∨ cs = ['Z'] ∨ ∃ bytes, cs = '+' :: bytes ∧ (bytes.map Char.utf8Size).sum = 5

/-- What may stand behind the seconds of a timestamp, and the nanoseconds that it denotes: those of
the digits behind a point, rounded down. -/
inductive IsFraction : List Char → Nat → Prop
  | none : IsFraction [] 0
  | letter {bytes : List Char} : (bytes.map Char.utf8Size).sum ≤ 5 → IsFraction ('Z' :: bytes) 0
  | offset : IsFraction ['+', '0', '0', ':', '0', '0'] 0
  | digits {ds : List Nat} {zone : List Char} : (∀ d ∈ ds, d < 10) → IsZone zone →
    IsFraction ('.' :: (ds.map Nat.digitChar ++ zone))
      (Nat.ofDigits 10 ds.reverse * 1000000000 / 10 ^ ds.length)

/-- What digits add up to if the first one is worth a unit, and every other one a tenth of the one
before. -/
def worth : Nat → List Nat → Nat
  | _, [] => 0
  | unit, d :: ds => unit * d + worth (unit / 10) ds

/-- A digit in front of others adds its part to theirs.  Behind nine digits it has none, and neither
have the others. -/
theorem unit_mul_add {d v n k : Nat} (hd : d < 10) (hv : v < 10 ^ n) :
    1000000000 / 10 ^ (k + 1) * d + v * 1000000000 / (10 ^ (k + 1) * 10 ^ n)
      = (v + d * 10 ^ n) * 1000000000 / (10 ^ (k + 1) * 10 ^ n) := by
  have hpos : 0 < 10 ^ (k + 1) * 10 ^ n := by positivity
  rcases Nat.lt_or_ge k 9 with hk | hk
  · -- the unit is a whole number of nanoseconds
    obtain ⟨unit, hwhole⟩ : 10 ^ (k + 1) ∣ 10 ^ 9 := pow_dvd_pow 10 hk
    have hwhole : 1000000000 = 10 ^ (k + 1) * unit := hwhole
    have hsum : (v + d * 10 ^ n) * 1000000000
        = v * 1000000000 + unit * d * (10 ^ (k + 1) * 10 ^ n) := by
      rw [hwhole]
      ring
    have hunit : 1000000000 / 10 ^ (k + 1) = unit := by
      rw [hwhole, Nat.mul_div_cancel_left _ (by positivity)]
    rw [hsum, Nat.add_mul_div_right _ _ hpos, hunit, Nat.add_comm]
  · -- all of it is less than a nanosecond
    have hsmall : 1000000000 * 10 ≤ 10 ^ (k + 1) :=
      Nat.pow_le_pow_right (n := 10) (by decide) (show 9 + 1 ≤ k + 1 by omega)
    have hunit : 1000000000 < 10 ^ (k + 1) := lt_of_lt_of_le (by decide) hsmall
    have hdigits : v + d * 10 ^ n < 10 * 10 ^ n := by
      have := Nat.mul_le_mul_right (10 ^ n) (Nat.le_of_lt_succ hd)
      omega
    have hall : (v + d * 10 ^ n) * 1000000000 < 10 ^ (k + 1) * 10 ^ n :=
      calc _ < 10 * 10 ^ n * 1000000000 := Nat.mul_lt_mul_of_pos_right hdigits (by decide)
        _ = 1000000000 * 10 * 10 ^ n := by ring
        _ ≤ 10 ^ (k + 1) * 10 ^ n := Nat.mul_le_mul_right _ hsmall
    have hothers : v * 1000000000 < 10 ^ (k + 1) * 10 ^ n :=
      lt_of_le_of_lt (Nat.mul_le_mul_right _ (Nat.le_add_right ..)) hall
    rw [Nat.div_eq_of_lt hall, Nat.div_eq_of_lt hothers, Nat.div_eq_of_lt hunit, Nat.zero_mul]

/-- Behind `k` digits of a fraction, the others add up to their part of it, rounded down. -/
theorem worth_eq {ds : List Nat} (h : ∀ d ∈ ds, d < 10) (k : Nat) :
    worth (1000000000 / 10 ^ (k + 1)) ds
      = Nat.ofDigits 10 ds.reverse * 1000000000 / 10 ^ (k + ds.length) := by
  induction ds generalizing k with
  | nil => simp [worth]
  | cons d ds ih =>
    rw [List.forall_mem_cons] at h
    have hunit : 1000000000 / 10 ^ (k + 1) / 10 = 1000000000 / 10 ^ (k + 1 + 1) := by
      rw [Nat.div_div_eq_div_mul, ← pow_succ]
    have hothers : Nat.ofDigits 10 ds.reverse < 10 ^ ds.length := by
      have := Nat.ofDigits_lt_base_pow_length (b := 10) (l := ds.reverse) (by decide)
        (by simpa using h.2)
      rwa [List.length_reverse] at this
    have hall : Nat.ofDigits 10 (d :: ds).reverse
        = Nat.ofDigits 10 ds.reverse + d * 10 ^ ds.length := by
      rw [List.reverse_cons, Nat.ofDigits_append, Nat.ofDigits_singleton, List.length_reverse,
        Nat.mul_comm]
    have hlength : k + (d :: ds).length = k + 1 + ds.length := by
      rw [List.length_cons]
      omega
    rw [worth, hunit, ih h.2 (k + 1), hall, hlength, pow_add 10 (k + 1), unit_mul_add h.1 hothers]

/-- The digits of a fraction are worth all of it, rounded down. -/
theorem worth_first {ds : List Nat} (h : ∀ d ∈ ds, d < 10) :
    worth 100000000 ds = Nat.ofDigits 10 ds.reverse * 1000000000 / 10 ^ ds.length := by
  have hworth := worth_eq h 0
  rwa [Nat.zero_add, Nat.zero_add] at hworth

/-- A digit is none of the other signs in a fraction, and worth its number. -/
theorem digitChar_spec {d : Nat} (h : d < 10) : Nat.digitChar d ≠ 'Z' ∧ Nat.digitChar d ≠ '+'
    ∧ (Nat.digitChar d).isDigit = true ∧ (Nat.digitChar d).toNat - 48 = d := by
  have all : ∀ d : Fin 10, Nat.digitChar d ≠ 'Z' ∧ Nat.digitChar d ≠ '+'
    ∧ (Nat.digitChar d).isDigit = true ∧ (Nat.digitChar d).toNat - 48 = d := by decide
  exact all ⟨d, h⟩

/-- A fraction is read digit by digit, up to where its zone may begin. -/
theorem fraction?_eq_some_iff {unit n : Nat} {cs : List Char} : fraction? unit cs = some n ↔
    ∃ (ds : List Nat) (zone : List Char), (∀ d ∈ ds, d < 10) ∧ IsZone zone
      ∧ cs = ds.map Nat.digitChar ++ zone ∧ n = worth unit ds := by
  constructor
  · intro h
    induction cs generalizing unit n with
    | nil =>
      cases h
      exact ⟨[], [], by simp, .inl rfl, rfl, rfl⟩
    | cons c cs ih =>
      rw [fraction?.eq_def] at h
      split at h
      · next heq => cases heq
      · next heq =>
        cases h
        exact ⟨[], _, by simp, .inr (.inl rfl), heq, rfl⟩
      · next heq =>
        cases heq
        split_ifs at h with hplus hbytes hdigit
        · cases h
          rw [Text.byteLength_eq_sum] at hbytes
          exact ⟨[], _, by simp, .inr (.inr ⟨cs, rfl, hbytes⟩), by rw [hplus]; rfl, rfl⟩
        · obtain ⟨m, hm, rfl⟩ := Option.map_eq_some_iff.1 h
          obtain ⟨ds, zone, hds, hzone, rfl, rfl⟩ := ih hm
          obtain ⟨d, hd, rfl⟩ := Text.Decimal.exists_digitChar hdigit
          refine ⟨d :: ds, zone, List.forall_mem_cons.2 ⟨hd, hds⟩, hzone, rfl, ?_⟩
          rw [(digitChar_spec hd).2.2.2, worth]
  · rintro ⟨ds, zone, hds, hzone, rfl, rfl⟩
    induction ds generalizing unit with
    | nil =>
      rcases hzone with rfl | rfl | ⟨bytes, rfl, hbytes⟩
      · rfl
      · rfl
      · rw [← Text.byteLength_eq_sum] at hbytes
        simp [fraction?, hbytes, worth]
    | cons d ds ih =>
      rw [List.forall_mem_cons] at hds
      obtain ⟨hZ, hplus, hdigit, hvalue⟩ := digitChar_spec hds.1
      simp [fraction?, hZ, hplus, hdigit, hvalue, ih hds.2, worth]

/-- What stands behind the seconds is read if and only if it denotes nanoseconds. -/
theorem tail?_eq_some_iff {n : Nat} {cs : List Char} : tail? cs = some n ↔ IsFraction cs n := by
  constructor
  · intro h
    unfold tail? at h
    split at h
    · cases h
      exact .none
    · obtain ⟨ds, zone, hds, hzone, rfl, rfl⟩ := fraction?_eq_some_iff.1 h
      rw [worth_first hds]
      exact .digits hds hzone
    · split_ifs at h with hbytes
      cases h
      rw [Text.byteLength_eq_sum] at hbytes
      exact .letter hbytes
    · split_ifs at h with hoffset
      cases h
      rw [hoffset]
      exact .offset
  · rintro (_ | hbytes | _ | ⟨hds, hzone⟩)
    · rfl
    · rw [← Text.byteLength_eq_sum] at hbytes
      simp [tail?, hbytes]
    · rfl
    · rw [← worth_first hds]
      exact fraction?_eq_some_iff.2 ⟨_, _, hds, hzone, rfl, rfl⟩

/-! ## The date and the time of day -/

/-- A text `YYYY-MM-DD` shows a date. -/
def ShowsDate (cs : List Char) (d : Date) : Prop :=
  ∃ y₁ y₂ y₃ y₄ m₁ m₂ d₁ d₂, cs = [y₁, y₂, y₃, y₄, '-', m₁, m₂, '-', d₁, d₂]
    ∧ (∃ year : Nat, Decimal.nat? [y₁, y₂, y₃, y₄] = some year ∧ d.year = year)
    ∧ Decimal.nat? [m₁, m₂] = some d.month ∧ Decimal.nat? [d₁, d₂] = some d.day

/-- A text `HH:MM:SS` shows a time of day. -/
def ShowsClock (cs : List Char) (c : Clock) : Prop :=
  ∃ h₁ h₂ n₁ n₂ s₁ s₂, cs = [h₁, h₂, ':', n₁, n₂, ':', s₁, s₂]
    ∧ Decimal.nat? [h₁, h₂] = some c.hour ∧ Decimal.nat? [n₁, n₂] = some c.minute
    ∧ Decimal.nat? [s₁, s₂] = some c.second

/-- A second is that of the date and the time of day that a text shows. -/
theorem readSecond?_eq_some_iff {cs : List Char} {x : Int} : readSecond? cs = some x ↔
    ∃ date clock d c, cs = date ++ 'T' :: (clock ++ ['Z']) ∧ ShowsDate date d ∧ ShowsClock clock c
      ∧ d.Valid ∧ c.Valid ∧ x = d.toDays * secondsPerDay + c.toSeconds := by
  constructor
  · intro h
    unfold readSecond? at h
    split at h
    · next y₁ y₂ y₃ y₄ m₁ m₂ d₁ d₂ h₁ h₂ n₁ n₂ s₁ s₂ =>
      simp only [Option.bind_eq_bind, Option.bind_eq_some_iff, Option.guard_eq_some'] at h
      obtain ⟨year, hyear, month, hmonth, day, hday, hour, hhour, minute, hminute, second, hsecond,
        _, ⟨hdate, hclock⟩, heq⟩ := h
      refine ⟨[y₁, y₂, y₃, y₄, '-', m₁, m₂, '-', d₁, d₂], [h₁, h₂, ':', n₁, n₂, ':', s₁, s₂],
        ⟨year, month, day⟩, ⟨hour, minute, second⟩, rfl,
        ⟨y₁, y₂, y₃, y₄, m₁, m₂, d₁, d₂, rfl, ⟨year, hyear, rfl⟩, hmonth, hday⟩,
        ⟨h₁, h₂, n₁, n₂, s₁, s₂, rfl, hhour, hminute, hsecond⟩, hdate, hclock, ?_⟩
      exact (Option.some.inj heq).symm
    · cases h
  · rintro ⟨_, _, ⟨_, month, day⟩, ⟨hour, minute, second⟩, rfl,
      ⟨y₁, y₂, y₃, y₄, m₁, m₂, d₁, d₂, rfl, ⟨year, hyear, rfl⟩, hmonth, hday⟩,
      ⟨h₁, h₂, n₁, n₂, s₁, s₂, rfl, hhour, hminute, hsecond⟩, hdate, hclock, rfl⟩
    simp only [readSecond?, List.cons_append, List.nil_append, Option.bind_eq_bind,
      Option.bind_eq_some_iff, Option.guard_eq_some']
    exact ⟨year, hyear, month, hmonth, day, hday, hour, hhour, minute, hminute, second, hsecond, (),
      ⟨hdate, hclock⟩, rfl⟩

/-- A timestamp is read in its parts: a date, a separator, a time of day, and what stands behind. -/
theorem parseChars?_eq_some_iff {cs : List Char} {t : Instant} : parseChars? cs = some t ↔
    ∃ date separator clock rest d c nanos, cs = date ++ separator :: (clock ++ rest)
      ∧ (separator = 'T' ∨ separator = ' ') ∧ ShowsDate date d ∧ ShowsClock clock c
      ∧ tail? rest = some nanos ∧ ofParts? d c nanos = some t := by
  constructor
  · intro h
    unfold parseChars? at h
    split at h
    · next y₁ y₂ y₃ y₄ m₁ m₂ d₁ d₂ separator h₁ h₂ n₁ n₂ s₁ s₂ rest =>
      simp only [Option.bind_eq_bind, Option.bind_eq_some_iff, Option.guard_eq_some'] at h
      obtain ⟨_, hseparator, century, hcentury, year, hyear, month, hmonth, day, hday, hour, hhour,
        minute, hminute, second, hsecond, nanos, hnanos, hparts⟩ := h
      exact ⟨[y₁, y₂, y₃, y₄, '-', m₁, m₂, '-', d₁, d₂], separator,
        [h₁, h₂, ':', n₁, n₂, ':', s₁, s₂], rest, ⟨(century * 100 + year : Nat), month, day⟩,
        ⟨hour, minute, second⟩, nanos, rfl, hseparator,
        ⟨y₁, y₂, y₃, y₄, m₁, m₂, d₁, d₂, rfl,
          ⟨_, Text.Decimal.nat?_append_of hcentury hyear, rfl⟩, hmonth, hday⟩,
        ⟨h₁, h₂, n₁, n₂, s₁, s₂, rfl, hhour, hminute, hsecond⟩, hnanos, hparts⟩
    · cases h
  · rintro ⟨_, separator, _, rest, ⟨_, month, day⟩, ⟨hour, minute, second⟩, nanos, rfl, hseparator,
      ⟨y₁, y₂, y₃, y₄, m₁, m₂, d₁, d₂, rfl, ⟨year, hyear, rfl⟩, hmonth, hday⟩,
      ⟨h₁, h₂, n₁, n₂, s₁, s₂, rfl, hhour, hminute, hsecond⟩, hnanos, hparts⟩
    obtain ⟨century, year, hcentury, hyear', rfl⟩ :=
      Text.Decimal.nat?_append (a := [y₁, y₂]) (b := [y₃, y₄]) (by simp) (by simp) hyear
    simp only [List.cons_append, List.nil_append, parseChars?, Option.bind_eq_bind,
      Option.bind_eq_some_iff, Option.guard_eq_some']
    exact ⟨(), hseparator, century, hcentury, year, hyear', month, hmonth, day, hday, hour, hhour,
      minute, hminute, second, hsecond, nanos, hnanos, hparts⟩

/-- A date and a time of day are not before 1970 if the year is not. -/
theorem le_year_iff {d : Date} {c : Clock} (hd : d.Valid) (hc : c.Valid) :
    1970 ≤ d.year ↔ 0 ≤ d.toDays * secondsPerDay + c.toSeconds := by
  obtain ⟨hfirst, hlast⟩ := hd.toDays_bounds
  obtain ⟨hhour, hminute, hsecond⟩ := hc
  simp only [secondsPerDay, Clock.toSeconds]
  constructor
  · intro h
    have := daysBeforeYear_mono h
    omega
  · intro h
    by_contra hlt
    have := daysBeforeYear_mono (show d.year + 1 ≤ 1970 by omega)
    omega

/-! ## The whole -/

/-- The second of a timestamp, of which 60 counts as 59. -/
def ordinary (second : List Char) : List Char := if second = ['6', '0'] then ['5', '9'] else second

theorem length_ordinary (second : List Char) : (ordinary second).length = second.length := by
  rw [ordinary]
  split
  · next h => rw [h]; rfl
  · rfl

theorem nat?_ordinary {a b : Char} {k : Nat} : Decimal.nat? (ordinary [a, b]) = some k ∧ k ≤ 59 ↔
    ∃ m, Decimal.nat? [a, b] = some m ∧ m ≤ 60 ∧ k = min m 59 := by
  have hsixty : Decimal.nat? ['6', '0'] = some 60 := by decide
  have hlast : Decimal.nat? ['5', '9'] = some 59 := by decide
  by_cases hleap : [a, b] = ['6', '0']
  · rw [ordinary, if_pos hleap, hleap, hsixty, hlast]
    constructor
    · rintro ⟨⟨⟩, -⟩
      exact ⟨60, rfl, le_rfl, rfl⟩
    · rintro ⟨m, ⟨⟩, -, rfl⟩
      exact ⟨rfl, le_rfl⟩
  · rw [ordinary, if_neg hleap]
    constructor
    · rintro ⟨hk, hle⟩
      exact ⟨k, hk, by omega, by omega⟩
    · rintro ⟨m, hm, hle, rfl⟩
      have hne : m ≠ 60 := by
        rintro rfl
        exact hleap (Text.Decimal.nat?_injective rfl hm hsixty)
      have hmin : min m 59 = m := by omega
      rw [hmin]
      exact ⟨hm, by omega⟩

/-- A text denotes an instant: a date, a `T` or a blank, a time of day that is not before 1970, and
what may stand behind. -/
def DenotedBy (t : Instant) (s : String) : Prop :=
  ∃ (date hours second rest : List Char) (separator : Char),
    s.toList = date ++ separator :: (hours ++ second ++ rest)
    ∧ date.length = 10 ∧ hours.length = 6 ∧ second.length = 2
    ∧ (separator = 'T' ∨ separator = ' ')
    ∧ 0 ≤ t.seconds
    ∧ readSecond? (date ++ 'T' :: (hours ++ ordinary second ++ ['Z'])) = some t.seconds
    ∧ IsFraction rest t.nanos

theorem ShowsDate.length_eq {cs : List Char} {d : Date} (h : ShowsDate cs d) : cs.length = 10 := by
  obtain ⟨y₁, y₂, y₃, y₄, m₁, m₂, d₁, d₂, rfl, -⟩ := h
  rfl

/-- **A timestamp is read if and only if it denotes an instant**, and as this instant. -/
theorem parse?_eq_some_iff {s : String} {t : Instant} : parse? s = some t ↔ t.DenotedBy s := by
  rw [parse?, parseChars?_eq_some_iff]
  constructor
  · rintro ⟨date, separator, _, rest, d, c, nanos, hs, hseparator, hdate,
      ⟨h₁, h₂, n₁, n₂, s₁, s₂, rfl, hhour, hminute, hsecond⟩, hrest, hparts⟩
    rw [ofParts?, Option.ite_none_right_eq_some] at hparts
    obtain ⟨⟨hyear, hd, hhours, hminutes, hseconds⟩, heq⟩ := hparts
    cases heq
    have hc : Clock.Valid { c with second := min c.second 59 } :=
      ⟨hhours, hminutes, Nat.min_le_right ..⟩
    have hordinary := (nat?_ordinary.2 ⟨c.second, hsecond, hseconds, rfl⟩).1
    obtain ⟨a, b, hab⟩ := List.length_eq_two.1 (length_ordinary [s₁, s₂])
    rw [hab] at hordinary
    refine ⟨date, [h₁, h₂, ':', n₁, n₂, ':'], [s₁, s₂], rest, separator, hs, hdate.length_eq, rfl, rfl,
      hseparator, (le_year_iff hd hc).1 hyear, ?_, tail?_eq_some_iff.1 hrest⟩
    rw [hab]
    exact readSecond?_eq_some_iff.2 ⟨date, _, d, { c with second := min c.second 59 }, rfl, hdate,
      ⟨h₁, h₂, n₁, n₂, a, b, rfl, hhour, hminute, hordinary⟩, hd, hc, rfl⟩
  · rintro ⟨date, hours, second, rest, separator, hs, hten, hsix, htwo, hseparator, hnonneg, hread,
      hrest⟩
    obtain ⟨date', clock, d, c, heq, hdate, hclock, hd, hc, hseconds⟩ :=
      readSecond?_eq_some_iff.1 hread
    obtain ⟨rfl, htail⟩ := List.append_inj heq (hten.trans hdate.length_eq.symm)
    obtain rfl := List.append_cancel_right (List.cons.inj htail).2
    obtain ⟨s₁, s₂, rfl⟩ := List.length_eq_two.1 htwo
    obtain ⟨a, b, hab⟩ := List.length_eq_two.1 (length_ordinary [s₁, s₂])
    rw [hab] at hclock
    obtain ⟨h₁, h₂, n₁, n₂, a', b', hform, hhour, hminute, hsecond⟩ := hclock
    have hform : hours ++ [a, b] = [h₁, h₂, ':', n₁, n₂, ':'] ++ [a', b'] := hform
    obtain ⟨rfl, hlast⟩ := List.append_inj hform hsix
    rw [← hlast, ← hab] at hsecond
    obtain ⟨m, hm, hle, hmin⟩ := nat?_ordinary.1 ⟨hsecond, hc.2.2⟩
    refine ⟨date, separator, _, rest, d, ⟨c.hour, c.minute, m⟩, t.nanos, hs, hseparator, hdate,
      ⟨h₁, h₂, n₁, n₂, s₁, s₂, rfl, hhour, hminute, hm⟩, tail?_eq_some_iff.2 hrest, ?_⟩
    have hyear : 1970 ≤ d.year := (le_year_iff hd hc).2 (hseconds ▸ hnonneg)
    have hclock : c = ⟨c.hour, c.minute, min m 59⟩ := by rw [← hmin]
    rw [ofParts?, if_pos ⟨hyear, hd, hc.1, hc.2.1, hle⟩]
    dsimp only
    rw [← hclock, ← hseconds]

end Instant

end FluxCorpus
