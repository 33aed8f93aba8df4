import FluxCorpus.Proofs.Time.Timestamp
import Mathlib.Data.String.Basic

/-!
# Timestamps are in the order of time

A timestamp writes the largest unit first, and each of its numerals has a fixed width.  So its text
is in the order of its second.

* `Date.Valid.toDays_bounds` — the days of a date lie within its year.
* `Date.le_of_toDays_le`, `Clock.le_of_toSeconds_le` — **a later day has a later date**, and a later
  second of the day shows a later time.
* `secondChars_mono`, `timestamp_mono` — the text of a later second is not before that of an earlier
  one.
-/

namespace FluxCorpus

open Text (Decimal.padded)

/-! ## Dates -/

theorem daysBeforeMonth_succ (y : Int) (m : Nat) :
    daysBeforeMonth y (m + 2) = daysBeforeMonth y (m + 1) + daysInMonth y (m + 1) := by
  simp [daysBeforeMonth, List.range_succ]

theorem daysBeforeMonth_mono (y : Int) {m n : Nat} (h : m ≤ n) :
    daysBeforeMonth y m ≤ daysBeforeMonth y n := by
  refine monotone_nat_of_le_succ (fun m => ?_) h
  cases m with
  | zero => exact Nat.le_refl 0
  | succ m =>
    rw [daysBeforeMonth_succ]
    exact Nat.le_add_right _ _

theorem daysBeforeYear_mono {y z : Int} (h : y ≤ z) : daysBeforeYear y ≤ daysBeforeYear z := by
  refine monotone_int_of_le_succ (fun y => ?_) h
  rw [daysBeforeYear_succ]
  split <;> omega

/-- Behind the last month the year is over. -/
theorem daysBeforeMonth_thirteen (y : Int) :
    daysBeforeYear y + daysBeforeMonth y 13 = daysBeforeYear (y + 1) := by
  rw [daysBeforeYear_succ]
  cases h : isLeapYear y <;>
    simp [daysBeforeMonth, daysInMonth, List.range, List.range.loop, h]
  omega

namespace Date

variable {d e : Date}

/-- A date lies in its month. -/
theorem Valid.dayOfYear_lt (h : d.Valid) :
    daysBeforeMonth d.year d.month + (d.day - 1) < daysBeforeMonth d.year (d.month + 1) := by
  obtain ⟨hmonth, -, hday, hlast⟩ := h
  obtain ⟨m, hm⟩ := Nat.exists_eq_add_of_le' hmonth
  rw [hm] at hlast ⊢
  rw [daysBeforeMonth_succ]
  omega

/-- A date lies in its year. -/
theorem Valid.toDays_bounds (h : d.Valid) :
    daysBeforeYear d.year ≤ d.toDays + daysBeforeYear 1970
      ∧ d.toDays + daysBeforeYear 1970 < daysBeforeYear (d.year + 1) := by
  have hmonth := h.dayOfYear_lt
  have hyear : daysBeforeMonth d.year (d.month + 1) ≤ daysBeforeMonth d.year 13 :=
    daysBeforeMonth_mono d.year (Nat.succ_le_succ h.2.1)
  have hnext := daysBeforeMonth_thirteen d.year
  have hday := h.2.2.1
  simp only [toDays]
  omega

/-- **A later day has a later date**: a later year, or else a later month, or else a later day. -/
theorem le_of_toDays_le (hd : d.Valid) (he : e.Valid) (h : d.toDays ≤ e.toDays) :
    d.year < e.year ∨ d.year = e.year
      ∧ (d.month < e.month ∨ d.month = e.month ∧ d.day ≤ e.day) := by
  have hyear : d.year ≤ e.year := by
    by_contra hlt
    have hmono := daysBeforeYear_mono (show e.year + 1 ≤ d.year by omega)
    have := hd.toDays_bounds
    have := he.toDays_bounds
    omega
  obtain hlt | heq := Int.lt_or_eq_of_le hyear
  · exact .inl hlt
  refine .inr ⟨heq, ?_⟩
  simp only [toDays, heq] at h
  have hdfirst := hd.2.2.1
  have hmonth : d.month ≤ e.month := by
    by_contra hlt
    have hmono := daysBeforeMonth_mono e.year (show e.month + 1 ≤ d.month by omega)
    have hlast := he.dayOfYear_lt
    omega
  obtain hlt | hmonths := Nat.lt_or_eq_of_le hmonth
  · exact .inl hlt
  · rw [hmonths] at h
    exact .inr ⟨hmonths, by omega⟩

end Date

/-! ## Texts -/

/-- A later time of day shows a later hour, or else a later minute, or else a later second. -/
theorem Clock.le_of_toSeconds_le {c e : Clock} (hc : c.Valid) (he : e.Valid)
    (h : c.toSeconds ≤ e.toSeconds) : c.hour < e.hour ∨ c.hour = e.hour
      ∧ (c.minute < e.minute ∨ c.minute = e.minute ∧ c.second ≤ e.second) := by
  simp only [Clock.Valid, Clock.toSeconds] at hc he h
  omega

/-- The texts of times of day are in their order. -/
theorem Clock.chars_append_le {c e : Clock} (hc : c.Valid) (he : e.Valid)
    (h : c.toSeconds ≤ e.toSeconds) (rest : List Char) : c.chars ++ rest ≤ e.chars ++ rest := by
  have horder := le_of_toSeconds_le hc he h
  obtain ⟨hhour, hminute, hsecond⟩ := he
  simp only [chars, List.append_assoc, List.cons_append]
  refine Text.Decimal.padded_append_le (by decide) (by omega) ?_
  refine horder.imp_right (And.imp_right fun horder => List.cons_le_cons _ ?_)
  refine Text.Decimal.padded_append_le (by decide) (by omega) ?_
  refine horder.imp_right (And.imp_right fun hle => List.cons_le_cons _ ?_)
  refine Text.Decimal.padded_append_le (by decide) (by omega) ?_
  exact (Nat.lt_or_eq_of_le hle).imp_right fun heq => ⟨heq, le_rfl⟩

/-- The texts of dates are in their order, and on one date in the order of what follows. -/
theorem Date.chars_append_le {d e : Date} (hd : d.Valid) (he : e.Valid) (h0 : 0 ≤ d.year)
    (h1 : e.year ≤ 9999) (h : d.toDays ≤ e.toDays) {x y : List Char}
    (hrest : d = e → x ≤ y) : d.chars ++ x ≤ e.chars ++ y := by
  have horder := le_of_toDays_le hd he h
  have hday := daysInMonth_le e.year e.month
  obtain ⟨-, hmonth, -, hlast⟩ := he
  simp only [chars, List.append_assoc, List.cons_append]
  have hyear : d.year ≤ e.year := by omega
  rw [yearDigits, if_pos ⟨h0, by omega⟩, yearDigits, if_pos ⟨by omega, h1⟩]
  refine Text.Decimal.padded_append_le (by decide) (by omega) ?_
  rcases horder with hlt | ⟨hyears, horder⟩
  · exact .inl (by omega)
  refine .inr ⟨by rw [hyears], List.cons_le_cons _ ?_⟩
  refine Text.Decimal.padded_append_le (by decide) (by omega) ?_
  rcases horder with hlt | ⟨hmonths, hle⟩
  · exact .inl hlt
  refine .inr ⟨hmonths, List.cons_le_cons _ ?_⟩
  refine Text.Decimal.padded_append_le (by decide) (by omega) ?_
  refine (Nat.lt_or_eq_of_le hle).imp_right fun hdays => ⟨hdays, hrest ?_⟩
  obtain ⟨y, m, k⟩ := d
  cases hyears
  cases hmonths
  cases hdays
  rfl

/-- The text of a later second is not before that of an earlier one. -/
theorem secondChars_mono {t u : Int} (h0 : 0 ≤ (dateOf t).year) (h1 : (dateOf u).year ≤ 9999)
    (h : t ≤ u) : secondChars t ≤ secondChars u := by
  have hdays : (dateOf t).toDays ≤ (dateOf u).toDays := by
    rw [dateOf, dateOf, Date.toDays_ofDays, Date.toDays_ofDays]
    exact Int.ediv_le_ediv (by decide) h
  rw [secondChars, secondChars, List.append_assoc, List.append_assoc]
  refine Date.chars_append_le (Date.valid_ofDays _) (Date.valid_ofDays _) h0 h1 hdays ?_
  intro (hdate : dateOf t = dateOf u)
  refine List.cons_le_cons _ (Clock.chars_append_le (clockOf_valid t) (clockOf_valid u) ?_ ['Z'])
  -- on one day the later second has the later time of day
  have ht := dateOf_clockOf t
  have hu := dateOf_clockOf u
  rw [hdate] at ht
  omega

/-- **Timestamps are in the order of time.** -/
theorem timestamp_mono {t u : Int} (ht : Representable t) (hu : Representable u) (h : t ≤ u) :
    timestamp t ≤ timestamp u := by
  have hseconds : t / 1000000000 ≤ u / 1000000000 := Int.ediv_le_ediv (by decide) h
  rw [String.le_iff_toList_le, timestamp, timestamp, String.toList_ofList, String.toList_ofList]
  exact secondChars_mono (year_of_representable ht).1 (year_of_representable hu).2 hseconds

end FluxCorpus
