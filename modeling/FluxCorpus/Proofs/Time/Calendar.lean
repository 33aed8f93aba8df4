import FluxCorpus.Time.Calendar
import Mathlib.Tactic.IntervalCases

/-!
# Counting days both ways

`Date.ofDays` cuts a number of days into cycles, years and months; `Date.toDays` adds up the years
and months before a date by the leap-year rule.  They undo each other on all integers.

* `yearOfCycle_spec` — the year that is computed for a day of a cycle is the one whose first day is
  not after it and whose last day is not before it.
* `Date.toDays_ofDays` — no day is lost or counted twice.
* `Date.valid_ofDays` — every day has a date that the calendar has.
-/

namespace FluxCorpus

/-! ## Years -/

/-- A year has 365 days, and a leap year one more. -/
theorem daysBeforeYear_succ (y : Int) :
    daysBeforeYear (y + 1) = daysBeforeYear y + 365 + if isLeapYear y then 1 else 0 := by
  simp only [daysBeforeYear, isLeapYear, Bool.and_eq_true, Bool.or_eq_true, decide_eq_true_eq]
  split <;> omega

/-- A day of a cycle is never in an earlier year than the day before. -/
theorem yearOfCycle_le_succ (e : Int) : yearOfCycle e ≤ yearOfCycle (e + 1) := by
  have h : e - e / 1460 + e / 36524 - e / 146096
      ≤ (e + 1) - (e + 1) / 1460 + (e + 1) / 36524 - (e + 1) / 146096 := by omega
  exact Int.ediv_le_ediv (by omega) h

theorem yearOfCycle_mono {e e' : Int} (h : e ≤ e') : yearOfCycle e ≤ yearOfCycle e' :=
  monotone_int_of_le_succ yearOfCycle_le_succ h

/-- The number of days of a year that begins in March: its leap day, if it has one, is the last of
them and counts to the next year. -/
def daysFromMarch (year : Int) : Int := 365 + if isLeapYear (year + 1) then 1 else 0

theorem daysFromMarch_add_cycles (y c : Int) : daysFromMarch (y + 400 * c) = daysFromMarch y := by
  simp only [daysFromMarch, isLeapYear, Bool.and_eq_true, Bool.or_eq_true, decide_eq_true_eq]
  split <;> split <;> omega

/-- The first and the last day of every year of a cycle lie in that year. -/
theorem yearOfCycle_ends : ∀ y : Fin 400, yearOfCycle (cycleDaysBefore y) = y ∧
    yearOfCycle (cycleDaysBefore y + daysFromMarch y - 1) = y := by
  decide +kernel

/-- The next year of a cycle begins where the last one ends. -/
theorem cycleDaysBefore_succ {y : Int} (h0 : 0 ≤ y) (h1 : y < 399) :
    cycleDaysBefore (y + 1) = cycleDaysBefore y + daysFromMarch y := by
  simp only [cycleDaysBefore, daysFromMarch, isLeapYear, Bool.and_eq_true, Bool.or_eq_true,
    decide_eq_true_eq]
  split <;> omega

theorem yearOfCycle_bounds {e : Int} (h0 : 0 ≤ e) (h1 : e < 146097) :
    0 ≤ yearOfCycle e ∧ yearOfCycle e < 400 := by
  have hlow : yearOfCycle 0 ≤ yearOfCycle e := yearOfCycle_mono h0
  have hhigh : yearOfCycle e ≤ yearOfCycle 146096 := yearOfCycle_mono (by omega)
  have hfirst : yearOfCycle 0 = 0 := by decide
  have hlast : yearOfCycle 146096 = 399 := by decide
  omega

/-- **The year of a day is the right one**: its first day is not after the day, and its last day is
not before it. -/
theorem yearOfCycle_spec {e : Int} (h0 : 0 ≤ e) (h1 : e < 146097) :
    cycleDaysBefore (yearOfCycle e) ≤ e ∧
      e < cycleDaysBefore (yearOfCycle e) + daysFromMarch (yearOfCycle e) := by
  obtain ⟨hy0, hy1⟩ := yearOfCycle_bounds h0 h1
  have ends : ∀ y : Int, 0 ≤ y → y < 400 → yearOfCycle (cycleDaysBefore y) = y ∧
      yearOfCycle (cycleDaysBefore y + daysFromMarch y - 1) = y := by
    intro y hy hy'
    have h := yearOfCycle_ends ⟨y.toNat, by omega⟩
    rwa [show ((⟨y.toNat, by omega⟩ : Fin 400) : Int) = y from Int.toNat_of_nonneg hy] at h
  set y := yearOfCycle e with hy
  constructor
  · by_contra hlt
    -- the day would lie in the year before, or before the cycle
    rcases Int.lt_or_eq_of_le hy0 with hpos | hzero
    · have hprev := cycleDaysBefore_succ (y := y - 1) (by omega) (by omega)
      rw [Int.sub_add_cancel] at hprev
      have hle : yearOfCycle e ≤ yearOfCycle
          (cycleDaysBefore (y - 1) + daysFromMarch (y - 1) - 1) := yearOfCycle_mono (by omega)
      rw [(ends (y - 1) (by omega) (by omega)).2] at hle
      omega
    · rw [← hzero] at hlt
      exact hlt h0
  · by_contra hge
    -- the day would lie in the year after, or after the cycle
    by_cases hlast : y = 399
    · rw [hlast] at hge
      have : cycleDaysBefore 399 + daysFromMarch 399 = 146097 := by decide
      omega
    · have hnext := cycleDaysBefore_succ hy0 (by omega)
      have hle : yearOfCycle (cycleDaysBefore (y + 1)) ≤ yearOfCycle e :=
        yearOfCycle_mono (by omega)
      rw [(ends (y + 1) (by omega) (by omega)).1] at hle
      omega

/-! ## Months -/

/-- From March on, the first days of the months lie on a straight line, rounded down: five months
have 153 days. -/
theorem daysBeforeMonth_fromMarch (y : Int) (m : Nat) (h : m < 10) :
    daysBeforeMonth y (m + 3) = (153 * m + 2) / 5 + 59 + (if isLeapYear y then 1 else 0) ∧
      daysInMonth y (m + 3) = (153 * (m + 1) + 2) / 5 - (153 * m + 2) / 5 := by
  cases hy : isLeapYear y <;> interval_cases m <;>
    simp [daysBeforeMonth, daysInMonth, List.range, List.range.loop, hy]

namespace Date

/-- A day of a year from March on, as a date and back to a number of days. -/
theorem ofMarchDay_spec {y d : Int} (h0 : 0 ≤ d) (h1 : d < daysFromMarch y) :
    (ofMarchDay y d).Valid ∧
      (ofMarchDay y d).toDays = daysBeforeYear (y + 1) - 306 + d - daysBeforeYear 1970 := by
  have hsucc := daysBeforeYear_succ y
  simp only [daysFromMarch] at h1
  obtain ⟨m, hm⟩ : ∃ m : Nat, (m : Int) = (5 * d + 2) / 153 := ⟨((5 * d + 2) / 153).toNat, by omega⟩
  simp only [ofMarchDay, ← hm]
  by_cases hlt : m < 10
  · -- March to December
    obtain ⟨hbefore, hlength⟩ := daysBeforeMonth_fromMarch y m hlt
    have hfirst : ((153 * m + 2) / 5 : Nat) ≤ d := by omega
    have hlast : d < ((153 * (m + 1) + 2) / 5 : Nat) := by omega
    have hday : (d - (153 * (m : Int) + 2) / 5 + 1).toNat = d - ((153 * m + 2) / 5 : Nat) + 1 := by
      omega
    rw [if_pos (by omega), show ((m : Int) + 3).toNat = m + 3 by omega]
    simp only [Valid, toDays, hbefore, hlength]
    constructor
    · omega
    · push_cast at hday ⊢
      rw [hday]
      split at hsucc <;> simp_all <;> omega
  · -- January and February of the year after
    have hm12 : m = 10 ∨ m = 11 := by split at h1 <;> omega
    rcases hm12 with rfl | rfl
    · simp [Valid, toDays, daysBeforeMonth, daysInMonth, List.range, List.range.loop]
      omega
    · simp [Valid, toDays, daysBeforeMonth, daysInMonth, List.range, List.range.loop]
      split at h1 <;> simp_all <;> omega

/-! ## The calendar as a whole -/

/-- The cycle, the year and the day of the year that `ofDays` splits a number of days into. -/
theorem ofDays_spec (n : Int) : (ofDays n).Valid ∧ (ofDays n).toDays = n := by
  have h0 : 0 ≤ (n + 719468) % 146097 := Int.emod_nonneg _ (by decide)
  have h1 : (n + 719468) % 146097 < 146097 := Int.emod_lt_of_pos _ (by decide)
  obtain ⟨hfirst, hlast⟩ := yearOfCycle_spec h0 h1
  obtain ⟨hy0, hy1⟩ := yearOfCycle_bounds h0 h1
  have hday : (n + 719468) % 146097 - cycleDaysBefore (yearOfCycle ((n + 719468) % 146097))
      < daysFromMarch (yearOfCycle ((n + 719468) % 146097) + 400 * ((n + 719468) / 146097)) := by
    rw [daysFromMarch_add_cycles]
    omega
  obtain ⟨hvalid, hdays⟩ := ofMarchDay_spec (Int.sub_nonneg.2 hfirst) hday
  refine ⟨hvalid, hdays.trans ?_⟩
  simp only [cycleDaysBefore, daysBeforeYear]
  omega

/-- Every day has a date that the calendar has. -/
theorem valid_ofDays (n : Int) : (ofDays n).Valid := (ofDays_spec n).1

/-- **Going to a date and back is the identity** on the days of all time. -/
theorem toDays_ofDays (n : Int) : (ofDays n).toDays = n := (ofDays_spec n).2

end Date

end FluxCorpus
