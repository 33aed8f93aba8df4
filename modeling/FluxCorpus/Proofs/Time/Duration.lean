import FluxCorpus.Proofs.Time.Quantities
import FluxCorpus.Time.Duration
import Mathlib.Data.List.DropRight

/-!
# The text of a length of time

The text of a length of time is a row of quantities that add up to it, and it is the canonical one.

* `parts` — the quantities of a number of nanoseconds; `chars_eq` — the text is made of them.
* `total_parts`, `canonical_parts` — they add up to the number, and are canonical.
* `Canonical.eq_parts` — nothing else that is canonical adds up to it.
* `canonical_render` — **the text of a length of time has the length, in the one canonical form.**
-/

namespace FluxCorpus.Duration

open Text (Decimal.digits Decimal.padded Decimal.value)

/-! ## The quantities of a length -/

/-- The digits behind the point of `n / 10 ^ places`, if there are any. -/
def trimmed (places n : Nat) : Option (List Char) :=
  if n % 10 ^ places = 0 then none
  else some ((Decimal.padded places (n % 10 ^ places)).rdropWhile (· = '0'))

/-- A number of units, and the part of one that is behind the point of `n / 10 ^ places`. -/
def written (units places n : Nat) (unit : TimeUnit) : Quantity :=
  ⟨Decimal.digits units, trimmed places n, unit⟩

/-- A number of units without a point. -/
def counted (units : Nat) (unit : TimeUnit) : Quantity := written units 0 0 unit

/-- The seconds that do not fill up a minute, of a number of nanoseconds. -/
def lastSeconds (n : Nat) : Quantity := written (n / 1000000000 % 60) 9 n .seconds

/-- The quantities of a number of nanoseconds. -/
def parts (n : Nat) : List Quantity :=
  if n = 0 then [⟨['0'], none, .seconds⟩]
  else if n < 1000 then [written n 0 n .nanoseconds]
  else if n < 1000000 then [written (n / 1000) 3 n .microseconds]
  else if n < 1000000000 then [written (n / 1000000) 6 n .milliseconds]
  else if n / 1000000000 < 60 then [lastSeconds n]
  else if n / 1000000000 < 3600 then
    [counted (n / 1000000000 / 60) .minutes, lastSeconds n]
  else
    [counted (n / 1000000000 / 3600) .hours, counted (n / 1000000000 / 60 % 60) .minutes,
      lastSeconds n]

theorem fraction_eq (places n : Nat) :
    fraction places n = (trimmed places n).elim [] ('.' :: ·) := by
  rw [fraction, trimmed]
  change (if n % 10 ^ places = 0 then _ else _) = _
  split_ifs <;> rfl

theorem inUnits_eq (places n : Nat) (unit : TimeUnit) :
    inUnits places n unit.symbol = (written (n / 10 ^ places) places n unit).chars := by
  rw [inUnits, fraction_eq, List.append_assoc]
  rfl

theorem chars_counted (units : Nat) (unit : TimeUnit) :
    (counted units unit).chars = Decimal.digits units ++ unit.symbol := rfl

/-- The text of a length of time is made of its quantities. -/
theorem chars_eq (d : Duration) : d.chars = (parts d.nanos).flatMap Quantity.chars := by
  have hlast : ∀ lead : List Char, lead ++ Decimal.digits (d.nanos / nanosPerSecond % 60)
      ++ fraction 9 d.nanos ++ ['s'] = lead ++ (lastSeconds d.nanos).chars := by
    intro lead
    rw [fraction_eq, List.append_assoc, List.append_assoc]
    rfl
  rw [chars, parts]
  dsimp only
  by_cases h0 : d.nanos = 0
  · rw [if_pos h0, if_pos h0]
    rfl
  rw [if_neg h0, if_neg h0]
  by_cases h1 : d.nanos < 1000
  · have hunits := inUnits_eq 0 d.nanos .nanoseconds
    rw [Nat.pow_zero, Nat.div_one] at hunits
    rw [if_pos h1, if_pos h1, List.flatMap_singleton, ← hunits]
    rfl
  rw [if_neg h1, if_neg h1]
  by_cases h2 : d.nanos < 1000000
  · rw [if_pos h2, if_pos h2, List.flatMap_singleton]
    exact inUnits_eq 3 d.nanos .microseconds
  rw [if_neg h2, if_neg h2]
  by_cases h3 : d.nanos < 1000000000
  · rw [if_pos h3, if_pos h3, List.flatMap_singleton]
    exact inUnits_eq 6 d.nanos .milliseconds
  rw [if_neg h3, if_neg h3, hlast, show nanosPerSecond = 1000000000 from rfl]
  by_cases h4 : d.nanos / 1000000000 < 60
  · rw [if_neg (by omega), if_neg (by omega), if_pos h4, List.flatMap_singleton, List.nil_append]
  rw [if_neg h4]
  by_cases h5 : d.nanos / 1000000000 < 3600
  · rw [if_neg (by omega), if_pos (by omega), if_pos h5, Nat.mod_eq_of_lt (by omega)]
    simp [chars_counted, TimeUnit.symbol]
  · rw [if_pos (by omega), if_neg h5]
    simp [chars_counted, TimeUnit.symbol]

/-! ## What the quantities of a length add up to -/

/-- What is left of a run of digits without the zeros at its end. -/
theorem exists_rdropWhile_zeros (ds : List Char) :
    ∃ k, ds.rdropWhile (· = '0') ++ List.replicate k '0' = ds := by
  refine ⟨(ds.rtakeWhile (· = '0')).length, ?_⟩
  have hzeros : ds.rtakeWhile (· = '0')
      = List.replicate (ds.rtakeWhile (· = '0')).length '0' := by
    rw [List.eq_replicate_iff]
    exact ⟨rfl, fun c hc => by simpa using List.mem_rtakeWhile_imp hc⟩
  rw [← hzeros, List.rdropWhile_append_rtakeWhile]

theorem elim_trimmed (places n : Nat) :
    (trimmed places n).elim 0 behindPoint = ((n % 10 ^ places : Nat) : ℚ) / 10 ^ places := by
  rw [trimmed]
  split_ifs with h
  · simp [h]
  · have hplaces : 0 < places := by
      rcases Nat.eq_zero_or_pos places with rfl | hpos
      · exact absurd (Nat.mod_one n) h
      · exact hpos
    obtain ⟨k, hk⟩ := exists_rdropWhile_zeros (Decimal.padded places (n % 10 ^ places))
    rw [Option.elim_some, ← behindPoint_append_zeros _ k, hk, behindPoint,
      Text.Decimal.value_padded, Text.Decimal.length_padded hplaces (Nat.mod_lt _ (by positivity))]

theorem trimmed_of_mem {places n : Nat} {ds : List Char} (h : ds ∈ trimmed places n) :
    Trimmed ds := by
  have hvalue := elim_trimmed places n
  rw [Option.mem_def.1 h, Option.elim_some] at hvalue
  rw [trimmed, Option.mem_def, Option.ite_none_left_eq_some, Option.some.injEq] at h
  obtain ⟨hrest, rfl⟩ := h
  have hne : (Decimal.padded places (n % 10 ^ places)).rdropWhile (· = '0') ≠ [] := by
    intro hnil
    rw [hnil] at hvalue
    have hpos : (0 : ℚ) < ((n % 10 ^ places : Nat) : ℚ) / 10 ^ places := by
      have := Nat.pos_of_ne_zero hrest
      positivity
    exact absurd hvalue.symm (by simpa [behindPoint, Decimal.value] using hpos.ne')
  refine ⟨hne, fun c hc => ?_, ?_⟩
  · exact Text.Decimal.isDigit_of_mem_padded ((List.rdropWhile_prefix _ _).subset hc)
  · intro hlast
    have hnot := List.rdropWhile_last_not _ _ hne
    rw [List.getLast?_eq_some_getLast hne, Option.some.injEq] at hlast
    exact hnot (by rw [hlast]; rfl)

theorem proper_written (units places n : Nat) (unit : TimeUnit) :
    (written units places n unit).Proper where
  whole := numeral_digits units
  fraction := fun _ => trimmed_of_mem

theorem amount_written (units places n : Nat) (unit : TimeUnit) :
    (written units places n unit).amount = units :=
  Text.Decimal.value_digits units

theorem part_written (units places n : Nat) (unit : TimeUnit) :
    (written units places n unit).part = ((n % 10 ^ places : Nat) : ℚ) / 10 ^ places :=
  elim_trimmed places n

/-- A number of units of `10 ^ places` nanoseconds, and the nanoseconds behind them. -/
theorem nanos_written (units n : Nat) {places : Nat} {unit : TimeUnit}
    (h : unit.nanos = 10 ^ places) :
    (written units places n unit).nanos = (units * unit.nanos + n % unit.nanos : Nat) := by
  have hpow : (10 : ℚ) ^ places ≠ 0 := by positivity
  rw [Quantity.nanos, amount_written, part_written, show (written units places n unit).unit = unit
    from rfl, h, add_mul, Nat.cast_pow, Nat.cast_ofNat, div_mul_cancel₀ _ hpow]
  push_cast
  rfl

/-- A quantity without a point is a whole number of units. -/
theorem Quantity.nanos_of_fraction_eq_none {q : Quantity} (h : q.fraction = none) :
    q.nanos = (q.amount * q.unit.nanos : Nat) := by
  rw [nanos, part, h, Option.elim_none, add_zero, Nat.cast_mul]

theorem nanos_counted (units : Nat) (unit : TimeUnit) :
    (counted units unit).nanos = (units * unit.nanos : Nat) := by
  rw [Quantity.nanos_of_fraction_eq_none rfl, counted, amount_written]
  rfl

theorem nanos_lastSeconds (n : Nat) : (lastSeconds n).nanos
    = (n / 1000000000 % 60 * 1000000000 + n % 1000000000 : Nat) :=
  nanos_written _ n rfl

/-- The quantities of a length add up to it. -/
theorem total_parts (n : Nat) : total (parts n) = n := by
  have hsingle : ∀ q : Quantity, total [q] = q.nanos := by simp [total]
  unfold parts
  split_ifs with h0 h1 h2 h3 h4 h5
  · simp [h0, total, Quantity.nanos, Quantity.amount, Quantity.part, Decimal.value]
  · rw [hsingle, nanos_written n n rfl, Nat.cast_inj, TimeUnit.nanos]
    omega
  · rw [hsingle, nanos_written (n / 1000) n rfl, Nat.cast_inj, TimeUnit.nanos]
    omega
  · rw [hsingle, nanos_written (n / 1000000) n rfl, Nat.cast_inj, TimeUnit.nanos]
    omega
  · rw [hsingle, nanos_lastSeconds, Nat.cast_inj]
    omega
  · simp only [total, List.map_cons, List.map_nil, List.sum_cons, List.sum_nil, nanos_counted,
      nanos_lastSeconds, TimeUnit.nanos]
    rw [add_zero, ← Nat.cast_add, Nat.cast_inj]
    omega
  · simp only [total, List.map_cons, List.map_nil, List.sum_cons, List.sum_nil, nanos_counted,
      nanos_lastSeconds, TimeUnit.nanos]
    rw [add_zero, ← Nat.cast_add, ← Nat.cast_add, Nat.cast_inj]
    omega

theorem canonical_parts (n : Nat) : Canonical (parts n) := by
  have hamount : ∀ units places unit, (written units places n unit).amount = units :=
    fun units places => amount_written units places n
  have hcounted : ∀ units unit, (counted units unit).amount = units :=
    fun units => amount_written units 0 0
  have hlast : (lastSeconds n).amount < 60 := by
    rw [lastSeconds, hamount]
    omega
  have hproper : (lastSeconds n).Proper := proper_written ..
  unfold parts
  split_ifs with h0 h1 h2 h3 h4 h5
  · exact .zero
  · exact .single (proper_written ..) (by simp [written]) (by rw [hamount]; omega)
      (by rw [hamount]; omega)
  · exact .single (proper_written ..) (by simp [written]) (by rw [hamount]; omega)
      (by rw [hamount]; omega)
  · exact .single (proper_written ..) (by simp [written]) (by rw [hamount]; omega)
      (by rw [hamount]; omega)
  · exact .seconds hproper rfl (by rw [lastSeconds, hamount]; omega) hlast
  · exact .minutes (proper_written ..) hproper rfl rfl rfl (by rw [hcounted]; omega)
      (by rw [hcounted]; omega) hlast
  · exact .hours (proper_written ..) (proper_written ..) hproper rfl rfl rfl rfl rfl
      (by rw [hcounted]; omega) (by rw [hcounted]; omega) hlast

/-! ## There is one canonical row for a length -/

/-- The whole units of a number of nanoseconds, and the part of a unit that is left. -/
theorem div_mod_of_nanos {a n unit : Nat} {part : ℚ} (hunit : 0 < unit) (hnonneg : 0 ≤ part)
    (hlt : part < 1) (h : (a + part) * unit = n) :
    n / unit = a ∧ part = ((n % unit : Nat) : ℚ) / unit := by
  have hpos : (0 : ℚ) < unit := by exact_mod_cast hunit
  have hle : a * unit ≤ n := by
    have hcast : (a * unit : ℚ) ≤ n := by
      rw [← h]
      exact mul_le_mul_of_nonneg_right (le_add_of_nonneg_right hnonneg) hpos.le
    exact_mod_cast hcast
  have hless : n < (a + 1) * unit := by
    have hcast : (n : ℚ) < (a + 1) * unit := by
      rw [← h]
      gcongr
    exact_mod_cast hcast
  have hdiv : n / unit = a := Nat.div_eq_of_lt_le hle hless
  refine ⟨hdiv, ?_⟩
  have hmod : a * unit + n % unit = n := by
    have := Nat.div_add_mod n unit
    rwa [hdiv, Nat.mul_comm] at this
  rw [eq_div_iff hpos.ne', ← add_right_inj ((a : ℚ) * unit), ← add_mul, h]
  exact_mod_cast hmod.symm

namespace Quantity

theorem Proper.eq_counted {q : Quantity} (h : q.Proper) (hfraction : q.fraction = none) :
    q = counted q.amount q.unit := by
  apply h.eq (proper_written ..) rfl (amount_written ..).symm
  rw [part, hfraction]
  rfl

/-- The last quantity of a number of nanoseconds, behind `k` units in larger ones. -/
theorem Proper.eq_written {q : Quantity} {k n : Nat} {unit : TimeUnit} (h : q.Proper) (places : Nat)
    (hunit : q.unit = unit) (hnanos : unit.nanos = 10 ^ places)
    (hn : ((k * unit.nanos : Nat) : ℚ) + q.nanos = n) :
    q = written q.amount places n unit ∧ n / unit.nanos = k + q.amount := by
  have hpos : 0 < unit.nanos := hnanos ▸ by positivity
  have hsum : (((k + q.amount : Nat) : ℚ) + q.part) * unit.nanos = n := by
    rw [← hn, nanos, hunit]
    push_cast
    ring
  obtain ⟨hunits, hpart⟩ := div_mod_of_nanos hpos q.part_nonneg h.part_lt_one hsum
  refine ⟨h.eq (proper_written ..) hunit (amount_written ..).symm ?_, hunits⟩
  rw [part_written, hpart, hnanos, Nat.cast_pow, Nat.cast_ofNat]

end Quantity

/-- The canonical rows that add up to a number of nanoseconds are the one above. -/
theorem Canonical.eq_parts {qs : List Quantity} {n : Nat} (h : Canonical qs) (hn : total qs = n) :
    qs = parts n := by
  cases h with
  | zero =>
    have hzero : n = 0 := by
      have hcast : (0 : ℚ) = n := by
        rw [← hn]
        simp [total, Quantity.nanos, Quantity.amount, Quantity.part, Decimal.value]
      exact_mod_cast hcast.symm
    rw [parts, if_pos hzero]
  | @single q hq hunit hone hmany =>
    have hnanos : ∀ unit : TimeUnit, ((0 * unit.nanos : Nat) : ℚ) + q.nanos = n := by
      intro unit
      simpa [total] using hn
    simp only [List.mem_cons, List.not_mem_nil, or_false] at hunit
    obtain hu | hu | hu := hunit
    · obtain ⟨heq, hamount⟩ := hq.eq_written 0 hu rfl (hnanos _)
      rw [TimeUnit.nanos, Nat.div_one, Nat.zero_add] at hamount
      rw [← hamount] at heq
      rw [parts, if_neg (by omega), if_pos (by omega), ← heq]
    · obtain ⟨heq, hamount⟩ := hq.eq_written 3 hu rfl (hnanos _)
      rw [TimeUnit.nanos, Nat.zero_add] at hamount
      rw [parts, if_neg (by omega), if_neg (by omega), if_pos (by omega), hamount, ← heq]
    · obtain ⟨heq, hamount⟩ := hq.eq_written 6 hu rfl (hnanos _)
      rw [TimeUnit.nanos, Nat.zero_add] at hamount
      rw [parts, if_neg (by omega), if_neg (by omega), if_neg (by omega), if_pos (by omega),
        hamount, ← heq]
  | @seconds s hs hunit hone hlt =>
    have hnanos : ((0 * TimeUnit.seconds.nanos : Nat) : ℚ) + s.nanos = n := by
      simpa [total] using hn
    obtain ⟨heq, hseconds⟩ := hs.eq_written 9 hunit rfl hnanos
    rw [TimeUnit.nanos] at hseconds
    have hlast : n / 1000000000 % 60 = s.amount := by omega
    rw [parts, if_neg (by omega), if_neg (by omega), if_neg (by omega), if_neg (by omega),
      if_pos (by omega), lastSeconds, hlast, ← heq]
  | @minutes m s hm hs hmu hsu hmf hone hmlt hslt =>
    have hnanos : ((60 * m.amount * TimeUnit.seconds.nanos : Nat) : ℚ) + s.nanos = n := by
      rw [← hn, total, List.map_cons, List.map_singleton, List.sum_cons, List.sum_singleton,
        Quantity.nanos_of_fraction_eq_none hmf, hmu, TimeUnit.nanos, TimeUnit.nanos]
      push_cast
      ring
    obtain ⟨heq, hseconds⟩ := hs.eq_written 9 hsu rfl hnanos
    rw [TimeUnit.nanos] at hseconds
    have hlast : n / 1000000000 % 60 = s.amount := by omega
    have hminutes : n / 1000000000 / 60 = m.amount := by omega
    have hmeq := hm.eq_counted hmf
    rw [parts, if_neg (by omega), if_neg (by omega), if_neg (by omega), if_neg (by omega),
      if_neg (by omega), if_pos (by omega), lastSeconds, hlast, ← heq, hminutes, ← hmu, ← hmeq]
  | @hours h m s hh hm hs hhu hmu hsu hhf hmf hone hmlt hslt =>
    have hnanos : ((60 * (60 * h.amount + m.amount) * TimeUnit.seconds.nanos : Nat) : ℚ) + s.nanos
        = n := by
      rw [← hn, total, List.map_cons, List.map_cons, List.map_singleton, List.sum_cons,
        List.sum_cons, List.sum_singleton, Quantity.nanos_of_fraction_eq_none hhf,
        Quantity.nanos_of_fraction_eq_none hmf, hhu, hmu, TimeUnit.nanos, TimeUnit.nanos,
        TimeUnit.nanos]
      push_cast
      ring
    obtain ⟨heq, hseconds⟩ := hs.eq_written 9 hsu rfl hnanos
    rw [TimeUnit.nanos] at hseconds
    have hlast : n / 1000000000 % 60 = s.amount := by omega
    have hhours : n / 1000000000 / 3600 = h.amount := by omega
    have hminutes : n / 1000000000 / 60 % 60 = m.amount := by omega
    have hheq := hh.eq_counted hhf
    have hmeq := hm.eq_counted hmf
    rw [parts, if_neg (by omega), if_neg (by omega), if_neg (by omega), if_neg (by omega),
      if_neg (by omega), if_neg (by omega), lastSeconds, hlast, ← heq, hhours, hminutes, ← hhu,
      ← hmu, ← hheq, ← hmeq]

/-- The text of a length of time is a row of quantities that a reader finds in it.  They add up to
the length and are canonical; no other canonical row adds up to it, and no other length has this
text. -/
theorem canonical_render (d : Duration) :
    ∃ qs, d.render.toList = qs.flatMap Quantity.chars ∧ quantities? d.render.toList = some qs ∧
      total qs = d.nanos ∧ Canonical qs ∧
      (∀ ps, Canonical ps → total ps = d.nanos → ps = qs) ∧
      ∀ e : Duration, e.render = d.render → e = d := by
  have htext : ∀ e : Duration, e.render.toList = (parts e.nanos).flatMap Quantity.chars := by
    intro e
    rw [render, String.toList_ofList, chars_eq]
  have hread : ∀ e : Duration, quantities? e.render.toList = some (parts e.nanos) := by
    intro e
    have hcanonical := canonical_parts e.nanos
    rw [htext]
    exact quantities?_flatMap hcanonical.ne_nil hcanonical.proper
  refine ⟨parts d.nanos, htext d, hread d, total_parts d.nanos, canonical_parts d.nanos,
    fun ps hps => hps.eq_parts, fun e he => ?_⟩
  -- equal texts are read as the same row, and add up to the same
  have hparts : parts e.nanos = parts d.nanos := by
    rw [← Option.some.injEq, ← hread e, ← hread d, he]
  have hnanos : (e.nanos : ℚ) = d.nanos := by
    rw [← total_parts e.nanos, hparts, total_parts]
  cases e
  cases d
  exact congrArg Duration.mk (by exact_mod_cast hnanos)

end FluxCorpus.Duration
