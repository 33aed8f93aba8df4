import FluxCorpus.Proofs.Config.Options
import FluxCorpus.Proofs.Time.Reading

/-!
# Timestamps as bounds of the simulation

A timestamp that was written can be given as a bound of the simulated interval, as long as it is not
before 1970.  It then means the second in which its count of nanoseconds lies.

* `Instant.parse?_timestamp` — reading a timestamp undoes writing it, but for the part of a second.
* `Config.timestamp_bound` — **what the timestamp of a count of nanoseconds denotes**, how it is
  ordered, and which configuration a command line has that gives it as a bound.
-/

namespace FluxCorpus

open CommandLine
open Text (Decimal.padded Decimal.digits Decimal.digitChar)

/-! ## Reading a timestamp -/

/-- **Reading a timestamp gives its second**, if it is not before 1970. -/
theorem Instant.parse?_timestamp {nanos : Int} (h : Representable nanos) (h0 : 0 ≤ nanos) :
    Instant.parse? (timestamp nanos) = some ⟨nanos / 1000000000, 0⟩ := by
  have hyears := year_of_representable h
  have hread := readSecond?_timestamp h
  obtain ⟨y₁, y₂, y₃, y₄, m₁, m₂, d₁, d₂, a₁, a₂, n₁, n₂, s₁, s₂, hchars, -, -, -, -, -, hsecond⟩ :=
    exists_secondChars hyears.1 hyears.2
  have hordinary : ordinary [s₁, s₂] = [s₁, s₂] := by
    refine if_neg fun hleap => ?_
    rw [hleap] at hsecond
    have hsixty : 60 = (clockOf (nanos / 1000000000)).second := Option.some.inj hsecond
    have hlast := (clockOf_valid (nanos / 1000000000)).2.2
    omega
  rw [timestamp, String.toList_ofList, hchars] at hread
  rw [Instant.parse?_eq_some_iff]
  refine ⟨[y₁, y₂, y₃, y₄, '-', m₁, m₂, '-', d₁, d₂], [a₁, a₂, ':', n₁, n₂, ':'], [s₁, s₂], ['Z'], 'T',
    ?_, rfl, rfl, rfl, .inl rfl, Int.ediv_nonneg h0 (by decide), ?_, .letter (by decide)⟩
  · rw [timestamp, String.toList_ofList, hchars]
    rfl
  · rw [hordinary]
    exact hread

theorem length_timestamp {nanos : Int} (h : Representable nanos) : (timestamp nanos).length = 20 := by
  have hyear := year_of_representable h
  obtain ⟨y₁, y₂, y₃, y₄, m₁, m₂, d₁, d₂, a₁, a₂, n₁, n₂, s₁, s₂, hchars, -⟩ :=
    exists_secondChars hyear.1 hyear.2
  rw [timestamp, hchars, String.length_ofList]
  rfl

/-- A timestamp does not look like an option: its year has no sign. -/
theorem timestamp_ne_option {nanos : Int} (h : Representable nanos) (cs : List Char) :
    (timestamp nanos).toList ≠ '-' :: cs := by
  have hyear := year_of_representable h
  obtain ⟨y₁, y₂, y₃, y₄, m₁, m₂, d₁, d₂, a₁, a₂, n₁, n₂, s₁, s₂, hchars, hyear, -⟩ :=
    exists_secondChars hyear.1 hyear.2
  rw [timestamp, String.toList_ofList, hchars]
  rintro ⟨⟩
  have hdigits := (Option.ite_none_right_eq_some.1 hyear).1.2
  simp at hdigits

namespace Config

/-- **Timestamps as bounds.**  The timestamp of a representable count of nanoseconds has 20 characters
and denotes the second in which the count lies; that of a later count is not before it.  From 1970 on
it is accepted for either bound, in either spelling, and every command line that gives it together
with other accepted options has a configuration with this second as the bound. -/
theorem timestamp_bound {t : Int} (ht : Representable t) :
    (timestamp t).length = 20
      ∧ readSecond? (timestamp t).toList = some (t / 1000000000)
      ∧ (∀ u, Representable u → t ≤ u → timestamp t ≤ timestamp u)
      ∧ (0 ≤ t → ∀ o ∈ command.options, ∀ attached,
        o.name = "timestamp-start" ∨ o.name = "timestamp-end" →
          (⟨o, timestamp t, attached⟩ : Choice).Accepted command ∧
          ∀ env xs, command.Satisfied env xs → ⟨o, timestamp t, attached⟩ ∈ xs →
            ∃ c, parse env (xs.flatMap Choice.arguments) = .ok c ∧
              (o.name = "timestamp-start" → c.timestampStart = ⟨t / 1000000000, 0⟩) ∧
              (o.name = "timestamp-end" → c.timestampEnd = ⟨t / 1000000000, 0⟩)) := by
  refine ⟨length_timestamp ht, readSecond?_timestamp ht, fun u hu => timestamp_mono ht hu, ?_⟩
  intro h0 o ho attached hname
  have hread : Reader.timestamp (timestamp t) = .ok ⟨t / 1000000000, 0⟩ := by
    rw [Reader.timestamp, Instant.parse?_timestamp ht h0]
    rfl
  have hbound : o.kind = .value ∧ o.check = Reader.timestamp.check := by
    have hnamed := flat_command.named? ho
    rcases hname with h | h
    · rw [h] at hnamed
      cases hnamed
      exact ⟨rfl, rfl⟩
    · rw [h] at hnamed
      cases hnamed
      exact ⟨rfl, rfl⟩
  refine ⟨⟨ho, hbound.1, ?_, timestamp_ne_option ht⟩, fun env xs hxs hmem => ?_⟩
  · rw [hbound.2, Reader.check, hread]
  · obtain ⟨c, hparse, hfields⟩ := parse_choices hxs
    have htext := textOf_of_mem hxs hmem
    -- the bound is read from the text of its option, which is the timestamp
    have hfield : ∀ name bound, o.name = name →
        (∃ s, textOf env xs name = some s ∧ Reader.timestamp s = .ok bound) →
        bound = ⟨t / 1000000000, 0⟩ := by
      rintro name bound rfl ⟨s, hs, hvalue⟩
      rw [htext] at hs
      cases hs
      rw [hread] at hvalue
      exact (Except.ok.inj hvalue).symm
    exact ⟨c, hparse, fun h => hfield _ _ h hfields.timestampStart,
      fun h => hfield _ _ h hfields.timestampEnd⟩

/-- The last nanosecond of the first second of a leap day, as the start of a simulation. -/
theorem timestamp_bound_leap_day :
    readSecond? (timestamp 951782400999999999).toList = some 951782400
      ∧ timestamp 951782400999999999 ≤ timestamp 951782401000000000
      ∧ ∃ c, parse (fun _ => none)
          ["--query-type", "high-cpu-1", "--timestamp-start=2000-02-29T00:00:00Z"] = .ok c
        ∧ c.timestampStart = ⟨951782400, 0⟩ := by
  have htext : timestamp 951782400999999999 = "2000-02-29T00:00:00Z" := by
    have hdate : dateOf 951782400 = ⟨2000, 2, 29⟩ := by decide
    have hclock : clockOf 951782400 = ⟨0, 0, 0⟩ := by decide
    change String.ofList (secondChars 951782400) = _
    rw [secondChars, hdate, hclock]
    simp [Date.chars, Clock.chars, yearDigits, Decimal.padded, Decimal.digits, Decimal.digitChar]
  obtain ⟨-, hsecond, hmono, hbound⟩ := timestamp_bound (t := 951782400999999999) (by decide)
  obtain ⟨haccepted, hparse⟩ := hbound (by decide) (option "timestamp-start" rfl)
    (option_mem _ rfl) true (.inl rfl)
  have hplain : ∀ cs, "high-cpu-1".toList ≠ '-' :: cs := by
    intro cs h
    have hhead : "high-cpu-1".toList.head? = some '-' := congrArg List.head? h
    exact absurd hhead (by decide)
  have hsatisfied : command.Satisfied (fun _ => none)
      [⟨option "query-type" rfl, "high-cpu-1", false⟩,
        ⟨option "timestamp-start" rfl, timestamp 951782400999999999, true⟩] := by
    refine ⟨List.forall_mem_cons.2 ⟨⟨option_mem "query-type" rfl, rfl, rfl, hplain⟩,
      List.forall_mem_singleton.2 haccepted⟩, ?_, ?_, ?_⟩
    · change ["query-type", "timestamp-start"].Nodup
      decide
    · intro o _ _ text htext
      simp at htext
    · decide
  obtain ⟨c, hc, hstart, -⟩ := hparse _ _ hsatisfied (List.mem_cons_of_mem _ List.mem_cons_self)
  rw [htext] at hc
  exact ⟨hsecond, hmono _ (by decide) (by decide), c, hc, hstart rfl⟩

end Config

end FluxCorpus
