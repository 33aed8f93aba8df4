import FluxCorpus.Proofs.Template.Verdict

/-!
# Failures in plain terms

In a proper setting, with counts such as those of the catalog, a query type fails for three reasons
only: it belongs to the other use case, its window is as long as the interval, or there are not as
many hosts or trucks as it asks for.

* `Template.windowFault`, `Template.sampleFault`, `QueryType.fault` — these failures.
* `Template.refusal_of_ordinary`, `QueryType.refusal_of_mem_catalog` — they are all there are.
* `QueryType.isSome_fault` — the three reasons, as conditions on the setting.
-/

namespace FluxCorpus

/-! ## Proper settings -/

/-- The interval of a setting starts before it ends, and its length is a number of 63 bits. -/
structure Setting.Proper (c : Setting) : Prop extends c.Regular where
  lt : c.interval.start < c.interval.stop
  length : c.interval.stop - c.interval.start < 9223372036854775808

/-! ## Templates -/

namespace Template

/-- A window is too large if it is as long as the interval. -/
def windowFault (t : Template) (c : Setting) : Option Fault :=
  t.window?.bind fun d =>
    if c.interval.stop - c.interval.start ≤ d.nanos then
      some (.windowTooLarge d c.interval.length)
    else none

/-- A sample is too large if there are not as many hosts or trucks. -/
def sampleFault (t : Template) (c : Setting) : Option Fault :=
  t.sample?.bind fun (kind, n) =>
    if 0 < n ∧ c.scale < n then some (.tooManyTags kind n c.scale) else none

/-- The counts of a template are such that only the setting can make it fail. -/
def Ordinary : Template → Prop
  | .devops (.groupByTime hosts metrics _) =>
    (0 < hosts ∧ hosts ≤ Draw.greatestSample) ∧ 0 < metrics ∧ metrics ≤ cpuMetrics.length
  | .devops (.doubleGroupBy metrics) => 0 < metrics ∧ metrics ≤ cpuMetrics.length
  | .devops (.maxAll hosts _) => 0 < hosts ∧ hosts ≤ Draw.greatestSample
  | .devops (.highCpu hosts) => hosts ≤ Draw.greatestSample
  | .iot (.lastLocationByTruck trucks) => 0 < trucks ∧ trucks ≤ Draw.greatestSample
  | _ => True

instance (t : Template) : Decidable t.Ordinary := by
  unfold Ordinary
  split <;> infer_instance

end Template

section Refusals

open Compose

variable {c : Setting}

theorem windowRefusal_eq (hc : c.Proper) (d : Duration) :
    windowRefusal d c = (if c.interval.stop - c.interval.start ≤ d.nanos then
      some (Fault.windowTooLarge d c.interval.length) else none).map .fault := by
  rw [windowRefusal]
  have hroom := Interval.room?_eq_none_iff (d := d) hc.start hc.stop hc.lt hc.length
  split
  · next h =>
    rw [if_pos (hroom.1 h)]
    rfl
  · next h =>
    rw [if_neg (fun hlarge => h (hroom.2 hlarge))]
    rfl

theorem sampleRefusal_eq {kind : TagKind} {n : Nat} (hpos : 0 < n)
    (hroom : n ≤ Draw.greatestSample) :
    sampleRefusal kind n c = (if 0 < n ∧ c.scale < n then
      some (Fault.tooManyTags kind n c.scale) else none).map .fault := by
  rw [sampleRefusal, if_neg (by omega)]
  split
  · next h =>
    rw [if_pos ⟨hpos, h⟩]
    rfl
  · next h =>
    rw [if_neg (by omega), if_neg (fun hmany => h hmany.2)]
    rfl

theorem conditionRefusal_eq {n : Nat} (hroom : n ≤ Draw.greatestSample) :
    conditionRefusal n c = (if 0 < n ∧ c.scale < n then
      some (Fault.tooManyTags .host n c.scale) else none).map .fault := by
  rw [conditionRefusal]
  split
  · next hzero =>
    rw [if_neg (by omega)]
    rfl
  · exact sampleRefusal_eq (by omega) hroom

/-- With ordinary counts a template fails for its window or for its sample, in this order. -/
theorem Template.refusal_of_ordinary {t : Template} (ht : t.Ordinary) (hc : c.Proper) :
    t.refusal c = ((t.windowFault c).or (t.sampleFault c)).map .fault := by
  rw [Option.map_or]
  cases t with
  | devops t =>
    cases t with
    | groupByTime hosts metrics duration =>
      obtain ⟨⟨hhosts, hroom⟩, hmetrics, hle⟩ := ht
      rw [refusal, windowRefusal_eq hc, metricsRefusal_eq_none.2 ⟨hmetrics.ne', hle⟩,
        Option.none_or, sampleRefusal_eq hhosts hroom]
      rfl
    | groupByOrderByLimit =>
      rw [refusal, windowRefusal_eq hc]
      exact Option.or_none.symm
    | doubleGroupBy metrics =>
      obtain ⟨hmetrics, hle⟩ := ht
      rw [refusal, metricsRefusal_eq_none.2 ⟨hmetrics.ne', hle⟩, Option.none_or,
        windowRefusal_eq hc]
      exact Option.or_none.symm
    | maxAll hosts duration =>
      obtain ⟨hhosts, hroom⟩ := ht
      rw [refusal, windowRefusal_eq hc, sampleRefusal_eq hhosts hroom]
      rfl
    | lastPoint => rfl
    | highCpu hosts =>
      rw [refusal, windowRefusal_eq hc, conditionRefusal_eq ht]
      rfl
  | iot t =>
    cases t with
    | lastLocationByTruck trucks =>
      obtain ⟨htrucks, hroom⟩ := ht
      rw [refusal, sampleRefusal_eq htrucks hroom]
      rfl
    | stationaryTrucks =>
      rw [refusal, windowRefusal_eq hc]
      exact Option.or_none.symm
    | longDrivingSessions =>
      rw [refusal, windowRefusal_eq hc]
      exact Option.or_none.symm
    | longDailySessions =>
      rw [refusal, windowRefusal_eq hc]
      exact Option.or_none.symm
    | _ => rfl

end Refusals

/-! ## Query types -/

namespace QueryType

/-- In the catalog every query type belongs to the use case of its template. -/
theorem useCase_of_mem_catalog : ∀ t ∈ catalog, t.template.useCase = t.useCase := by decide

theorem ordinary_of_mem_catalog : ∀ t ∈ catalog, t.template.Ordinary := by decide

/-- Why a query type of the catalog fails: it belongs to the other use case, or its window is too
large, or its sample is. -/
def fault (t : QueryType) (c : Setting) : Option Fault :=
  if t.useCase ≠ c.useCase then
    some (.queryTypeMismatch t.name t.useCase.name c.useCase.name)
  else (t.template.windowFault c).or (t.template.sampleFault c)

theorem refusal_of_mem_catalog {t : QueryType} (ht : t ∈ catalog) {c : Setting} (hc : c.Proper) :
    t.refusal c = (t.fault c).map .fault := by
  rw [refusal, useCase_of_mem_catalog t ht, fault]
  by_cases huse : t.useCase = c.useCase
  · rw [if_pos huse, if_neg (fun hne => hne huse)]
    exact Template.refusal_of_ordinary (ordinary_of_mem_catalog t ht) hc
  · rw [if_neg huse, if_pos huse, checkUseCase, if_neg huse]
    rfl

/-- The three reasons to fail. -/
theorem isSome_fault (t : QueryType) (c : Setting) :
    (t.fault c).isSome ↔ t.useCase ≠ c.useCase
      ∨ (∃ d, t.template.window? = some d ∧ c.interval.stop - c.interval.start ≤ d.nanos)
      ∨ ∃ kind n, t.template.sample? = some (kind, n) ∧ 0 < n ∧ c.scale < n := by
  have hwindow : (t.template.windowFault c).isSome ↔
      ∃ d, t.template.window? = some d ∧ c.interval.stop - c.interval.start ≤ d.nanos := by
    rw [Template.windowFault]
    cases t.template.window? <;> simp
  have hsample : (t.template.sampleFault c).isSome ↔
      ∃ kind n, t.template.sample? = some (kind, n) ∧ 0 < n ∧ c.scale < n := by
    rw [Template.sampleFault]
    cases t.template.sample? with
    | none => simp
    | some r =>
      obtain ⟨kind, n⟩ := r
      simp
  rw [fault]
  by_cases huse : t.useCase = c.useCase
  · rw [if_neg (fun hne => hne huse), Option.isSome_or, Bool.or_eq_true, hwindow, hsample]
    constructor
    · exact .inr
    · rintro (hne | h)
      · exact absurd huse hne
      · exact h
  · rw [if_pos huse]
    exact ⟨fun _ => .inl huse, fun _ => rfl⟩

end QueryType

end FluxCorpus
