import FluxCorpus.Proofs.Corpus

/-!
# What a call never runs into

A breach is a step that its caller should never have asked for: a bound that admits no value, an
index beyond the end of a list, a predicate without terms, a sum that is not representable.  The
checks that keep a template away from them are spread over the steps that it is made of, and the
setting, which no call changes, decides whether they hold.

* `Template.Oversized` — a sample that no set can hold.
* `Template.refusal_kind` — whatever else a template is refused for is a fault of the domain.
* `Generator.CalledFrom.regular` — whatever calls were made, the setting stays regular.
* `Generator.only_oversized_breach` — **no call runs into a breach, unless its sample is oversized.**
* `Generator.oversized_breach` — an oversized sample does.
-/

namespace FluxCorpus

/-! ## Which refusals are breaches -/

/-- A template asks for more hosts or trucks than a set has room for, and there are as many. -/
def Template.Oversized (t : Template) (scale : Nat) : Prop :=
  ∃ kind n, t.sample? = some (kind, n) ∧ Draw.greatestSample < n ∧ n ≤ scale

/-- Why a template may stop: for a fault of the domain, or because its sample is oversized. -/
def Template.MayStop (t : Template) (scale : Nat) (e : Stop) : Prop :=
  (∃ f, e = .fault f) ∨ e = .breach .setSize ∧ t.Oversized scale

namespace Compose

variable {c : Setting} {e : Stop}

theorem windowRefusal_kind {d : Duration} (h : windowRefusal d c = some e) :
    ∃ f, e = .fault f := by
  simp only [windowRefusal] at h
  split at h <;> simp at h
  exact ⟨_, h.symm⟩

theorem metricsRefusal_kind {n : Nat} (h : metricsRefusal n c = some e) : ∃ f, e = .fault f := by
  rw [metricsRefusal] at h
  cases hm : firstMetrics n <;> simp [hm, failureOf] at h
  exact ⟨_, h.symm⟩

theorem sampleRefusal_kind {kind : TagKind} {n : Nat} (h : sampleRefusal kind n c = some e) :
    (∃ f, e = .fault f) ∨ e = .breach .setSize ∧ Draw.greatestSample < n ∧ n ≤ c.scale := by
  simp only [sampleRefusal] at h
  split_ifs at h with hfew hmany hbig
  · exact .inl ⟨_, (Option.some.inj h).symm⟩
  · exact .inl ⟨_, (Option.some.inj h).symm⟩
  · exact .inr ⟨(Option.some.inj h).symm, hbig, by omega⟩

theorem conditionRefusal_kind {n : Nat} (h : conditionRefusal n c = some e) :
    (∃ f, e = .fault f) ∨ e = .breach .setSize ∧ Draw.greatestSample < n ∧ n ≤ c.scale := by
  simp only [conditionRefusal] at h
  split_ifs at h
  exact sampleRefusal_kind h

end Compose

open Compose

/-- Nothing else stops a template: the fleet has an index, no predicate lacks terms, every bound
admits a value, and every sum is representable. -/
theorem Template.refusal_kind {t : Template} {c : Setting} {e : Stop} (h : t.refusal c = some e) :
    t.MayStop c.scale e := by
  have hsample : ∀ {kind n}, t.sample? = some (kind, n) →
      ((∃ f, e = .fault f) ∨ e = .breach .setSize ∧ Draw.greatestSample < n ∧ n ≤ c.scale) →
      t.MayStop c.scale e := by
    rintro kind n ht (hf | ⟨he, hbig, hle⟩)
    · exact .inl hf
    · exact .inr ⟨he, kind, n, ht, hbig, hle⟩
  cases t with
  | devops t =>
    cases t with
    | groupByTime hosts metrics duration =>
      simp only [refusal, Option.or_eq_some_iff] at h
      rcases h with hw | ⟨-, hm | ⟨-, hs⟩⟩
      · exact .inl (windowRefusal_kind hw)
      · exact .inl (metricsRefusal_kind hm)
      · exact hsample rfl (sampleRefusal_kind hs)
    | groupByOrderByLimit => exact .inl (windowRefusal_kind h)
    | doubleGroupBy metrics =>
      simp only [refusal, Option.or_eq_some_iff] at h
      rcases h with hm | ⟨-, hw⟩
      · exact .inl (metricsRefusal_kind hm)
      · exact .inl (windowRefusal_kind hw)
    | maxAll hosts duration =>
      simp only [refusal, Option.or_eq_some_iff] at h
      rcases h with hw | ⟨-, hs⟩
      · exact .inl (windowRefusal_kind hw)
      · exact hsample rfl (sampleRefusal_kind hs)
    | lastPoint => simp [refusal] at h
    | highCpu hosts =>
      simp only [refusal, Option.or_eq_some_iff] at h
      rcases h with hw | ⟨-, hs⟩
      · exact .inl (windowRefusal_kind hw)
      · exact hsample rfl (conditionRefusal_kind hs)
  | iot t =>
    cases t with
    | lastLocationByTruck trucks => exact hsample rfl (sampleRefusal_kind h)
    | stationaryTrucks => exact .inl (windowRefusal_kind h)
    | longDrivingSessions => exact .inl (windowRefusal_kind h)
    | longDailySessions => exact .inl (windowRefusal_kind h)
    | _ => simp [refusal] at h

/-- A query type is refused for the reasons of its template, or belongs to the other use case. -/
theorem QueryType.refusal_kind {t : QueryType} {c : Setting} {e : Stop}
    (h : t.refusal c = some e) : t.template.MayStop c.scale e := by
  simp only [refusal] at h
  split_ifs at h with huse
  · exact Template.refusal_kind h
  · cases hcheck : t.checkUseCase c.useCase <;> simp [hcheck, failureOf] at h
    exact .inl ⟨_, h.symm⟩

/-! ## Calls -/

namespace Generator

variable {format : String} {useCase : UseCase} {i : Interval} {scale : Nat} {seed : Int}
  {g₀ g : Generator}

/-- Whatever calls were made on it, a generator over an accepted interval has a regular setting. -/
theorem CalledFrom.regular (hcreate : create format useCase i scale seed = .ok g₀)
    (hi : i.Accepted) (hscale : scale < 9223372036854775808) (hcalls : g₀.CalledFrom g) :
    g.setting = ⟨useCase, i, scale⟩ ∧ g.setting.Regular := by
  obtain ⟨hsetting, hpos⟩ := setting_of_create hcreate
  have hg : g.setting = ⟨useCase, i, scale⟩ := hcalls.setting.trans hsetting
  obtain ⟨hstart, hstop, -⟩ := hi.bounds
  exact ⟨hg, by rw [hg]; exact ⟨hstart, hstop, hpos, hscale⟩⟩

/-- **No call runs into a breach, unless its sample is oversized.**  Take a generator over any
interval that is accepted, with any scale of 63 bits and any seed, and let any calls be made on it,
whether they succeed or not.  The next call, for any template with any counts and windows and for
any query type, again ends with a query, with a fault of the domain, or before a sample that no set
can hold; and metrics are only ever taken from within the catalog. -/
theorem only_oversized_breach (hcreate : create format useCase i scale seed = .ok g₀)
    (hi : i.Accepted) (hscale : scale < 9223372036854775808) (hcalls : g₀.CalledFrom g) :
    (∀ (t : Template) (q : Query) (e : Stop) (d : Desk),
        t.compose.outcome ⟨g, q⟩ = some (.error e, d) → t.MayStop scale e)
      ∧ (∀ (t : QueryType) (q : Query) (e : Stop) (d : Desk),
        t.compose.outcome ⟨g, q⟩ = some (.error e, d) → t.template.MayStop scale e)
      ∧ ∀ n names, firstMetrics n = .ok names →
        0 < n ∧ n ≤ cpuMetrics.length ∧ names = cpuMetrics.take n := by
  obtain ⟨hg, hreg⟩ := hcalls.regular hcreate hi hscale
  have hg_scale : g.setting.scale = scale := by rw [hg]
  refine ⟨?template, ?query, ?metrics⟩
  case template =>
    intro t q e d h
    exact hg_scale ▸ Template.refusal_kind (t.settles.error hreg h)
  case query =>
    intro t q e d h
    exact hg_scale ▸ QueryType.refusal_kind (t.settles.error hreg h)
  case metrics =>
    intro n names h
    obtain ⟨hne, hle, hnames⟩ := firstMetrics_ok.1 h
    exact ⟨Nat.pos_of_ne_zero hne, hle, hnames⟩

/-- A call on a generator with one host. -/
theorem only_oversized_breach_one_host :
    ∃ g : Generator, create "influx_2" .devops ⟨0, 3600000000001⟩ 1 0 = .ok g
      ∧ ∀ (t : Template) (q : Query) (e : Stop) (d : Desk),
        t.compose.outcome ⟨g, q⟩ = some (.error e, d) → t.MayStop 1 e := by
  have hcreate : create "influx_2" .devops ⟨0, 3600000000001⟩ 1 0 = .ok (.narrow (.ofSeed 0)) := rfl
  have hi : Interval.Accepted ⟨0, 3600000000001⟩ :=
    .inr ⟨0, 3600000000001, by decide, by decide, rfl⟩
  exact ⟨_, hcreate, (only_oversized_breach hcreate hi (by decide) .start).1⟩

end Generator

/-! ## Oversized samples -/

namespace Compose

variable {kind : TagKind} {n : Nat} {d : Desk}

/-- An oversized sample is refused before any word is drawn for it. -/
theorem outcome_tagPredicate_oversized (hbig : Draw.greatestSample < n)
    (hle : n ≤ d.generator.scale) :
    (tagPredicate kind n).outcome d = some (.error (.breach .setSize), d) := by
  have htags : (Draw.tags kind n d.generator.scale : Draw Lagged (List String))
      = throw (.breach .setSize) := by
    rw [Draw.tags, if_neg (by omega), if_neg (by omega), Draw.subset_oversized hbig]
    rfl
  have hdraw : (tags kind n).outcome d = some (.error (.breach .setSize), d) := by
    rw [tags, Process.outcome_bind, Process.outcome_get]
    dsimp only
    rw [htags]
    rfl
  rw [tagPredicate, Process.outcome_bind, hdraw]

theorem outcome_lastLocationByTruck_oversized (hbig : Draw.greatestSample < n)
    (hle : n ≤ d.generator.scale) :
    (lastLocationByTruck n).outcome d = some (.error (.breach .setSize), d) := by
  rw [lastLocationByTruck, Process.outcome_bind, outcome_tagPredicate_oversized hbig hle]

end Compose

/-- Calls can run into a breach: a sample of all trucks does, if no set can hold as many. -/
theorem Generator.oversized_breach : ∃ g : Generator,
    create "influx_2" .iot ⟨0, 1⟩ 504403158265495553 1 = .ok g
      ∧ (Template.iot (.lastLocationByTruck 504403158265495553)).compose.outcome ⟨g, .empty⟩
        = some (.error (.breach .setSize), ⟨g, .empty⟩) := by
  have hbig : Draw.greatestSample < 504403158265495553 := by decide
  exact ⟨⟨.iot, ⟨0, 1⟩, 504403158265495553, .ofSeed 1⟩, rfl,
    outcome_lastLocationByTruck_oversized hbig (Nat.le_refl _)⟩

end FluxCorpus
