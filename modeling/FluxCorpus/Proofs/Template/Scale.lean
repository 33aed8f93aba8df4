import FluxCorpus.Proofs.Template.Fault

/-!
# What stops a query at any scale

Nothing refuses a scale of 64 bits.  An index that is drawn below such a scale is drawn below the
number in its low 32 bits instead, which need not be positive; then the draw is a breach.  All else
that can stop a query type of the catalog is a window or a sample that is too large.

* `Draw.outcome_index_error`, `Draw.outcome_tags_error_of_room` — why a draw stops, whatever the
  scale is.
* `Setting.Expects` — what is expected to stop a query in a setting.
* `QueryType.expects_of_error` — **nothing else does**, in a generator of its use case.
-/

namespace FluxCorpus

/-! ## Draws -/

namespace Draw

variable {σ : Type} [WordSource σ] {s s' : σ} {n total : Nat} {e : Stop}

/-- On an endless source an index draw stops only if its bound has 64 bits and the low half of them
is not positive. -/
theorem outcome_index_error [WordSource.Endless σ] (hpos : 0 < total)
    (h : (index total).outcome s = some (.error e, s')) :
    Width.long.range ≤ total ∧ Int.bmod total 4294967296 ≤ 0
      ∧ e = .breach (.shortBound (Int.bmod total 4294967296)) := by
  by_cases hlt : total < Width.long.range
  · exact absurd h (neverStops_index hpos hlt s e s')
  · have hvast := Nat.le_of_not_lt hlt
    by_cases hbound : Int.bmod total 4294967296 ≤ 0
    · rw [outcome_index_of_vast hvast hbound] at h
      cases h
      exact ⟨hvast, hbound, rfl⟩
    · rw [index_of_vast hvast] at h
      exact absurd h (neverStops_shortBelow (by omega) s e s')

/-- Some names, no more than a set can hold, are refused if there are not as many, or with an index
draw. -/
theorem outcome_tags_error_of_room [WordSource.Endless σ] {kind : TagKind} {scale : Nat}
    (hscale : 0 < scale) (hpos : 0 < n) (hroom : n ≤ greatestSample)
    (h : (tags kind n scale).outcome s = some (.error e, s')) :
    e = .fault (.tooManyTags kind n scale)
      ∨ Width.long.range ≤ scale ∧ Int.bmod scale 4294967296 ≤ 0
        ∧ e = .breach (.shortBound (Int.bmod scale 4294967296)) := by
  rw [tags, if_neg (by omega)] at h
  split at h
  · cases h
    exact .inl rfl
  · obtain hsubset | ⟨l, t, -, hpure⟩ := Process.outcome_bind_error.1 h
    · obtain ⟨t, hindex⟩ := collect_error ((outcome_subset_error hroom).1 hsubset)
      exact .inr (outcome_index_error hscale hindex)
    · cases hpure

/-- With such a scale the first index draw of a sample is the breach. -/
theorem outcome_tags_of_bound {kind : TagKind} {scale : Nat} (hpos : 0 < n)
    (hroom : n ≤ greatestSample) (hscale : Width.long.range ≤ scale)
    (hbound : Int.bmod scale 4294967296 ≤ 0) :
    (tags kind n scale).outcome s
      = some (.error (.breach (.shortBound (Int.bmod scale 4294967296))), s) := by
  have hle : n ≤ scale := by
    simp only [Width.range, greatestSample] at hscale hroom
    omega
  have hnone : ¬ n ≤ Sample.empty.picked.size := by simpa [Sample.empty] using hpos.ne'
  have hcollect : (collect n scale .empty).outcome s
      = some (.error (.breach (.shortBound (Int.bmod scale 4294967296))), s) := by
    rw [outcome_collect, if_neg hnone, outcome_index_of_vast hscale hbound]
  rw [tags, if_neg (by omega), if_neg (by omega), subset, if_neg (by omega)]
  dsimp only
  rw [Process.outcome_bind, Process.outcome_bind, hcollect]

end Draw

/-! ## Steps -/

/-- What is expected to stop a query in a setting: a window or a sample that is too large, or an
index draw below a scale of 64 bits. -/
inductive Setting.Expects (c : Setting) : Stop → Prop
  | window (d : Duration) : c.Expects (.fault (.windowTooLarge d c.interval.length))
  | sample (kind : TagKind) (n : Nat) : c.Expects (.fault (.tooManyTags kind n c.scale))
  | bound : Width.long.range ≤ c.scale → Int.bmod c.scale 4294967296 ≤ 0 →
    c.Expects (.breach (.shortBound (Int.bmod c.scale 4294967296)))

/-- A setting with a positive scale and representable bounds. -/
structure Setting.Bounded (c : Setting) : Prop where
  start : Representable c.interval.start
  stop : Representable c.interval.stop
  scale_pos : 0 < c.scale

namespace Compose

variable {α β : Type} {x : Compose α} {f : α → Compose β} {c : Setting}
  {refusal : Setting → Option Stop} {P : α → Prop}

/-- In this setting nothing stops a step but what is expected to. -/
def StopsAsExpected (c : Setting) (x : Compose α) : Prop :=
  ∀ d e d', d.generator.setting = c → x.outcome d = some (.error e, d') → c.Expects e

/-- A sequence stops in the setting of its first part, which is kept. -/
theorem StopsAsExpected.bind (hx : StopsAsExpected c x) (hsettles : Settles x refusal P)
    (hf : ∀ a, P a → StopsAsExpected c (f a)) : StopsAsExpected c (x >>= f) := by
  intro d e d' hd h
  obtain hstop | ⟨a, d₁, ha, hstop⟩ := Process.outcome_bind_error.1 h
  · exact hx d e d' hd hstop
  · exact hf a (hsettles.value ha) d₁ e d' ((hsettles.keeps ha).trans hd) hstop

theorem stopsAsExpected_pure (a : α) : StopsAsExpected c (pure a) := by
  rintro d e d' - ⟨⟩

theorem stopsAsExpected_write (label description flux : String) :
    StopsAsExpected c (write label description flux) := by
  rintro d e d' - ⟨⟩

theorem stopsAsExpected_interval : StopsAsExpected c interval := by
  rintro d e d' - ⟨⟩

theorem stopsAsExpected_oneOf {column : String} {values : List String} (hne : values ≠ []) :
    StopsAsExpected c (oneOf column values) := by
  rintro d e d' - h
  rw [oneOf_ok.2 ⟨hne, rfl, rfl⟩] at h
  cases h

theorem stopsAsExpected_firstMetrics {n : Nat} (hpos : 0 < n) (hle : n ≤ cpuMetrics.length) :
    StopsAsExpected c (ofCheck (firstMetrics n)) := by
  rintro d e d' - h
  rw [firstMetrics_ok.2 ⟨hpos.ne', hle, rfl⟩] at h
  cases h

theorem stopsAsExpected_fleet : StopsAsExpected c fleet := by
  rintro d e d' - h
  rw [fleet, outcome_draw, Option.map_eq_some_iff] at h
  obtain ⟨⟨r, s⟩, hdraw, heq⟩ := h
  cases heq
  exact absurd hdraw (Draw.neverStops_fleet _ _ _)

theorem stopsAsExpected_window (hc : c.Bounded) (duration : Duration) :
    StopsAsExpected c (window duration) := by
  rintro d e d' rfl h
  rw [outcome_window, Option.map_eq_some_iff] at h
  obtain ⟨⟨r, s⟩, hdraw, heq⟩ := h
  cases heq
  obtain ⟨-, rfl⟩ := Interval.outcome_window_error hc.start hc.stop hdraw
  exact .window duration

theorem stopsAsExpected_tags (hc : c.Bounded) {kind : TagKind} {n : Nat} (hpos : 0 < n)
    (hroom : n ≤ Draw.greatestSample) : StopsAsExpected c (tags kind n) := by
  rintro d e d' rfl h
  rw [tags, Process.outcome_bind, Process.outcome_get] at h
  dsimp only at h
  rw [outcome_draw, Option.map_eq_some_iff] at h
  obtain ⟨⟨r, s⟩, hdraw, heq⟩ := h
  cases heq
  obtain rfl | ⟨hlong, hbound, rfl⟩ :=
    Draw.outcome_tags_error_of_room hc.scale_pos hpos hroom hdraw
  · exact .sample kind n
  · exact .bound hlong hbound

theorem stopsAsExpected_tagPredicate (hc : c.Bounded) {kind : TagKind} {n : Nat} (hpos : 0 < n)
    (hroom : n ≤ Draw.greatestSample) : StopsAsExpected c (tagPredicate kind n) :=
  (stopsAsExpected_tags hc hpos hroom).bind (settles_tags kind n) fun _ hne =>
    stopsAsExpected_oneOf hne

theorem stopsAsExpected_hostCondition (hc : c.Bounded) {hosts : Nat}
    (hroom : hosts ≤ Draw.greatestSample) : StopsAsExpected c (hostCondition hosts) := by
  rw [hostCondition]
  split
  · exact stopsAsExpected_pure ""
  · next hne =>
    exact (stopsAsExpected_tagPredicate hc (Nat.pos_of_ne_zero hne) hroom).bind
      (settles_tagPredicate .host hosts) fun _ _ => stopsAsExpected_pure _

theorem stopsAsExpected_longSessions (hc : c.Bounded) (duration : Duration) (threshold : Nat) :
    StopsAsExpected c (longSessions duration threshold) :=
  (stopsAsExpected_window hc duration).bind (settles_window duration) fun _ _ =>
    stopsAsExpected_interval.bind settles_interval fun _ _ =>
    stopsAsExpected_fleet.bind settles_fleet fun _ _ => stopsAsExpected_pure _

/-- With a scale whose low half is no bound, not even one truck can be drawn. -/
theorem outcome_lastLocationByTruck_of_bound {trucks : Nat} {d : Desk} (hpos : 0 < trucks)
    (hroom : trucks ≤ Draw.greatestSample) (hscale : Width.long.range ≤ d.generator.scale)
    (hbound : Int.bmod d.generator.scale 4294967296 ≤ 0) :
    (lastLocationByTruck trucks).outcome d
      = some (.error (.breach (.shortBound (Int.bmod d.generator.scale 4294967296))), d) := by
  have htags : (tags .truck trucks).outcome d
      = some (.error (.breach (.shortBound (Int.bmod d.generator.scale 4294967296))), d) := by
    rw [tags, Process.outcome_bind, Process.outcome_get]
    dsimp only
    rw [outcome_draw, Draw.outcome_tags_of_bound hpos hroom hscale hbound]
    rfl
  rw [lastLocationByTruck, Process.outcome_bind, tagPredicate, Process.outcome_bind, htags]

end Compose

/-! ## Templates and query types -/

open Compose

/-- With ordinary counts a template stops as expected, whatever the scale is. -/
theorem Template.stopsAsExpected {t : Template} (ht : t.Ordinary) {c : Setting} (hc : c.Bounded) :
    StopsAsExpected c t.compose := by
  have hwindow (duration : Duration) {f : Interval → Compose Unit}
      (hf : ∀ w, StopsAsExpected c (f w)) : StopsAsExpected c (window duration >>= f) :=
    (stopsAsExpected_window hc duration).bind (settles_window duration) fun w _ => hf w
  have hfleet {f : String → Compose Unit} (hf : ∀ name, StopsAsExpected c (f name)) :
      StopsAsExpected c (fleet >>= f) :=
    stopsAsExpected_fleet.bind settles_fleet fun name _ => hf name
  have hinterval {f : Interval → Compose Unit} (hf : ∀ i, StopsAsExpected c (f i)) :
      StopsAsExpected c (interval >>= f) :=
    stopsAsExpected_interval.bind settles_interval fun i _ => hf i
  cases t with
  | devops t =>
    cases t with
    | groupByTime hosts metrics duration =>
      obtain ⟨⟨hhosts, hroom⟩, hmetrics, hle⟩ := ht
      exact hwindow duration fun w =>
        (stopsAsExpected_firstMetrics hmetrics hle).bind (settles_firstMetrics metrics)
          fun names hne => (stopsAsExpected_oneOf hne).bind (settles_oneOf hne) fun _ _ =>
          (stopsAsExpected_tagPredicate hc hhosts hroom).bind (settles_tagPredicate .host hosts)
            fun _ _ => stopsAsExpected_write _ _ _
    | groupByOrderByLimit => exact hwindow _ fun w => stopsAsExpected_write _ _ _
    | doubleGroupBy metrics =>
      obtain ⟨hmetrics, hle⟩ := ht
      exact (stopsAsExpected_firstMetrics hmetrics hle).bind (settles_firstMetrics metrics)
        fun names hne => hwindow _ fun w =>
          (stopsAsExpected_oneOf hne).bind (settles_oneOf hne) fun _ _ =>
            stopsAsExpected_write _ _ _
    | maxAll hosts duration =>
      obtain ⟨hhosts, hroom⟩ := ht
      have hmetrics : cpuMetrics ≠ [] := List.cons_ne_nil _ _
      exact hwindow duration fun w =>
        (stopsAsExpected_tagPredicate hc hhosts hroom).bind (settles_tagPredicate .host hosts)
          fun _ _ => (stopsAsExpected_oneOf hmetrics).bind (settles_oneOf hmetrics) fun _ _ =>
            stopsAsExpected_write _ _ _
    | lastPoint => exact stopsAsExpected_write _ _ _
    | highCpu hosts =>
      exact hwindow _ fun w =>
        (stopsAsExpected_hostCondition hc ht).bind (settles_hostCondition hosts) fun _ _ =>
          stopsAsExpected_write _ _ _
  | iot t =>
    cases t with
    | lastLocationByTruck trucks =>
      obtain ⟨htrucks, hroom⟩ := ht
      exact (stopsAsExpected_tagPredicate hc htrucks hroom).bind
        (settles_tagPredicate .truck trucks) fun _ _ => stopsAsExpected_write _ _ _
    | lastLocationPerTruck => exact hfleet fun _ => stopsAsExpected_write _ _ _
    | lowFuel => exact hfleet fun _ => stopsAsExpected_write _ _ _
    | highLoad => exact hfleet fun _ => stopsAsExpected_write _ _ _
    | stationaryTrucks => exact hwindow _ fun w => hfleet fun _ => stopsAsExpected_write _ _ _
    | longDrivingSessions =>
      exact (stopsAsExpected_longSessions hc _ _).bind (settles_longSessions _ _) fun _ _ =>
        stopsAsExpected_write _ _ _
    | longDailySessions =>
      exact (stopsAsExpected_longSessions hc _ _).bind (settles_longSessions _ _) fun _ _ =>
        stopsAsExpected_write _ _ _
    | fuelConsumption => exact stopsAsExpected_write _ _ _
    | dailyDrivingDuration => exact hinterval fun _ => stopsAsExpected_write _ _ _
    | dailyDrivingSession => exact hinterval fun _ => stopsAsExpected_write _ _ _
    | averageLoad => exact stopsAsExpected_write _ _ _
    | dailyActivity => exact hinterval fun _ => stopsAsExpected_write _ _ _
    | breakdownFrequency => exact hinterval fun _ => stopsAsExpected_write _ _ _

/-- **A query type of the catalog stops as expected** in a generator of its use case, whatever the
scale is. -/
theorem QueryType.expects_of_error {t : QueryType} (ht : t ∈ catalog) {g : Generator}
    (hg : g.setting.Bounded) (huse : t.useCase = g.useCase) {q : Query} {e : Stop} {d : Desk}
    (h : t.compose.outcome ⟨g, q⟩ = some (.error e, d)) : g.setting.Expects e := by
  have htemplate : t.template.useCase = g.useCase := (useCase_of_mem_catalog t ht).trans huse
  rw [outcome_compose htemplate] at h
  exact Template.stopsAsExpected (ordinary_of_mem_catalog t ht) hg ⟨g, q⟩ e d rfl h

end FluxCorpus
