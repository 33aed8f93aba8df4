import FluxCorpus.Proofs.Template.Verdict

/-!
# Where a call leaves the source

A corpus is one stream of words, so every query depends on how many words the ones before it took,
also where one of them failed.  A call takes the words of the samplings that come before its first
failing check, in the order of its template, and not one word more.

* `Sampling` — a window, a sample of hosts or trucks, or a single word; `Sampling.Leads` says from
  which source to which other source it leads, and `Taken` does so for several of them.
* `Compose.Takes` — a computation that takes the samplings of a plan; in a sequence the second plan
  counts only if the first part does not fail (`Takes.bind`).
* `Template.samplings` — the plan of every template, with the checks in between.
* `Template.returns_iff_taken` — **a call that returns has taken the samplings of its plan.**
-/

namespace FluxCorpus

/-! ## Samplings -/

/-- What a template takes from the source. -/
inductive Sampling
  /-- The start of a window of some length. -/
  | window (duration : Duration)
  /-- Some different indices below the scale. -/
  | subset (n : Nat)
  /-- One word, which chooses among the fleets. -/
  | word

variable {c : Setting} {s s' : Lagged}

/-- A sampling leads from one source to another if it can be made on the first one and leaves the
second one. -/
def Sampling.Leads (c : Setting) (s s' : Lagged) : Sampling → Prop
  | .window duration => ∃ room offset : Nat, c.interval.room? duration = some room
      ∧ (Draw.longBelow room).outcome s = some (.ok offset, s')
  | .subset n => ∃ l, (Draw.subset n c.scale).outcome s = some (.ok l, s')
  | .word => s' = s.step.2

/-- Several samplings lead from one source to another, each of them going on where the one before it
ended. -/
def Taken (c : Setting) : List Sampling → Lagged → Lagged → Prop
  | [], s, s' => s' = s
  | x :: xs, s, s' => ∃ t, x.Leads c s t ∧ Taken c xs t s'

@[simp] theorem taken_nil : Taken c [] s s' ↔ s' = s := Iff.rfl

theorem taken_singleton {x : Sampling} : Taken c [x] s s' ↔ x.Leads c s s' := by
  constructor
  · rintro ⟨t, ht, rfl⟩
    exact ht
  · intro h
    exact ⟨s', h, rfl⟩

theorem taken_append {xs ys : List Sampling} :
    Taken c (xs ++ ys) s s' ↔ ∃ t, Taken c xs s t ∧ Taken c ys t s' := by
  induction xs generalizing s with
  | nil => simp
  | cons x xs ih =>
    constructor
    · rintro ⟨t, ht, hrest⟩
      rcases ih.1 hrest with ⟨t', hxs, hys⟩
      exact ⟨t', ⟨t, ht, hxs⟩, hys⟩
    · rintro ⟨t', ⟨t, ht, hxs⟩, hys⟩
      exact ⟨t, ht, ih.2 ⟨t', hxs, hys⟩⟩

namespace Compose

variable {α β : Type}

/-! ## Computations and their plans -/

/-- A computation returns with a value or with a failure of the domain; a breach is neither. -/
inductive Returned : Except Stop α → Prop
  | ok (a : α) : Returned (.ok a)
  | fault (f : Fault) : Returned (.error (.fault f))

/-- In a regular setting a computation returns just after the samplings of its plan are taken. -/
def Takes (x : Compose α) (plan : Setting → List Sampling) : Prop :=
  ∀ (d : Desk) (s : Lagged), d.generator.setting.Regular →
    ((∃ r d', x.outcome d = some (r, d') ∧ Returned r ∧ d'.generator.source = s)
      ↔ Taken d.generator.setting (plan d.generator.setting) d.generator.source s)

variable {x : Compose α} {f : α → Compose β} {plan plan' : Setting → List Sampling}
  {refusal : Setting → Option Stop} {P : α → Prop}

/-- In a sequence the second plan is followed only where the first part has a value. -/
theorem Takes.bind (hx : Takes x plan) (hs : Settles x refusal P)
    (hf : ∀ a, P a → Takes (f a) plan') :
    Takes (x >>= f) (fun c => plan c ++ if refusal c = none then plan' c else []) := by
  intro d s hreg
  simp only [taken_append]
  constructor
  · rintro ⟨r, d', h, hr, rfl⟩
    rw [Process.outcome_bind] at h
    split at h
    · next a d₁ ha =>
      have hkeep := hs.keeps ha
      have hfirst := (hx d _ hreg).1 ⟨_, d₁, ha, .ok a, rfl⟩
      have hsecond := (hf a (hs.value ha) d₁ _ (hkeep ▸ hreg)).1 ⟨r, d', h, hr, rfl⟩
      rw [hkeep] at hsecond
      rw [if_pos (hs.ok hreg ha)]
      exact ⟨_, hfirst, hsecond⟩
    · next e d₁ he =>
      cases h
      rcases hr with _ | f
      have hfirst := (hx d _ hreg).1 ⟨_, d', he, .fault f, rfl⟩
      rw [if_neg (by simp [hs.error hreg he])]
      exact ⟨_, hfirst, rfl⟩
    · cases h
  · rintro ⟨t, hfirst, hsecond⟩
    obtain ⟨r, d₁, h, hr, rfl⟩ := (hx d t hreg).2 hfirst
    rcases hr with a | e
    · have hkeep := hs.keeps h
      rw [if_pos (hs.ok hreg h), ← hkeep] at hsecond
      obtain ⟨r, d', h', hr, hsource⟩ := (hf a (hs.value h) d₁ s (hkeep ▸ hreg)).2 hsecond
      refine ⟨r, d', ?_, hr, hsource⟩
      rw [Process.outcome_bind, h]
      exact h'
    · rw [if_neg (by simp [hs.error hreg h])] at hsecond
      refine ⟨_, d₁, ?_, .fault e, hsecond.symm⟩
      rw [Process.outcome_bind, h]

/-- What follows a computation without taking anything does not change its plan. -/
theorem Takes.bind_still (hx : Takes x plan) (hs : Settles x refusal P)
    (hf : ∀ a, P a → Takes (f a) fun _ => []) : Takes (x >>= f) plan := by
  have h := hx.bind hs hf
  simpa using h

/-- A step that takes nothing and never fails does not change the plan of what follows it. -/
theorem Takes.still_bind (hx : Takes x fun _ => []) (hs : Settles x (fun _ => none) P)
    (hf : ∀ a, P a → Takes (f a) plan) : Takes (x >>= f) plan := by
  have h := hx.bind hs hf
  simpa using h

/-- A step that always returns, and leaves the source alone, takes nothing. -/
theorem takes_of_still
    (h : ∀ d, ∃ r d', x.outcome d = some (r, d') ∧ Returned r
      ∧ d'.generator.source = d.generator.source) : Takes x fun _ => [] := by
  intro d s _
  rcases h d with ⟨r, d', hx, hr, hsource⟩
  constructor
  · rintro ⟨r₁, d₁, h₁, -, rfl⟩
    rw [hx] at h₁
    cases h₁
    exact hsource
  · rintro rfl
    exact ⟨r, d', hx, hr, hsource⟩

/-- A draw takes what it takes from any source. -/
theorem takes_of_draw (y : Setting → Draw Lagged α)
    (hx : ∀ d, x.outcome d = ((y d.generator.setting).outcome d.generator.source).map
      fun (r, s) => (r, d.withSource s))
    (hy : ∀ {c s s'}, c.Regular →
      ((∃ r, (y c).outcome s = some (r, s') ∧ Returned r) ↔ Taken c (plan c) s s')) :
    Takes x plan := by
  intro d s hreg
  rw [← hy hreg]
  constructor
  · rintro ⟨r, d', h, hr, rfl⟩
    rw [hx, Option.map_eq_some_iff] at h
    rcases h with ⟨⟨r', s'⟩, hdraw, heq⟩
    cases heq
    exact ⟨r, hdraw, hr⟩
  · rintro ⟨r, hdraw, hr⟩
    refine ⟨r, d.withSource s, ?_, hr, rfl⟩
    rw [hx, hdraw]
    rfl

/-! ## The steps of a template -/

/-- The plan of a window, and of what comes after it if it has a place. -/
def windowThen (duration : Duration) (rest : Setting → List Sampling) (c : Setting) :
    List Sampling :=
  if c.interval.room? duration = none then [] else .window duration :: rest c

/-- The plan of a sample: nothing is taken if its size is not right. -/
def sampleOf (n : Nat) (c : Setting) : List Sampling :=
  if n < 1 ∨ c.scale < n then [] else [.subset n]

/-- The plan of what comes after metrics, if their number is right. -/
def metricsThen (n : Nat) (rest : Setting → List Sampling) (c : Setting) : List Sampling :=
  if n = 0 ∨ cpuMetrics.length < n then [] else rest c

theorem takes_pure (a : α) : Takes (pure a) fun _ => [] :=
  takes_of_still fun d => ⟨_, d, rfl, .ok a, rfl⟩

theorem takes_interval : Takes interval fun _ => [] :=
  takes_of_still fun d => ⟨_, d, rfl, .ok _, rfl⟩

theorem takes_write (label description flux : String) :
    Takes (write label description flux) fun _ => [] :=
  takes_of_still fun _ => ⟨_, _, rfl, .ok _, rfl⟩

theorem takes_ofCheck (check : Except Fault α) : Takes (ofCheck check) fun _ => [] := by
  refine takes_of_still fun d => ⟨_, d, outcome_ofCheck check d, ?_, rfl⟩
  cases check with
  | ok a => exact .ok a
  | error f => exact .fault f

theorem takes_oneOf {column : String} {values : List String} (h : values ≠ []) :
    Takes (oneOf column values) fun _ => [] :=
  takes_of_still fun d => ⟨_, d, oneOf_ok.2 ⟨h, rfl, rfl⟩, .ok _, rfl⟩

theorem takes_window (duration : Duration) :
    Takes (window duration) (windowThen duration fun _ => []) := by
  refine takes_of_draw (fun c => c.interval.window duration) (outcome_window duration) ?_
  intro c s s' hreg
  rw [windowThen]
  by_cases hroom : c.interval.room? duration = none
  · have hrefused : (c.interval.window duration).outcome s
        = some (.error (.fault (.windowTooLarge duration c.interval.length)), s) := by
      rw [Interval.window, hroom]
      rfl
    rw [if_pos hroom, taken_nil, hrefused]
    constructor
    · rintro ⟨r, ⟨⟩, -⟩
      rfl
    · rintro rfl
      exact ⟨_, rfl, .fault _⟩
  · rw [if_neg hroom, taken_singleton]
    constructor
    · rintro ⟨r, h, hr⟩
      rcases hr with w | f
      · obtain ⟨room, offset, hsome, hoffset, -⟩ := Interval.longBelow_of_outcome_window h
        exact ⟨room, offset, hsome, hoffset⟩
      · exact absurd (Interval.outcome_window_error hreg.start hreg.stop h).1 hroom
    · rintro ⟨room, offset, hsome, hoffset⟩
      exact ⟨_, Interval.outcome_window_of_room hreg.start hreg.stop hsome hoffset, .ok _⟩

theorem takes_tags (kind : TagKind) (n : Nat) : Takes (tags kind n) (sampleOf n) := by
  refine takes_of_draw (fun c => Draw.tags kind n c.scale) (fun _ => rfl) ?_
  intro c s s' hreg
  rw [sampleOf]
  by_cases hsize : n < 1 ∨ c.scale < n
  · have hrefused : ∃ f, (Draw.tags kind n c.scale).outcome s = some (.error (.fault f), s) := by
      rw [Draw.tags]
      split
      · exact ⟨_, rfl⟩
      · rw [if_pos (by omega)]
        exact ⟨_, rfl⟩
    obtain ⟨f, hf⟩ := hrefused
    rw [if_pos hsize, taken_nil, hf]
    constructor
    · rintro ⟨r, ⟨⟩, -⟩
      rfl
    · rintro rfl
      exact ⟨_, rfl, .fault f⟩
  · rw [if_neg hsize, taken_singleton]
    constructor
    · rintro ⟨r, h, hr⟩
      rcases hr with names | f
      · obtain ⟨-, -, l, hl, -⟩ := Draw.outcome_tags_ok.1 h
        exact ⟨l, hl⟩
      · -- a sample of the right size can only be refused for want of memory
        rcases Draw.outcome_tags_error hreg.scale_pos hreg.scale_lt h with
          ⟨hfew, -⟩ | ⟨-, hmany, -⟩ | ⟨-, -, -, hbreach⟩
        · exact absurd (.inl hfew) hsize
        · exact absurd (.inr hmany) hsize
        · cases hbreach
    · rintro ⟨l, hl⟩
      exact ⟨_, Draw.outcome_tags_ok.2 ⟨by omega, by omega, l, hl, rfl⟩, .ok _⟩

theorem takes_fleet : Takes fleet fun _ => [.word] := by
  refine takes_of_draw (fun _ => Draw.fleet) (fun _ => rfl) ?_
  intro c s s' _
  obtain ⟨f, hf⟩ := Draw.outcome_fleet s
  rw [taken_singleton, hf]
  constructor
  · rintro ⟨r, ⟨⟩, -⟩
    rfl
  · rintro rfl
    exact ⟨_, rfl, .ok f⟩

/-! ## Sequences of steps -/

theorem takes_window_bind {duration : Duration} {f : Interval → Compose β}
    (hf : ∀ w, Takes (f w) plan) : Takes (window duration >>= f) (windowThen duration plan) := by
  have h := (takes_window duration).bind (settles_window duration) fun w _ => hf w
  have hplan : ∀ c, windowThen duration (fun _ => []) c
      ++ (if windowRefusal duration c = none then plan c else []) = windowThen duration plan c := by
    intro c
    by_cases hroom : c.interval.room? duration = none <;> simp [windowThen, windowRefusal, hroom]
  rwa [funext hplan] at h

theorem takes_firstMetrics_bind {n : Nat} {f : List String → Compose β}
    (hf : ∀ names, names ≠ [] → Takes (f names) plan) :
    Takes (ofCheck (firstMetrics n) >>= f) (metricsThen n plan) := by
  have h := (takes_ofCheck (firstMetrics n)).bind (settles_firstMetrics n) hf
  have hplan : ∀ c, [] ++ (if metricsRefusal n c = none then plan c else [])
      = metricsThen n plan c := by
    intro c
    have hnone := metricsRefusal_eq_none (n := n) (c := c)
    rw [List.nil_append, metricsThen]
    by_cases hbad : n = 0 ∨ cpuMetrics.length < n
    · rw [if_pos hbad, if_neg (by rw [hnone]; omega)]
    · rw [if_neg hbad, if_pos (hnone.2 (by omega))]
  rwa [funext hplan] at h

theorem takes_fleet_bind {f : String → Compose β} (hf : ∀ name, Takes (f name) fun _ => []) :
    Takes (fleet >>= f) fun _ => [.word] :=
  takes_fleet.bind_still settles_fleet fun name _ => hf name

theorem takes_tagPredicate (kind : TagKind) (n : Nat) :
    Takes (tagPredicate kind n) (sampleOf n) :=
  (takes_tags kind n).bind_still (settles_tags kind n) fun _ hne => takes_oneOf hne

theorem takes_hostCondition (hosts : Nat) : Takes (hostCondition hosts) (sampleOf hosts) := by
  rw [hostCondition]
  split
  · next hzero =>
    subst hzero
    exact takes_pure ""
  · exact (takes_tagPredicate .host hosts).bind_still (settles_tagPredicate .host hosts)
      fun _ _ => takes_pure _

theorem takes_longSessions (duration : Duration) (threshold : Nat) :
    Takes (longSessions duration threshold) (windowThen duration fun _ => [.word]) :=
  takes_window_bind fun _ => takes_interval.still_bind settles_interval fun _ _ =>
    takes_fleet_bind fun _ => takes_pure _

end Compose

/-! ## All templates -/

namespace Template

open Compose

/-- The samplings that a template comes to in a setting, up to its first failing check. -/
def samplings : Template → Setting → List Sampling
  | .devops (.groupByTime hosts metrics duration) =>
    windowThen duration (metricsThen metrics (sampleOf hosts))
  | .devops .groupByOrderByLimit => windowThen (.ofHours 1) fun _ => []
  | .devops (.doubleGroupBy metrics) =>
    metricsThen metrics (windowThen doubleGroupByWindow fun _ => [])
  | .devops (.maxAll hosts duration) => windowThen duration (sampleOf hosts)
  | .devops .lastPoint => fun _ => []
  | .devops (.highCpu hosts) => windowThen highCpuWindow (sampleOf hosts)
  | .iot (.lastLocationByTruck trucks) => sampleOf trucks
  | .iot .lastLocationPerTruck => fun _ => [.word]
  | .iot .lowFuel => fun _ => [.word]
  | .iot .highLoad => fun _ => [.word]
  | .iot .stationaryTrucks => windowThen stationaryWindow fun _ => [.word]
  | .iot .longDrivingSessions => windowThen longSessionWindow fun _ => [.word]
  | .iot .longDailySessions => windowThen dailyWindow fun _ => [.word]
  | .iot _ => fun _ => []

/-- **Every template takes the samplings of its plan.** -/
theorem takes (t : Template) : Takes t.compose t.samplings := by
  cases t with
  | devops t =>
    cases t with
    | groupByTime hosts metrics duration =>
      refine takes_window_bind fun w => takes_firstMetrics_bind fun names hne => ?_
      refine (takes_oneOf hne).still_bind (settles_oneOf hne) fun _ _ => ?_
      exact (takes_tagPredicate .host hosts).bind_still (settles_tagPredicate .host hosts)
        fun _ _ => takes_write _ _ _
    | groupByOrderByLimit => exact takes_window_bind fun w => takes_write _ _ _
    | doubleGroupBy metrics =>
      refine takes_firstMetrics_bind fun names hne => takes_window_bind fun w => ?_
      exact (takes_oneOf hne).still_bind (settles_oneOf hne) fun _ _ => takes_write _ _ _
    | maxAll hosts duration =>
      have hmetrics : cpuMetrics ≠ [] := List.cons_ne_nil _ _
      refine takes_window_bind fun w => (takes_tagPredicate .host hosts).bind_still
        (settles_tagPredicate .host hosts) fun _ _ => ?_
      exact (takes_oneOf hmetrics).still_bind (settles_oneOf hmetrics) fun _ _ => takes_write _ _ _
    | lastPoint => exact takes_write _ _ _
    | highCpu hosts =>
      exact takes_window_bind fun w => (takes_hostCondition hosts).bind_still
        (settles_hostCondition hosts) fun _ _ => takes_write _ _ _
  | iot t =>
    cases t with
    | lastLocationByTruck trucks =>
      exact (takes_tagPredicate .truck trucks).bind_still (settles_tagPredicate .truck trucks)
        fun _ _ => takes_write _ _ _
    | lastLocationPerTruck => exact takes_fleet_bind fun _ => takes_write _ _ _
    | lowFuel => exact takes_fleet_bind fun _ => takes_write _ _ _
    | highLoad => exact takes_fleet_bind fun _ => takes_write _ _ _
    | stationaryTrucks =>
      exact takes_window_bind fun w => takes_fleet_bind fun _ => takes_write _ _ _
    | longDrivingSessions =>
      exact (takes_longSessions _ _).bind_still (settles_longSessions _ _)
        fun _ _ => takes_write _ _ _
    | longDailySessions =>
      exact (takes_longSessions _ _).bind_still (settles_longSessions _ _)
        fun _ _ => takes_write _ _ _
    | fuelConsumption => exact takes_write _ _ _
    | dailyDrivingDuration =>
      exact takes_interval.still_bind settles_interval fun _ _ => takes_write _ _ _
    | dailyDrivingSession =>
      exact takes_interval.still_bind settles_interval fun _ _ => takes_write _ _ _
    | averageLoad => exact takes_write _ _ _
    | dailyActivity =>
      exact takes_interval.still_bind settles_interval fun _ _ => takes_write _ _ _
    | breakdownFrequency =>
      exact takes_interval.still_bind settles_interval fun _ _ => takes_write _ _ _

/-! ## Where a call returns -/

/-- How a call returns: with a record that is filled in, or with a failure. -/
def verdict : Option Fault → Except Stop Unit
  | none => .ok ()
  | some f => .error (.fault f)

theorem returned_iff {r : Except Stop Unit} : Returned r ↔ ∃ f, r = verdict f := by
  constructor
  · rintro (_ | f)
    · exact ⟨none, rfl⟩
    · exact ⟨some f, rfl⟩
  · rintro ⟨_ | f, rfl⟩
    · exact .ok ()
    · exact .fault f

/-- **A call that returns has taken the samplings of its plan.**  In a generator whose interval can
be represented, and whose scale is a positive number of 63 bits, a template with any arguments
returns with a failure or without one, and with the source `s`, if and only if this is the failure
that it must have and `s` is where the samplings of its plan lead. -/
theorem returns_iff_taken (t : Template) {d : Desk} (hreg : d.generator.setting.Regular)
    (f : Option Fault) (s : Lagged) :
    (∃ d', t.compose.outcome d = some (verdict f, d') ∧ d'.generator.source = s)
      ↔ t.refusal d.generator.setting = f.map .fault
        ∧ Taken d.generator.setting (t.samplings d.generator.setting) d.generator.source s := by
  have hverdict : ∀ {f d'}, t.compose.outcome d = some (verdict f, d') →
      t.refusal d.generator.setting = f.map .fault := by
    rintro (_ | f) d' h
    · exact t.settles.ok hreg h
    · exact t.settles.error hreg h
  rw [← t.takes d s hreg]
  constructor
  · rintro ⟨d', h, rfl⟩
    exact ⟨hverdict h, _, d', h, returned_iff.2 ⟨f, rfl⟩, rfl⟩
  · rintro ⟨hrefusal, r, d', h, hr, rfl⟩
    obtain ⟨f', rfl⟩ := returned_iff.1 hr
    have hsame : f' = f := by
      have heq := (hverdict h).symm.trans hrefusal
      exact Option.map_injective (fun _ _ => Stop.fault.inj) heq
    exact ⟨d', hsame ▸ h, rfl⟩

/-- One host in one hour takes one word for the window and one for the host.  No metrics are refused
before the window is looked at, for which there would be no room. -/
theorem returns_iff_taken_one_host :
    (∃ d', (compose (.devops (.groupByTime 1 1 (.ofHours 1)))).outcome
        ⟨.narrow (.ofSeed 0), .empty⟩ = some (.ok (), d')
      ∧ d'.generator.source = (Lagged.ofSeed 0).step.2.step.2)
    ∧ ∃ d', (compose (.devops (.doubleGroupBy 0))).outcome
        ⟨⟨.devops, ⟨0, 1⟩, 1, .ofSeed 0⟩, .empty⟩ = some (.error (.fault .noMetrics), d')
      ∧ d'.generator.source = .ofSeed 0 := by
  constructor
  · have hroom : Interval.room? ⟨0, 3600000000001⟩ (.ofHours 1) = some 1 := by decide
    have hreg : (Generator.narrow (.ofSeed 0)).setting.Regular :=
      ⟨by decide, by decide, by decide, by decide⟩
    obtain ⟨-, -, l, hl, -⟩ := Draw.outcome_tags_ok.1
      (Draw.outcome_tags_one .host (Lagged.ofSeed 0).step.2)
    refine (returns_iff_taken (.devops (.groupByTime 1 1 (.ofHours 1)))
      (d := ⟨.narrow (.ofSeed 0), .empty⟩) hreg none _).2 ⟨by decide, ?_⟩
    exact ⟨_, ⟨1, 0, hroom, Draw.outcome_longBelow_one _⟩, _, ⟨l, hl⟩, rfl⟩
  · exact (returns_iff_taken (.devops (.doubleGroupBy 0))
      (d := ⟨⟨.devops, ⟨0, 1⟩, 1, .ofSeed 0⟩, .empty⟩)
      ⟨by decide, by decide, by decide, by decide⟩ (some .noMetrics) _).2 ⟨by decide, rfl⟩

end Template

end FluxCorpus
