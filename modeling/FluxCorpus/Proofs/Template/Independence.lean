import FluxCorpus.Proofs.Template.Fault

/-!
# What a template depends on

A template that names no single host or truck does not depend on the scale, although the scale is
carried through every call; and a template that draws nothing depends on the interval alone.

* `Desk.mapGenerator`, `Generator.withScale` — the same desk with a generator that is changed.
* `Compose.ScaleFree` — a computation to which another scale makes no difference;
  `Template.scaleFree` — the templates that name nobody.
* `Compose.Steady` — a computation whose record is a function of the interval;
  `Template.steady` — the templates that draw nothing.
-/

namespace FluxCorpus

/-! ## Generators that are changed -/

/-- The desk with a change of its generator. -/
def Desk.mapGenerator (γ : Generator → Generator) (d : Desk) : Desk :=
  { d with generator := γ d.generator }

/-- The generator with another scale. -/
def Generator.withScale (n : Nat) (g : Generator) : Generator := { g with scale := n }

/-- The generator with another scale and another source. -/
def Generator.restart (n : Nat) (s : Lagged) (g : Generator) : Generator :=
  { g with scale := n, source := s }

namespace Compose

variable {α β : Type} {γ : Generator → Generator}

/-! ## Independence of the scale -/

/-- Another scale makes no difference to a computation. -/
def ScaleFree (x : Compose α) : Prop := ∀ n, Ignores (Desk.mapGenerator (.withScale n)) x

theorem keepsDraws_withScale (n : Nat) : KeepsDraws (Desk.mapGenerator (.withScale n)) :=
  ⟨fun _ => rfl, fun _ => rfl, fun _ _ => rfl⟩

theorem ScaleFree.bind {x : Compose α} {k : α → Compose β} (hx : ScaleFree x)
    (hk : ∀ a, ScaleFree (k a)) : ScaleFree (x >>= k) :=
  fun n => (hx n).bind fun a => hk a n

theorem scaleFree_pure (a : α) : ScaleFree (pure a) := fun _ => ignores_pure a

theorem scaleFree_interval : ScaleFree interval := fun n => ignores_interval (keepsDraws_withScale n)

theorem scaleFree_window (d : Duration) : ScaleFree (window d) :=
  fun n => ignores_window (keepsDraws_withScale n) d

theorem scaleFree_fleet : ScaleFree fleet := fun n => ignores_fleet (keepsDraws_withScale n)

theorem scaleFree_ofCheck (c : Except Fault α) : ScaleFree (ofCheck c) := fun _ => ignores_ofCheck c

theorem scaleFree_oneOf (column : String) (values : List String) :
    ScaleFree (oneOf column values) :=
  fun _ => ignores_oneOf column values

theorem scaleFree_write (label description flux : String) :
    ScaleFree (write label description flux) :=
  fun _ _ => rfl

/-- An empty sample is refused before the scale is looked at. -/
theorem scaleFree_tagPredicate_zero (kind : TagKind) : ScaleFree (tagPredicate kind 0) := by
  have htags : ScaleFree (tags kind 0) := fun _ _ => rfl
  exact htags.bind fun names => scaleFree_oneOf kind.column names

theorem scaleFree_hostCondition_zero : ScaleFree (hostCondition 0) := scaleFree_pure ""

theorem scaleFree_longSessions (d : Duration) (threshold : Nat) :
    ScaleFree (longSessions d threshold) :=
  (scaleFree_window d).bind fun _ => scaleFree_interval.bind fun _ =>
    scaleFree_fleet.bind fun _ => scaleFree_pure _

/-! ## Computations that draw nothing -/

/-- A computation that always fills in the record, with what the interval alone decides, and does
nothing else. -/
def Steady (x : Compose Unit) (record : Interval → Query) : Prop :=
  ∀ d, x.outcome d = some (.ok (), { d with record := record d.generator.interval })

theorem steady_write (label description flux : String) :
    Steady (write label description flux) fun _ => .ofFlux label description flux :=
  fun _ => rfl

theorem steady_interval_bind {f : Interval → Compose Unit} {record : Interval → Interval → Query}
    (hf : ∀ i, Steady (f i) (record i)) : Steady (interval >>= f) fun i => record i i := by
  intro d
  rw [Process.outcome_bind, outcome_interval]
  exact hf d.generator.interval d

/-- A change of the generator that keeps the interval makes no difference. -/
theorem Steady.ignores {x : Compose Unit} {record : Interval → Query} (hx : Steady x record)
    (hγ : ∀ g, (γ g).interval = g.interval) : Ignores (Desk.mapGenerator γ) x := by
  intro d
  simp [hx _, Desk.mapGenerator, hγ]

end Compose

/-! ## Templates -/

namespace Template

open Compose

/-- **A template that names no host and no truck does not depend on the scale.**  If it could name
some and is asked for none, it either is about all of them or fails before it looks at the scale. -/
theorem scaleFree {t : Template} (ht : ∀ r ∈ t.sample?, r.2 = 0) : ScaleFree t.compose := by
  cases t with
  | devops t =>
    cases t with
    | groupByTime hosts metrics duration =>
      obtain rfl : hosts = 0 := ht (.host, hosts) rfl
      exact (scaleFree_window duration).bind fun _ => (scaleFree_ofCheck _).bind fun _ =>
        (scaleFree_oneOf _ _).bind fun _ => (scaleFree_tagPredicate_zero .host).bind fun _ =>
        scaleFree_write _ _ _
    | groupByOrderByLimit => exact (scaleFree_window _).bind fun _ => scaleFree_write _ _ _
    | doubleGroupBy metrics =>
      exact (scaleFree_ofCheck _).bind fun _ => (scaleFree_window _).bind fun _ =>
        (scaleFree_oneOf _ _).bind fun _ => scaleFree_write _ _ _
    | maxAll hosts duration =>
      obtain rfl : hosts = 0 := ht (.host, hosts) rfl
      exact (scaleFree_window duration).bind fun _ =>
        (scaleFree_tagPredicate_zero .host).bind fun _ => (scaleFree_oneOf _ _).bind fun _ =>
        scaleFree_write _ _ _
    | lastPoint => exact scaleFree_write _ _ _
    | highCpu hosts =>
      obtain rfl : hosts = 0 := ht (.host, hosts) rfl
      exact (scaleFree_window _).bind fun _ => scaleFree_hostCondition_zero.bind fun _ =>
        scaleFree_write _ _ _
  | iot t =>
    cases t with
    | lastLocationByTruck trucks =>
      obtain rfl : trucks = 0 := ht (.truck, trucks) rfl
      exact (scaleFree_tagPredicate_zero .truck).bind fun _ => scaleFree_write _ _ _
    | lastLocationPerTruck => exact scaleFree_fleet.bind fun _ => scaleFree_write _ _ _
    | lowFuel => exact scaleFree_fleet.bind fun _ => scaleFree_write _ _ _
    | highLoad => exact scaleFree_fleet.bind fun _ => scaleFree_write _ _ _
    | stationaryTrucks =>
      exact (scaleFree_window _).bind fun _ => scaleFree_fleet.bind fun _ => scaleFree_write _ _ _
    | longDrivingSessions =>
      exact (scaleFree_longSessions _ _).bind fun _ => scaleFree_write _ _ _
    | longDailySessions =>
      exact (scaleFree_longSessions _ _).bind fun _ => scaleFree_write _ _ _
    | fuelConsumption => exact scaleFree_write _ _ _
    | dailyDrivingDuration => exact scaleFree_interval.bind fun _ => scaleFree_write _ _ _
    | dailyDrivingSession => exact scaleFree_interval.bind fun _ => scaleFree_write _ _ _
    | averageLoad => exact scaleFree_write _ _ _
    | dailyActivity => exact scaleFree_interval.bind fun _ => scaleFree_write _ _ _
    | breakdownFrequency => exact scaleFree_interval.bind fun _ => scaleFree_write _ _ _

/-- The templates that draw nothing. -/
def undrawn : List Template :=
  [.devops .lastPoint, .iot .fuelConsumption, .iot .dailyDrivingDuration,
    .iot .dailyDrivingSession, .iot .averageLoad, .iot .dailyActivity, .iot .breakdownFrequency]

/-- **A template that draws nothing depends on the interval alone.** -/
theorem steady {t : Template} (ht : t ∈ undrawn) : ∃ record, Steady t.compose record := by
  simp only [undrawn, List.mem_cons, List.not_mem_nil, or_false] at ht
  rcases ht with rfl | rfl | rfl | rfl | rfl | rfl | rfl
  · exact ⟨_, steady_write _ _ _⟩
  · exact ⟨_, steady_write _ _ _⟩
  · exact ⟨_, steady_interval_bind fun i => steady_write _ _ _⟩
  · exact ⟨_, steady_interval_bind fun i => steady_write _ _ _⟩
  · exact ⟨_, steady_write _ _ _⟩
  · exact ⟨_, steady_interval_bind fun i => steady_write _ _ _⟩
  · exact ⟨_, steady_interval_bind fun i => steady_write _ _ _⟩

end Template

/-! ## Query types -/

namespace QueryType

open Compose

variable {t : QueryType} {γ : Generator → Generator}

/-- A change of the generator that keeps its use case makes no more difference to a query type than
to its template. -/
theorem ignores (ht : Ignores (Desk.mapGenerator γ) t.template.compose)
    (hγ : ∀ g, (γ g).useCase = g.useCase) : Ignores (Desk.mapGenerator γ) t.compose := by
  intro d
  have hsame : (d.mapGenerator γ).generator.useCase = d.generator.useCase := hγ d.generator
  by_cases huse : t.template.useCase = d.generator.useCase
  · rw [outcome_compose huse, outcome_compose (huse.trans hsame.symm)]
    exact ht d
  · rw [outcome_compose_of_ne huse, outcome_compose_of_ne (by rwa [hsame]), hsame]
    exact ignores_ofCheck _ d

/-- The names of the query types that draw nothing. -/
def undrawn : List String :=
  ["lastpoint", "avg-vs-projected-fuel-consumption", "avg-daily-driving-duration",
    "avg-daily-driving-session", "avg-load", "daily-activity", "breakdown-frequency"]

/-- The names of the query types that draw something, but no hosts and no trucks. -/
def nameless : List String :=
  ["double-groupby-1", "double-groupby-5", "double-groupby-all", "high-cpu-all",
    "groupby-orderby-limit", "last-loc", "low-fuel", "high-load", "stationary-trucks",
    "long-driving-sessions", "long-daily-sessions"]

theorem template_mem_undrawn : ∀ t ∈ catalog, t.name ∈ undrawn → t.template ∈ Template.undrawn := by
  decide

theorem sample?_of_nameless :
    ∀ t ∈ catalog, t.name ∈ nameless → ∀ r ∈ t.template.sample?, r.2 = 0 := by
  decide

end QueryType

end FluxCorpus
