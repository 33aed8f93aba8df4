import FluxCorpus.Proofs.Template.Success

/-!
# Success does not depend on the draws

Whether a query can be composed, and why not, is decided by the setting of the generator: its use
case, its interval and its scale.  The source has no part in it, and no call changes the setting.

* `Setting`, `Setting.Regular` — the constant part of a generator, and what is asked of it.
* `Compose.Settles` — a step whose failures are known from the setting; kept by sequences
  (`Settles.bind`).
* `Template.refusal`, `QueryType.refusal` — the failures of the templates and query types.
* `Template.settles`, `QueryType.settles` — these are their failures, and all of them.
-/

namespace FluxCorpus

/-! ## Settings -/

/-- What a generator never changes. -/
structure Setting where
  useCase : UseCase
  interval : Interval
  scale : Nat

/-- The constant part of a generator. -/
def Generator.setting (g : Generator) : Setting := ⟨g.useCase, g.interval, g.scale⟩

/-- The bounds of the interval are representable, and the scale is a positive number of 63 bits. -/
structure Setting.Regular (c : Setting) : Prop where
  start : Representable c.interval.start
  stop : Representable c.interval.stop
  scale_pos : 0 < c.scale
  scale_lt : c.scale < Width.long.range

namespace Compose

variable {α β : Type} {x : Compose α} {refusal refusal' : Setting → Option Stop} {P : α → Prop}
  {Q : β → Prop}

/-! ## Steps whose failures are known -/

/-- A step that keeps the setting, returns only values with a property and, in a regular setting,
stops exactly where `refusal` says so, for the reason that it gives. -/
structure Settles (x : Compose α) (refusal : Setting → Option Stop) (P : α → Prop) : Prop where
  keeps : ∀ {d r d'}, x.outcome d = some (r, d') → d'.generator.setting = d.generator.setting
  value : ∀ {d a d'}, x.outcome d = some (.ok a, d') → P a
  ok : ∀ {d a d'}, d.generator.setting.Regular → x.outcome d = some (.ok a, d') →
    refusal d.generator.setting = none
  error : ∀ {d e d'}, d.generator.setting.Regular → x.outcome d = some (.error e, d') →
    refusal d.generator.setting = some e

/-- In a sequence the first refusal counts. -/
theorem Settles.bind (hx : Settles x refusal P) {f : α → Compose β}
    (hf : ∀ a, P a → Settles (f a) refusal' Q) :
    Settles (x >>= f) (fun c => (refusal c).or (refusal' c)) Q where
  keeps := by
    intro d r d' h
    rw [Process.outcome_bind] at h
    split at h
    · next a d₁ ha => exact ((hf a (hx.value ha)).keeps h).trans (hx.keeps ha)
    · next e d₁ he =>
      cases h
      exact hx.keeps he
    · cases h
  value := by
    intro d b d' h
    obtain ⟨a, d₁, ha, hb⟩ := Process.outcome_bind_ok.1 h
    exact (hf a (hx.value ha)).value hb
  ok := by
    intro d b d' hreg h
    obtain ⟨a, d₁, ha, hb⟩ := Process.outcome_bind_ok.1 h
    have hkeep := hx.keeps ha
    rw [hx.ok hreg ha, Option.none_or, ← hkeep]
    exact (hf a (hx.value ha)).ok (hkeep ▸ hreg) hb
  error := by
    intro d e d' hreg h
    obtain he | ⟨a, d₁, ha, he⟩ := Process.outcome_bind_error.1 h
    · rw [hx.error hreg he, Option.some_or]
    · have hkeep := hx.keeps ha
      rw [hx.ok hreg ha, Option.none_or, ← hkeep]
      exact (hf a (hx.value ha)).error (hkeep ▸ hreg) he

/-- A refusal can be put in another way. -/
theorem Settles.congr (hx : Settles x refusal P) (h : ∀ c, refusal c = refusal' c) :
    Settles x refusal' P := by
  rwa [funext h] at hx

/-- A step that is one step in some settings and another step in all others. -/
theorem Settles.ite {y z : Compose α} (p : Setting → Prop) [DecidablePred p]
    (hx : Settles x refusal P) (hy : Settles y refusal' P)
    (hpos : ∀ d, p d.generator.setting → z.outcome d = x.outcome d)
    (hneg : ∀ d, ¬ p d.generator.setting → z.outcome d = y.outcome d) :
    Settles z (fun c => if p c then refusal c else refusal' c) P := by
  constructor
  · intro d r d' h
    by_cases hp : p d.generator.setting
    · exact hx.keeps (hpos d hp ▸ h)
    · exact hy.keeps (hneg d hp ▸ h)
  · intro d a d' h
    by_cases hp : p d.generator.setting
    · exact hx.value (hpos d hp ▸ h)
    · exact hy.value (hneg d hp ▸ h)
  · intro d a d' hreg h
    by_cases hp : p d.generator.setting
    · rw [if_pos hp]
      exact hx.ok hreg (hpos d hp ▸ h)
    · rw [if_neg hp]
      exact hy.ok hreg (hneg d hp ▸ h)
  · intro d e d' hreg h
    by_cases hp : p d.generator.setting
    · rw [if_pos hp]
      exact hx.error hreg (hpos d hp ▸ h)
    · rw [if_neg hp]
      exact hy.error hreg (hneg d hp ▸ h)

/-- A draw keeps the setting, and has the failures that it has on any source. -/
theorem settles_of_draw (y : Setting → Draw Lagged α)
    (hx : ∀ d, x.outcome d = ((y d.generator.setting).outcome d.generator.source).map
      fun (r, s) => (r, d.withSource s))
    (hvalue : ∀ {c s a s'}, (y c).outcome s = some (.ok a, s') → P a)
    (hok : ∀ {c s a s'}, c.Regular → (y c).outcome s = some (.ok a, s') → refusal c = none)
    (herror : ∀ {c s e s'}, c.Regular → (y c).outcome s = some (.error e, s') →
      refusal c = some e) : Settles x refusal P := by
  have hdraw : ∀ {d r d'}, x.outcome d = some (r, d') →
      ∃ s, (y d.generator.setting).outcome d.generator.source = some (r, s)
        ∧ d' = d.withSource s := by
    intro d r d' h
    rw [hx, Option.map_eq_some_iff] at h
    obtain ⟨⟨r, s⟩, hy, heq⟩ := h
    cases heq
    exact ⟨s, hy, rfl⟩
  constructor
  · intro d r d' h
    obtain ⟨s, -, rfl⟩ := hdraw h
    rfl
  · intro d a d' h
    obtain ⟨s, hy, -⟩ := hdraw h
    exact hvalue hy
  · intro d a d' hreg h
    obtain ⟨s, hy, -⟩ := hdraw h
    exact hok hreg hy
  · intro d e d' hreg h
    obtain ⟨s, hy, -⟩ := hdraw h
    exact herror hreg hy

/-- Why a check fails. -/
def failureOf : Except Fault α → Option Stop
  | .ok _ => none
  | .error f => some (.fault f)

theorem failureOf_eq_none {r : Except Fault α} : failureOf r = none ↔ ∃ a, r = .ok a := by
  cases r with
  | ok a => exact ⟨fun _ => ⟨a, rfl⟩, fun _ => rfl⟩
  | error f => exact ⟨nofun, nofun⟩

/-- A check of the setting leaves the desk as it is. -/
theorem settles_of_check (check : Setting → Except Fault α)
    (hx : ∀ d, x.outcome d = some ((check d.generator.setting).mapError .fault, d))
    (hvalue : ∀ {c a}, check c = .ok a → P a) : Settles x (fun c => failureOf (check c)) P := by
  constructor
  · intro d r d' h
    rw [hx] at h
    cases h
    rfl
  · intro d a d' h
    rw [hx] at h
    cases hc : check d.generator.setting with
    | error f =>
      rw [hc] at h
      cases h
    | ok b =>
      rw [hc] at h
      cases h
      exact hvalue hc
  · intro d a d' _ h
    rw [hx] at h
    cases hc : check d.generator.setting with
    | error f =>
      rw [hc] at h
      cases h
    | ok b => rfl
  · intro d e d' _ h
    rw [hx] at h
    cases hc : check d.generator.setting with
    | error f =>
      rw [hc] at h
      cases h
      rfl
    | ok b =>
      rw [hc] at h
      cases h

/-! ## The steps of a template -/

/-- A window is refused if it has no place in the interval. -/
def windowRefusal (duration : Duration) (c : Setting) : Option Stop :=
  if c.interval.room? duration = none then
    some (.fault (.windowTooLarge duration c.interval.length))
  else none

/-- A sample is refused if it is empty, if there are not enough hosts or trucks, or if a set has no
room for it. -/
def sampleRefusal (kind : TagKind) (n : Nat) (c : Setting) : Option Stop :=
  if n < 1 then some (.fault (.tooFewTags kind n))
  else if c.scale < n then some (.fault (.tooManyTags kind n c.scale))
  else if Draw.greatestSample < n then some (.breach .setSize)
  else none

/-- Metrics are refused for their number. -/
def metricsRefusal (n : Nat) (_ : Setting) : Option Stop := failureOf (firstMetrics n)

theorem metricsRefusal_eq_none {n : Nat} {c : Setting} :
    metricsRefusal n c = none ↔ n ≠ 0 ∧ n ≤ cpuMetrics.length := by
  rw [metricsRefusal, failureOf_eq_none]
  constructor
  · rintro ⟨names, h⟩
    obtain ⟨hpos, hle, -⟩ := firstMetrics_ok.1 h
    exact ⟨hpos, hle⟩
  · rintro ⟨hpos, hle⟩
    exact ⟨_, firstMetrics_ok.2 ⟨hpos, hle, rfl⟩⟩

theorem settles_pure (a : α) : Settles (pure a) (fun _ => none) (fun _ => True) :=
  settles_of_check (fun _ => .ok a) (fun _ => rfl) fun _ => trivial

theorem settles_interval : Settles interval (fun _ => none) (fun _ => True) :=
  settles_of_check (fun c => .ok c.interval) (fun _ => rfl) fun _ => trivial

theorem settles_window (duration : Duration) :
    Settles (window duration) (windowRefusal duration) (fun _ => True) := by
  refine settles_of_draw (fun c => c.interval.window duration) (outcome_window duration)
    (fun _ => trivial) ?_ ?_
  · intro c s w s' _ h
    rw [windowRefusal, if_neg]
    intro hroom
    rw [Interval.window, hroom] at h
    cases h
  · intro c s e s' hreg h
    obtain ⟨hroom, rfl⟩ := Interval.outcome_window_error hreg.start hreg.stop h
    rw [windowRefusal, if_pos hroom]

theorem settles_tags (kind : TagKind) (n : Nat) :
    Settles (tags kind n) (sampleRefusal kind n) (fun names => names ≠ []) := by
  refine settles_of_draw (fun c => Draw.tags kind n c.scale) (fun _ => rfl)
    Draw.tags_ne_nil ?_ ?_
  · intro c s names s' _ h
    obtain ⟨hpos, hle, l, hl, -⟩ := Draw.outcome_tags_ok.1 h
    obtain ⟨hroom, -⟩ := Draw.outcome_subset_ok.1 hl
    rw [sampleRefusal, if_neg (by omega), if_neg (by omega), if_neg (by omega)]
  · intro c s e s' hreg h
    obtain ⟨hfew, rfl⟩ | ⟨hpos, hmany, rfl⟩ | ⟨hpos, hle, hbig, rfl⟩ :=
      Draw.outcome_tags_error hreg.scale_pos hreg.scale_lt h
    · rw [sampleRefusal, if_pos hfew]
    · rw [sampleRefusal, if_neg (by omega), if_pos hmany]
    · rw [sampleRefusal, if_neg (by omega), if_neg (by omega), if_pos hbig]

theorem settles_fleet : Settles fleet (fun _ => none) (fun _ => True) := by
  refine settles_of_draw (fun _ => Draw.fleet) (fun _ => rfl) (fun _ => trivial)
    (fun _ _ => rfl) ?_
  intro c s e s' _ h
  exact absurd h (Draw.neverStops_fleet s e s')

theorem settles_firstMetrics (n : Nat) :
    Settles (ofCheck (firstMetrics n)) (metricsRefusal n) (fun names => names ≠ []) := by
  refine settles_of_check (fun _ => firstMetrics n) (outcome_ofCheck _) ?_
  · intro _ names h
    obtain ⟨hpos, -, rfl⟩ := firstMetrics_ok.1 h
    exact take_cpuMetrics_ne_nil hpos

theorem settles_oneOf {column : String} {values : List String} (h : values ≠ []) :
    Settles (oneOf column values) (fun _ => none) (fun _ => True) := by
  refine settles_of_check (fun _ => .ok (Flux.oneOf column values)) ?_ (fun _ => trivial)
  intro d
  exact oneOf_ok.2 ⟨h, rfl, rfl⟩

theorem settles_tagPredicate (kind : TagKind) (n : Nat) :
    Settles (tagPredicate kind n) (sampleRefusal kind n) (fun _ => True) := by
  refine ((settles_tags kind n).bind fun names hne => settles_oneOf hne).congr fun c => ?_
  rw [Option.or_none]

theorem settles_write (label description flux : String) :
    Settles (write label description flux) (fun _ => none) (fun _ => True) := by
  constructor
  · rintro d r d' ⟨⟩
    rfl
  · intro _ _ _ _
    trivial
  · intro _ _ _ _ _
    rfl
  · rintro d e d' _ ⟨⟩

/-! ## The templates about hosts -/

theorem settles_groupByTime (hosts metrics : Nat) (duration : Duration) :
    Settles (groupByTime hosts metrics duration)
      (fun c => (windowRefusal duration c).or
        ((metricsRefusal metrics c).or (sampleRefusal .host hosts c))) (fun _ => True) := by
  refine ((settles_window duration).bind fun w _ =>
    (settles_firstMetrics metrics).bind fun names hne =>
    (settles_oneOf hne).bind fun fields _ =>
    (settles_tagPredicate .host hosts).bind fun p _ => settles_write _ _ _).congr fun c => ?_
  rw [Option.none_or, Option.or_none]

theorem settles_groupByOrderByLimit :
    Settles groupByOrderByLimit (windowRefusal (.ofHours 1)) (fun _ => True) := by
  refine ((settles_window (.ofHours 1)).bind fun w _ => settles_write _ _ _).congr fun c => ?_
  rw [Option.or_none]

theorem settles_doubleGroupBy (metrics : Nat) :
    Settles (doubleGroupBy metrics)
      (fun c => (metricsRefusal metrics c).or (windowRefusal doubleGroupByWindow c))
      (fun _ => True) := by
  refine ((settles_firstMetrics metrics).bind fun names hne =>
    (settles_window doubleGroupByWindow).bind fun w _ =>
    (settles_oneOf hne).bind fun fields _ => settles_write _ _ _).congr fun c => ?_
  rw [Option.none_or, Option.or_none]

theorem settles_maxAll (hosts : Nat) (duration : Duration) :
    Settles (maxAll hosts duration)
      (fun c => (windowRefusal duration c).or (sampleRefusal .host hosts c)) (fun _ => True) := by
  have hmetrics : cpuMetrics ≠ [] := List.cons_ne_nil _ _
  refine ((settles_window duration).bind fun w _ =>
    (settles_tagPredicate .host hosts).bind fun p _ =>
    (settles_oneOf hmetrics).bind fun fields _ => settles_write _ _ _).congr fun c => ?_
  rw [Option.or_none, Option.or_none]

/-- No hosts are never refused where they mean all of them. -/
def conditionRefusal (hosts : Nat) (c : Setting) : Option Stop :=
  if hosts = 0 then none else sampleRefusal .host hosts c

theorem settles_hostCondition (hosts : Nat) :
    Settles (hostCondition hosts) (conditionRefusal hosts) (fun _ => True) := by
  rw [hostCondition]
  split
  · next hzero =>
    refine (settles_pure "").congr fun c => ?_
    rw [conditionRefusal, if_pos hzero]
  · next hne =>
    refine ((settles_tagPredicate .host hosts).bind fun p _ => settles_pure _).congr fun c => ?_
    rw [Option.or_none, conditionRefusal, if_neg hne]

theorem settles_highCpu (hosts : Nat) :
    Settles (highCpu hosts)
      (fun c => (windowRefusal highCpuWindow c).or (conditionRefusal hosts c)) (fun _ => True) := by
  refine ((settles_window highCpuWindow).bind fun w _ =>
    (settles_hostCondition hosts).bind fun p _ => settles_write _ _ _).congr fun c => ?_
  rw [Option.or_none]

/-! ## The templates about trucks -/

theorem settles_lastLocationByTruck (trucks : Nat) :
    Settles (lastLocationByTruck trucks) (sampleRefusal .truck trucks) (fun _ => True) := by
  refine ((settles_tagPredicate .truck trucks).bind fun p _ => settles_write _ _ _).congr
    fun c => ?_
  rw [Option.or_none]

/-- What a template needs of its fleet never fails. -/
theorem settles_of_fleet {f : String → Compose Unit}
    (hf : ∀ name, Settles (f name) (fun _ => none) (fun _ => True)) :
    Settles (fleet >>= f) (fun _ => none) (fun _ => True) :=
  settles_fleet.bind fun name _ => hf name

theorem settles_stationaryTrucks :
    Settles stationaryTrucks (windowRefusal stationaryWindow) (fun _ => True) := by
  refine ((settles_window stationaryWindow).bind fun w _ =>
    settles_of_fleet fun f => settles_write _ _ _).congr fun c => ?_
  rw [Option.or_none]

theorem settles_longSessions (duration : Duration) (threshold : Nat) :
    Settles (longSessions duration threshold) (windowRefusal duration) (fun _ => True) := by
  refine ((settles_window duration).bind fun w _ => settles_interval.bind fun i _ =>
    settles_fleet.bind fun f _ => settles_pure _).congr fun c => ?_
  rw [Option.none_or, Option.none_or, Option.or_none]

theorem settles_longDrivingSessions :
    Settles longDrivingSessions (windowRefusal longSessionWindow) (fun _ => True) := by
  refine ((settles_longSessions _ _).bind fun flux _ => settles_write _ _ _).congr fun c => ?_
  rw [Option.or_none]

theorem settles_longDailySessions :
    Settles longDailySessions (windowRefusal dailyWindow) (fun _ => True) := by
  refine ((settles_longSessions _ _).bind fun flux _ => settles_write _ _ _).congr fun c => ?_
  rw [Option.or_none]

end Compose

/-! ## All templates -/

open Compose

/-- Why a template fails in a setting, if it does. -/
def Template.refusal : Template → Setting → Option Stop
  | .devops (.groupByTime hosts metrics duration), c =>
    (windowRefusal duration c).or ((metricsRefusal metrics c).or (sampleRefusal .host hosts c))
  | .devops .groupByOrderByLimit, c => windowRefusal (.ofHours 1) c
  | .devops (.doubleGroupBy metrics), c =>
    (metricsRefusal metrics c).or (windowRefusal doubleGroupByWindow c)
  | .devops (.maxAll hosts duration), c =>
    (windowRefusal duration c).or (sampleRefusal .host hosts c)
  | .devops .lastPoint, _ => none
  | .devops (.highCpu hosts), c => (windowRefusal highCpuWindow c).or (conditionRefusal hosts c)
  | .iot (.lastLocationByTruck trucks), c => sampleRefusal .truck trucks c
  | .iot .stationaryTrucks, c => windowRefusal stationaryWindow c
  | .iot .longDrivingSessions, c => windowRefusal longSessionWindow c
  | .iot .longDailySessions, c => windowRefusal dailyWindow c
  | .iot _, _ => none

/-- **The setting alone decides whether a template succeeds.** -/
theorem Template.settles (t : Template) : Settles t.compose t.refusal (fun _ => True) := by
  cases t with
  | devops t =>
    cases t with
    | groupByTime hosts metrics duration => exact settles_groupByTime hosts metrics duration
    | groupByOrderByLimit => exact settles_groupByOrderByLimit
    | doubleGroupBy metrics => exact settles_doubleGroupBy metrics
    | maxAll hosts duration => exact settles_maxAll hosts duration
    | lastPoint => exact settles_write _ _ _
    | highCpu hosts => exact settles_highCpu hosts
  | iot t =>
    cases t with
    | lastLocationByTruck trucks => exact settles_lastLocationByTruck trucks
    | lastLocationPerTruck => exact settles_of_fleet fun f => settles_write _ _ _
    | lowFuel => exact settles_of_fleet fun f => settles_write _ _ _
    | highLoad => exact settles_of_fleet fun f => settles_write _ _ _
    | stationaryTrucks => exact settles_stationaryTrucks
    | longDrivingSessions => exact settles_longDrivingSessions
    | longDailySessions => exact settles_longDailySessions
    | fuelConsumption => exact settles_write _ _ _
    | dailyDrivingDuration => exact settles_interval.bind fun i _ => settles_write _ _ _
    | dailyDrivingSession => exact settles_interval.bind fun i _ => settles_write _ _ _
    | averageLoad => exact settles_write _ _ _
    | dailyActivity => exact settles_interval.bind fun i _ => settles_write _ _ _
    | breakdownFrequency => exact settles_interval.bind fun i _ => settles_write _ _ _

/-- Why a query type fails in a setting, if it does: its template fails, or cannot be asked. -/
def QueryType.refusal (t : QueryType) (c : Setting) : Option Stop :=
  if t.template.useCase = c.useCase then t.template.refusal c
  else failureOf (t.checkUseCase c.useCase)

namespace QueryType

/-- In a generator of the use case of its template a query type is that template. -/
theorem outcome_compose {t : QueryType} {d : Desk} (h : t.template.useCase = d.generator.useCase) :
    t.compose.outcome d = t.template.compose.outcome d := by
  rw [compose, Process.outcome_bind, Process.outcome_get]
  dsimp only
  rw [if_pos h]

/-- In any other generator it is the check of its own use case. -/
theorem outcome_compose_of_ne {t : QueryType} {d : Desk}
    (h : t.template.useCase ≠ d.generator.useCase) :
    t.compose.outcome d = (ofCheck (t.checkUseCase d.generator.useCase)).outcome d := by
  rw [compose, Process.outcome_bind, Process.outcome_get]
  dsimp only
  rw [if_neg h]

/-- **The setting alone decides whether a query of a type can be composed.** -/
theorem settles (t : QueryType) : Settles t.compose t.refusal (fun _ => True) := by
  have hcheck : Settles (do ofCheck (t.checkUseCase (← get).generator.useCase))
      (fun c => failureOf (t.checkUseCase c.useCase)) (fun _ => True) := by
    refine settles_of_check (fun c => t.checkUseCase c.useCase) ?_ (fun _ => trivial)
    intro d
    rw [Process.outcome_bind, Process.outcome_get]
    exact outcome_ofCheck _ d
  refine Settles.ite (fun c => t.template.useCase = c.useCase) t.template.settles hcheck ?_ ?_
  · intro d h
    exact outcome_compose h
  · intro d h
    rw [outcome_compose_of_ne h, Process.outcome_bind, Process.outcome_get]

end QueryType

end FluxCorpus
