import FluxCorpus.Proofs.Compose
import FluxCorpus.Proofs.Random.Subset
import FluxCorpus.Proofs.Time.Window
import FluxCorpus.QueryType

/-!
# What a template that succeeds has done

A template that succeeds has made its draws in a fixed order, each on the source that the one before
it left, and has filled in the record from what they returned.  There is one lemma for each template
that draws a window or a sample; everything else about such a template follows from it.

* `Template.window?`, `Template.sample?`, `Template.metrics?` — what a template draws and names.
* `Compose.groupByTime_ok` and its like — the draws and the record of a template that succeeds.
* `Compose.groupByTime_narrow` — a generator for which there is no failure, whatever its source.
-/

namespace FluxCorpus

open Flux (paragraphs)

/-! ## What a template draws -/

namespace Template

/-- The length of the window that a template draws, if it draws one. -/
def window? : Template → Option Duration
  | .devops (.groupByTime _ _ d) => some d
  | .devops .groupByOrderByLimit => some (.ofHours 1)
  | .devops (.doubleGroupBy _) => some doubleGroupByWindow
  | .devops (.maxAll _ d) => some d
  | .devops .lastPoint => none
  | .devops (.highCpu _) => some highCpuWindow
  | .iot .stationaryTrucks => some stationaryWindow
  | .iot .longDrivingSessions => some longSessionWindow
  | .iot .longDailySessions => some dailyWindow
  | .iot _ => none

/-- What a template samples and how many of them, if it names single hosts or trucks. -/
def sample? : Template → Option (TagKind × Nat)
  | .devops (.groupByTime hosts _ _) => some (.host, hosts)
  | .devops (.maxAll hosts _) => some (.host, hosts)
  | .devops (.highCpu hosts) => some (.host, hosts)
  | .devops _ => none
  | .iot (.lastLocationByTruck trucks) => some (.truck, trucks)
  | .iot _ => none

/-- The number of metrics that a template names beside its sample, if it names any. -/
def metrics? : Template → Option Nat
  | .devops (.groupByTime _ metrics _) => some metrics
  | .devops (.maxAll _ _) => some cpuMetrics.length
  | _ => none

/-- The source from which a template draws its sample: the one behind its window, if it has one. -/
def SamplesFrom (t : Template) (g : Generator) (s : Lagged) : Prop :=
  match t.window? with
  | some d => ∃ w, (g.interval.window d).outcome g.source = some (.ok w, s)
  | none => s = g.source

end Template

/-! ## Records and metrics -/

/-- The record of a script that has the start of a window in its description. -/
def Query.atStart (label : String) (w : Interval) (script : List String) : Query :=
  .ofFlux label (label ++ ": " ++ w.startText) (paragraphs [script])

theorem take_cpuMetrics_ne_nil {n : Nat} (h : n ≠ 0) : cpuMetrics.take n ≠ [] := by
  rw [ne_eq, List.take_eq_nil_iff]
  rintro (hzero | hnil)
  · exact h hzero
  · cases hnil

theorem firstMetrics_ok {n : Nat} {names : List String} :
    firstMetrics n = .ok names ↔
      n ≠ 0 ∧ n ≤ cpuMetrics.length ∧ names = cpuMetrics.take n := by
  rw [firstMetrics]
  split
  · next hzero =>
    constructor
    · rintro ⟨⟩
    · rintro ⟨hn, -⟩
      exact absurd hzero hn
  split
  · next hmany =>
    constructor
    · rintro ⟨⟩
    · rintro ⟨-, hn, -⟩
      omega
  · next hn hlen =>
    constructor
    · rintro ⟨⟩
      exact ⟨hn, by omega, rfl⟩
    · rintro ⟨-, -, rfl⟩
      rfl

namespace Compose

open Process (outcome_bind_ok)

variable {d d' : Desk} {u : Unit}

theorem writeAt_ok {label : String} {w : Interval} {script : List String} :
    (writeAt label w (paragraphs [script])).outcome d = some (.ok u, d') ↔
      d' = d.filed d.generator.source (.atStart label w script) :=
  write_ok

theorem fieldPredicate_ok {fields : List String} {p : String} :
    (fieldPredicate fields).outcome d = some (.ok p, d') ↔
      fields ≠ [] ∧ p = Flux.oneOf "_field" fields ∧ d' = d :=
  oneOf_ok

/-! ## Hosts -/

theorem groupByTime_ok {hosts metrics : Nat} {duration : Duration}
    (h : (groupByTime hosts metrics duration).outcome d = some (.ok u, d')) :
    ∃ w s names s',
      (d.generator.interval.window duration).outcome d.generator.source = some (.ok w, s)
        ∧ metrics ≤ cpuMetrics.length
        ∧ (Draw.tags .host hosts d.generator.scale).outcome s = some (.ok names, s')
        ∧ d' = d.filed s' (.atStart (groupByTimeLabel databaseName metrics hosts duration) w
          (Script.groupByTime w (Flux.oneOf "_field" (cpuMetrics.take metrics))
            (Flux.oneOf "hostname" names))) := by
  rw [groupByTime] at h
  obtain ⟨w, _, hw, h⟩ := outcome_bind_ok.1 h
  obtain ⟨metrics', _, hmetrics, h⟩ := outcome_bind_ok.1 h
  obtain ⟨fields, _, hfields, h⟩ := outcome_bind_ok.1 h
  obtain ⟨p, _, hp, h⟩ := outcome_bind_ok.1 h
  obtain ⟨s, hwindow, rfl⟩ := window_ok.1 hw
  obtain ⟨hfirst, rfl⟩ := ofCheck_ok.1 hmetrics
  obtain ⟨-, hle, rfl⟩ := firstMetrics_ok.1 hfirst
  obtain ⟨-, rfl, rfl⟩ := fieldPredicate_ok.1 hfields
  obtain ⟨names, s', hnames, -, rfl, rfl⟩ := tagPredicate_ok.1 hp
  exact ⟨w, s, names, s', hwindow, hle, hnames, writeAt_ok.1 h⟩

/-- Conversely, the template succeeds if its draws and its count of metrics do. -/
theorem groupByTime_of_draws {hosts metrics : Nat} {duration : Duration} {w : Interval}
    {s s' : Lagged} {names : List String}
    (hw : (d.generator.interval.window duration).outcome d.generator.source = some (.ok w, s))
    (hpos : metrics ≠ 0) (hle : metrics ≤ cpuMetrics.length)
    (hnames : (Draw.tags .host hosts d.generator.scale).outcome s = some (.ok names, s')) :
    ∃ q, (groupByTime hosts metrics duration).outcome d = some (.ok (), d.filed s' q) := by
  have hfields : cpuMetrics.take metrics ≠ [] := take_cpuMetrics_ne_nil hpos
  refine ⟨.atStart (groupByTimeLabel databaseName metrics hosts duration) w
    (Script.groupByTime w (Flux.oneOf "_field" (cpuMetrics.take metrics))
      (Flux.oneOf "hostname" names)), ?_⟩
  rw [groupByTime]
  refine outcome_bind_ok.2 ⟨w, _, window_ok.2 ⟨s, hw, rfl⟩, ?_⟩
  refine outcome_bind_ok.2 ⟨_, _, ofCheck_ok.2 ⟨firstMetrics_ok.2 ⟨hpos, hle, rfl⟩, rfl⟩, ?_⟩
  refine outcome_bind_ok.2 ⟨_, _, fieldPredicate_ok.2 ⟨hfields, rfl, rfl⟩, ?_⟩
  have hne : names ≠ [] := Draw.tags_ne_nil hnames
  refine outcome_bind_ok.2 ⟨_, _, tagPredicate_ok.2 ⟨names, s', hnames, hne, rfl, rfl⟩, ?_⟩
  exact writeAt_ok.2 rfl

theorem groupByOrderByLimit_ok (h : groupByOrderByLimit.outcome d = some (.ok u, d')) :
    ∃ w s,
      (d.generator.interval.window (.ofHours 1)).outcome d.generator.source = some (.ok w, s)
        ∧ d' = d.filed s (.atStart (databaseName ++ " max cpu over last 5 min-intervals (random end)")
          w (Script.groupByOrderByLimit w)) := by
  rw [groupByOrderByLimit] at h
  obtain ⟨w, _, hw, h⟩ := outcome_bind_ok.1 h
  obtain ⟨s, hwindow, rfl⟩ := window_ok.1 hw
  exact ⟨w, s, hwindow, writeAt_ok.1 h⟩

theorem doubleGroupBy_ok {metrics : Nat}
    (h : (doubleGroupBy metrics).outcome d = some (.ok u, d')) :
    ∃ w s,
      (d.generator.interval.window doubleGroupByWindow).outcome d.generator.source
          = some (.ok w, s)
        ∧ d' = d.filed s (.atStart (doubleGroupByLabel databaseName metrics) w
          (Script.doubleGroupBy w (Flux.oneOf "_field" (cpuMetrics.take metrics)))) := by
  rw [doubleGroupBy] at h
  obtain ⟨metrics', _, hmetrics, h⟩ := outcome_bind_ok.1 h
  obtain ⟨w, _, hw, h⟩ := outcome_bind_ok.1 h
  obtain ⟨fields, _, hfields, h⟩ := outcome_bind_ok.1 h
  obtain ⟨hfirst, rfl⟩ := ofCheck_ok.1 hmetrics
  obtain ⟨-, -, rfl⟩ := firstMetrics_ok.1 hfirst
  obtain ⟨s, hwindow, rfl⟩ := window_ok.1 hw
  obtain ⟨-, rfl, rfl⟩ := fieldPredicate_ok.1 hfields
  exact ⟨w, s, hwindow, writeAt_ok.1 h⟩

theorem maxAll_ok {hosts : Nat} {duration : Duration}
    (h : (maxAll hosts duration).outcome d = some (.ok u, d')) :
    ∃ w s names s',
      (d.generator.interval.window duration).outcome d.generator.source = some (.ok w, s)
        ∧ (Draw.tags .host hosts d.generator.scale).outcome s = some (.ok names, s')
        ∧ d' = d.filed s' (.atStart (maxAllLabel databaseName hosts) w
          (Script.maxAll w (Flux.oneOf "_field" cpuMetrics) (Flux.oneOf "hostname" names))) := by
  rw [maxAll] at h
  obtain ⟨w, _, hw, h⟩ := outcome_bind_ok.1 h
  obtain ⟨p, _, hp, h⟩ := outcome_bind_ok.1 h
  obtain ⟨fields, _, hfields, h⟩ := outcome_bind_ok.1 h
  obtain ⟨s, hwindow, rfl⟩ := window_ok.1 hw
  obtain ⟨names, s', hnames, -, rfl, rfl⟩ := tagPredicate_ok.1 hp
  obtain ⟨-, rfl, rfl⟩ := fieldPredicate_ok.1 hfields
  exact ⟨w, s, names, s', hwindow, hnames, writeAt_ok.1 h⟩

/-- The query about a high load draws hosts unless it is about all of them. -/
theorem highCpu_ok {hosts : Nat} (h : (highCpu hosts).outcome d = some (.ok u, d')) :
    ∃ w s condition s',
      (d.generator.interval.window highCpuWindow).outcome d.generator.source = some (.ok w, s)
        ∧ (hosts = 0 ∧ condition = "" ∧ s' = s
          ∨ ∃ names, (Draw.tags .host hosts d.generator.scale).outcome s = some (.ok names, s')
            ∧ condition = " and " ++ Flux.oneOf "hostname" names)
        ∧ d' = d.filed s' (.atStart (highCpuLabel databaseName hosts) w
          (Script.highCpu w condition)) := by
  rw [highCpu] at h
  obtain ⟨w, _, hw, h⟩ := outcome_bind_ok.1 h
  obtain ⟨condition, _, hcondition, h⟩ := outcome_bind_ok.1 h
  obtain ⟨s, hwindow, rfl⟩ := window_ok.1 hw
  rw [hostCondition] at hcondition
  split at hcondition
  · next hzero =>
    cases hcondition
    exact ⟨w, s, "", s, hwindow, .inl ⟨hzero, rfl, rfl⟩, writeAt_ok.1 h⟩
  · obtain ⟨p, _, hp, hcondition⟩ := outcome_bind_ok.1 hcondition
    obtain ⟨names, s', hnames, -, rfl, rfl⟩ := tagPredicate_ok.1 hp
    cases hcondition
    exact ⟨w, s, _, s', hwindow, .inr ⟨names, hnames, rfl⟩, writeAt_ok.1 h⟩

/-! ## Trucks -/

theorem lastLocationByTruck_ok {trucks : Nat}
    (h : (lastLocationByTruck trucks).outcome d = some (.ok u, d')) :
    ∃ names s label description,
      (Draw.tags .truck trucks d.generator.scale).outcome d.generator.source
          = some (.ok names, s)
        ∧ d' = d.filed s (.ofFlux label description
          (paragraphs [Script.lastLocationByTruck (Flux.oneOf "name" names)])) := by
  rw [lastLocationByTruck] at h
  obtain ⟨p, _, hp, h⟩ := outcome_bind_ok.1 h
  obtain ⟨names, s, hnames, -, rfl, rfl⟩ := tagPredicate_ok.1 hp
  exact ⟨names, s, _, _, hnames, write_ok.1 h⟩

/-- A fleet that is drawn is one of the four. -/
theorem fleet_mem {f : String} {d d' : Desk} (h : fleet.outcome d = some (.ok f, d')) :
    f ∈ fleets := by
  obtain ⟨s, h, -⟩ := fleet_ok.1 h
  obtain ⟨k, t, -, h⟩ := outcome_bind_ok.1 h
  cases hk : fleets[k]? with
  | none =>
    rw [hk] at h
    cases h
  | some f' =>
    rw [hk] at h
    cases h
    exact List.mem_of_getElem? hk

theorem stationaryTrucks_ok (h : stationaryTrucks.outcome d = some (.ok u, d')) :
    ∃ w s f s' label description,
      (d.generator.interval.window stationaryWindow).outcome d.generator.source = some (.ok w, s)
        ∧ (Draw.fleet : Draw Lagged String).outcome s = some (.ok f, s') ∧ f ∈ fleets
        ∧ d' = d.filed s' (.ofFlux label description
          (paragraphs [Script.stationaryTrucks w f])) := by
  rw [stationaryTrucks] at h
  obtain ⟨w, _, hw, h⟩ := outcome_bind_ok.1 h
  obtain ⟨f, _, hf, h⟩ := outcome_bind_ok.1 h
  obtain ⟨s, hwindow, rfl⟩ := window_ok.1 hw
  have hmem := fleet_mem hf
  obtain ⟨s', hfleet, rfl⟩ := fleet_ok.1 hf
  exact ⟨w, s, f, s', _, _, hwindow, hfleet, hmem, write_ok.1 h⟩

theorem longSessions_ok {duration : Duration} {threshold : Nat} {flux : String}
    (h : (longSessions duration threshold).outcome d = some (.ok flux, d')) :
    ∃ w s f s',
      (d.generator.interval.window duration).outcome d.generator.source = some (.ok w, s)
        ∧ (Draw.fleet : Draw Lagged String).outcome s = some (.ok f, s') ∧ f ∈ fleets
        ∧ d' = d.withSource s'
        ∧ flux = paragraphs [Script.longSessions w f d.generator.interval.startSecondOfDay
          threshold] := by
  rw [longSessions] at h
  obtain ⟨w, _, hw, h⟩ := outcome_bind_ok.1 h
  obtain ⟨i, _, hi, h⟩ := outcome_bind_ok.1 h
  obtain ⟨f, _, hf, h⟩ := outcome_bind_ok.1 h
  obtain ⟨s, hwindow, rfl⟩ := window_ok.1 hw
  cases hi
  have hmem := fleet_mem hf
  obtain ⟨s', hfleet, rfl⟩ := fleet_ok.1 hf
  cases h
  exact ⟨w, s, f, s', hwindow, hfleet, hmem, rfl, rfl⟩

/-- Both queries about long sessions write the script of the sessions. -/
theorem longDrivingSessions_ok (h : longDrivingSessions.outcome d = some (.ok u, d')) :
    ∃ w s f s' label description,
      (d.generator.interval.window longSessionWindow).outcome d.generator.source
          = some (.ok w, s)
        ∧ (Draw.fleet : Draw Lagged String).outcome s = some (.ok f, s') ∧ f ∈ fleets
        ∧ d' = d.filed s' (.ofFlux label description (paragraphs [Script.longSessions w f
          d.generator.interval.startSecondOfDay (drivingPeriods 5 longSessionWindow)])) := by
  rw [longDrivingSessions] at h
  obtain ⟨flux, _, hflux, h⟩ := outcome_bind_ok.1 h
  obtain ⟨w, s, f, s', hw, hf, hmem, rfl, rfl⟩ := longSessions_ok hflux
  exact ⟨w, s, f, s', _, _, hw, hf, hmem, write_ok.1 h⟩

theorem longDailySessions_ok (h : longDailySessions.outcome d = some (.ok u, d')) :
    ∃ w s f s' label description,
      (d.generator.interval.window dailyWindow).outcome d.generator.source = some (.ok w, s)
        ∧ (Draw.fleet : Draw Lagged String).outcome s = some (.ok f, s') ∧ f ∈ fleets
        ∧ d' = d.filed s' (.ofFlux label description (paragraphs [Script.longSessions w f
          d.generator.interval.startSecondOfDay (drivingPeriods 35 dailyWindow)])) := by
  rw [longDailySessions] at h
  obtain ⟨flux, _, hflux, h⟩ := outcome_bind_ok.1 h
  obtain ⟨w, s, f, s', hw, hf, hmem, rfl, rfl⟩ := longSessions_ok hflux
  exact ⟨w, s, f, s', _, _, hw, hf, hmem, write_ok.1 h⟩

end Compose

/-! ## The narrowest case -/

/-- A generator with one host, whose interval has room for an hour in one place only. -/
def Generator.narrow (source : Lagged) : Generator where
  useCase := .devops
  interval := ⟨0, 3600000000001⟩
  scale := 1
  source := source

/-- Such a generator has something to say about its host and its hour, whatever its source. -/
theorem Compose.groupByTime_narrow (source : Lagged) (q : Query) :
    ∃ source' q', (groupByTime 1 1 (.ofHours 1)).outcome ⟨.narrow source, q⟩
      = some (.ok (), ⟨.narrow source', q'⟩) := by
  have hroom : Interval.room? ⟨0, 3600000000001⟩ (.ofHours 1) = some 1 := by decide
  have hw := Interval.outcome_window_of_room_one (by decide) (by decide) hroom source
  have hnames := Draw.outcome_tags_one .host source.step.2
  have hmetrics : 1 ≤ cpuMetrics.length := by decide
  obtain ⟨q', h⟩ := groupByTime_of_draws (d := ⟨.narrow source, q⟩) hw Nat.one_ne_zero hmetrics
    hnames
  exact ⟨_, q', h⟩

end FluxCorpus
