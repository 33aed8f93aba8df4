import FluxCorpus.Config
import FluxCorpus.Proofs.Corpus
import FluxCorpus.Proofs.Template.Scale

/-!
# The check in advance agrees with what is built

A configuration is checked before anything is generated, and the generator checks the same things
again on its own when it is built.  Both must accept the same configurations, and the check in
advance names the first thing that is wrong.

* `Config.faults` — all that is wrong with a configuration, in the order of the checks.
* `Config.validate_eq` — the check in advance returns the first of them.
* `Config.Sound` — the conditions under which there are none.
* `Config.validate_agrees` — **the check succeeds if and only if a query type and a generator can be
  had for every seed**, and then a query stops only as expected.
* `Config.vast_stops` — what a scale of 64 bits does to a configuration that was accepted.
-/

namespace FluxCorpus

/-! ## The parts of the check -/

namespace QueryType

/-- No two query types have the same name. -/
theorem nodup_names : (catalog.map name).Nodup := by decide +kernel

theorem eq_of_name_eq {t t' : QueryType} (ht : t ∈ catalog) (ht' : t' ∈ catalog)
    (h : t.name = t'.name) : t = t' :=
  List.inj_on_of_nodup_map nodup_names ht ht' h

theorem find_ok {name : String} {t : QueryType} :
    find name = .ok t ↔ t ∈ catalog ∧ t.name = name := by
  unfold find
  cases hfind : catalog.find? fun t => t.name = name with
  | none =>
    rw [List.find?_eq_none] at hfind
    constructor
    · nofun
    · rintro ⟨ht, hname⟩
      exact absurd (by simpa using hname) (hfind t ht)
  | some t' =>
    have hmem := List.mem_of_find?_eq_some hfind
    have hname : t'.name = name := by simpa using List.find?_some hfind
    constructor
    · rintro ⟨⟩
      exact ⟨hmem, hname⟩
    · rintro ⟨ht, rfl⟩
      rw [eq_of_name_eq hmem ht hname]
      rfl

end QueryType

namespace Config

variable {c : Config}

/-- The query type is one of the catalog, of this name and for this use case. -/
theorem resolve_ok {t : QueryType} : c.resolve = .ok t ↔
    t ∈ QueryType.catalog ∧ t.name = c.queryType ∧ t.useCase = c.useCase := by
  unfold resolve
  cases hfind : QueryType.find c.queryType with
  | error f =>
    constructor
    · nofun
    · rintro ⟨ht, hname, -⟩
      rw [QueryType.find_ok.2 ⟨ht, hname⟩] at hfind
      cases hfind
  | ok t' =>
    obtain ⟨ht', hname'⟩ := QueryType.find_ok.1 hfind
    by_cases huse : t'.useCase = c.useCase
    · simp only [bind, Except.bind, QueryType.checkUseCase, if_pos huse, pure, Except.pure]
      constructor
      · rintro ⟨⟩
        exact ⟨ht', hname', huse⟩
      · rintro ⟨ht, hname, -⟩
        rw [QueryType.eq_of_name_eq ht' ht (hname'.trans hname.symm)]
    · simp only [bind, Except.bind, QueryType.checkUseCase, if_neg huse]
      constructor
      · nofun
      · rintro ⟨ht, hname, huse'⟩
        rw [QueryType.eq_of_name_eq ht' ht (hname'.trans hname.symm)] at huse
        exact absurd huse' huse

/-- An interval is made of the timestamps that the calendar has. -/
theorem interval_eq (c : Config) : c.interval =
    if c.timestampStart.InCalendar ∧ c.timestampEnd.InCalendar then
      Stop.ofCheck (Interval.ofInstants c.timestampStart c.timestampEnd)
    else .error (.breach .noSuchTime) := by
  unfold interval calendarTime
  by_cases hstart : c.timestampStart.InCalendar
  · by_cases hstop : c.timestampEnd.InCalendar
    · rw [if_pos hstart, if_pos hstop, if_pos ⟨hstart, hstop⟩]
      rfl
    · rw [if_pos hstart, if_neg hstop, if_neg (mt And.right hstop)]
      rfl
  · rw [if_neg hstart, if_neg (mt And.left hstart)]
    rfl

/-- The bounds of an interval are representable, and so the calendar has them. -/
theorem interval_ok {i : Interval} : c.interval = .ok i ↔
    Representable c.timestampStart.unixNanos ∧ Representable c.timestampEnd.unixNanos
      ∧ c.timestampStart.unixNanos < c.timestampEnd.unixNanos
      ∧ i = ⟨c.timestampStart.unixNanos, c.timestampEnd.unixNanos⟩ := by
  rw [interval_eq]
  split_ifs with hcalendar
  · rw [Stop.ofCheck_ok, Interval.ofInstants_ok]
  · constructor
    · nofun
    · rintro ⟨hstart, hstop, -⟩
      exact absurd ⟨Instant.inCalendar_of_representable hstart,
        Instant.inCalendar_of_representable hstop⟩ hcalendar

/-! ## The first thing that is wrong -/

/-- What is wrong with the numbers of a configuration. -/
def countFaults (c : Config) : List Stop :=
  (if c.scale < 1 then [.fault .invalidScale] else [])
    ++ if c.queries < 1 then [.fault .noQueries] else []

/-- What is wrong with its interval: a bound that the calendar does not have or that is not
representable, or the order of them. -/
def intervalFaults (c : Config) : List Stop :=
  (if c.timestampStart.InCalendar ∧ c.timestampEnd.InCalendar then [] else [.breach .noSuchTime])
    ++ (if Representable c.timestampStart.unixNanos then []
      else [.fault (.timestampOutOfRange c.timestampStart.render)])
    ++ (if Representable c.timestampEnd.unixNanos then []
      else [.fault (.timestampOutOfRange c.timestampEnd.render)])
    ++ if c.timestampStart.unixNanos < c.timestampEnd.unixNanos then []
      else [.fault (.invalidInterval (timestamp c.timestampStart.unixNanos)
        (timestamp c.timestampEnd.unixNanos))]

/-- What is wrong with its query type: the name is unknown, or belongs to the other use case. -/
def queryTypeFaults (c : Config) : List Stop :=
  match QueryType.catalog.find? fun t => t.name = c.queryType with
  | none => [.fault (.unknownQueryType c.queryType)]
  | some t =>
    if t.useCase = c.useCase then []
    else [.fault (.queryTypeMismatch t.name t.useCase.name c.useCase.name)]

/-- All that is wrong with a configuration, in the order in which it is looked at. -/
def faults (c : Config) : List Stop :=
  c.countFaults ++ c.intervalFaults ++ c.queryTypeFaults
    ++ if c.format = "influx_2" then [] else [.fault (.unknownFormat c.format)]

/-- Stops with the first of some faults, if there are any. -/
def firstOf : List Stop → Except Stop Unit
  | [] => .ok ()
  | e :: _ => .error e

theorem firstOf_eq_ok {l : List Stop} : firstOf l = .ok () ↔ l = [] := by
  cases l <;> simp [firstOf]

theorem firstOf_eq_error {l : List Stop} {e : Stop} :
    firstOf l = .error e ↔ l.head? = some e := by
  cases l <;> simp [firstOf]

theorem firstOf_append (l l' : List Stop) :
    firstOf (l ++ l') = firstOf l >>= fun _ => firstOf l' := by
  cases l <;> rfl

theorem firstOf_countFaults (c : Config) : firstOf c.countFaults =
    if c.scale < 1 then .error (.fault .invalidScale)
    else if c.queries < 1 then .error (.fault .noQueries) else .ok () := by
  unfold countFaults
  split_ifs <;> rfl

/-- The interval fails for the first of its faults. -/
theorem interval_bind (c : Config) (k : Except Stop Unit) :
    (c.interval >>= fun _ => k) = firstOf c.intervalFaults >>= fun _ => k := by
  rw [interval_eq, Interval.ofInstants_eq]
  unfold intervalFaults
  by_cases hcalendar : c.timestampStart.InCalendar ∧ c.timestampEnd.InCalendar
  · rw [if_pos hcalendar, if_pos hcalendar]
    by_cases hstart : Representable c.timestampStart.unixNanos
    · by_cases hstop : Representable c.timestampEnd.unixNanos
      · by_cases hlt : c.timestampStart.unixNanos < c.timestampEnd.unixNanos
        · rw [if_pos hstart, if_pos hstart, if_pos hstop, if_pos hstop, if_pos hlt,
            Interval.ofNanos_ok.2 ⟨hlt, rfl⟩]
          rfl
        · rw [if_pos hstart, if_pos hstart, if_pos hstop, if_pos hstop, if_neg hlt,
            Interval.ofNanos, if_pos (Int.not_lt.1 hlt)]
          rfl
      · rw [if_pos hstart, if_pos hstart, if_neg hstop, if_neg hstop]
        rfl
    · rw [if_neg hstart, if_neg hstart]
      rfl
  · rw [if_neg hcalendar, if_neg hcalendar]
    rfl

/-- The query type fails for the first of its faults. -/
theorem resolve_bind (c : Config) (k : Except Stop Unit) :
    (Stop.ofCheck c.resolve >>= fun _ => k) = firstOf c.queryTypeFaults >>= fun _ => k := by
  unfold resolve QueryType.find queryTypeFaults
  cases QueryType.catalog.find? fun t => t.name = c.queryType with
  | none => rfl
  | some t =>
    by_cases huse : t.useCase = c.useCase
    · simp [QueryType.checkUseCase, huse, firstOf, Stop.ofCheck, bind, Except.bind, pure, Except.pure]
    · simp [QueryType.checkUseCase, huse, firstOf, Stop.ofCheck, bind, Except.bind, pure, Except.pure,
        throw, throwThe, MonadExceptOf.throw]

/-- **The check in advance returns the first thing that is wrong.** -/
theorem validate_eq (c : Config) : c.validate = firstOf c.faults := by
  have hformat : Stop.ofCheck (Generator.checkFormat c.format c.useCase)
      = firstOf (if c.format = "influx_2" then [] else [.fault (.unknownFormat c.format)]) := by
    rw [Generator.checkFormat_eq]
    split_ifs <;> rfl
  rw [faults, firstOf_append, firstOf_append, firstOf_append, firstOf_countFaults]
  unfold validate
  by_cases hscale : c.scale < 1
  · rw [if_pos hscale, if_pos hscale]
    rfl
  by_cases hqueries : c.queries < 1
  · rw [if_neg hscale, if_neg hscale, if_pos hqueries, if_pos hqueries]
    rfl
  · rw [if_neg hscale, if_neg hscale, if_neg hqueries, if_neg hqueries]
    change (c.interval >>= fun _ => Stop.ofCheck c.resolve >>= fun _ =>
      Stop.ofCheck (Generator.checkFormat c.format c.useCase)) = _
    rw [interval_bind, resolve_bind, hformat]
    cases firstOf c.intervalFaults <;> rfl

/-! ## Agreement -/

/-- Nothing is wrong with a configuration. -/
structure Sound (c : Config) : Prop where
  scale : 1 ≤ c.scale
  queries : 1 ≤ c.queries
  start : Representable c.timestampStart.unixNanos
  stop : Representable c.timestampEnd.unixNanos
  lt : c.timestampStart.unixNanos < c.timestampEnd.unixNanos
  queryType : ∃ t ∈ QueryType.catalog, t.name = c.queryType ∧ t.useCase = c.useCase
  format : c.format = "influx_2"

theorem queryTypeFaults_eq_nil : c.queryTypeFaults = [] ↔
    ∃ t ∈ QueryType.catalog, t.name = c.queryType ∧ t.useCase = c.useCase := by
  have hresolve : firstOf c.queryTypeFaults = .ok () ↔ ∃ t, c.resolve = .ok t := by
    have hbind : (Stop.ofCheck c.resolve >>= fun _ => pure ()) = firstOf c.queryTypeFaults := by
      rw [c.resolve_bind]
      cases firstOf c.queryTypeFaults <;> rfl
    rw [← hbind]
    cases c.resolve with
    | ok t => exact ⟨fun _ => ⟨t, rfl⟩, fun _ => rfl⟩
    | error f => exact ⟨nofun, nofun⟩
  calc c.queryTypeFaults = [] ↔ firstOf c.queryTypeFaults = .ok () := firstOf_eq_ok.symm
    _ ↔ ∃ t, c.resolve = .ok t := hresolve
    _ ↔ _ := by simp only [resolve_ok]

/-- The check in advance succeeds if nothing is wrong. -/
theorem validate_ok : c.validate = .ok () ↔ c.Sound := by
  rw [validate_eq, firstOf_eq_ok, faults]
  simp only [List.append_eq_nil_iff, queryTypeFaults_eq_nil, countFaults, intervalFaults,
    ite_eq_left_iff, ite_eq_right_iff, List.cons_ne_nil, imp_false, not_not, Nat.not_lt]
  constructor
  · rintro ⟨⟨⟨⟨hscale, hqueries⟩, ⟨⟨-, hstart⟩, hstop⟩, hlt⟩, htype⟩, hformat⟩
    exact ⟨hscale, hqueries, hstart, hstop, hlt, htype, hformat⟩
  · rintro ⟨hscale, hqueries, hstart, hstop, hlt, htype, hformat⟩
    have hcalendar := And.intro (Instant.inCalendar_of_representable hstart)
      (Instant.inCalendar_of_representable hstop)
    exact ⟨⟨⟨⟨hscale, hqueries⟩, ⟨⟨hcalendar, hstart⟩, hstop⟩, hlt⟩, htype⟩, hformat⟩

theorem params_ok {seed : Int} {p : Params} : c.params seed = .ok p ↔
    ∃ i, c.interval = .ok i ∧ p = ⟨i, c.scale, seed⟩ := by
  unfold params
  cases hinterval : c.interval <;> simp [bind, Except.bind, pure, Except.pure, eq_comm]

theorem generator_ok {seed : Int} {g : Generator} : c.generator seed = .ok g ↔
    ∃ i, c.interval = .ok i ∧ c.format = "influx_2" ∧ 1 ≤ c.scale
      ∧ g = ⟨c.useCase, i, c.scale, .ofSeed seed⟩ := by
  unfold generator
  cases hparams : c.params seed with
  | error f =>
    constructor
    · nofun
    · rintro ⟨i, hi, -⟩
      rw [params_ok.2 ⟨i, hi, rfl⟩] at hparams
      cases hparams
  | ok p =>
    obtain ⟨i, hi, rfl⟩ := params_ok.1 hparams
    simp only [bind, Except.bind, Stop.ofCheck_ok, Generator.create_ok]
    constructor
    · rintro ⟨hformat, hscale, rfl⟩
      exact ⟨i, hi, hformat, hscale, rfl⟩
    · rintro ⟨i', hi', hformat, hscale, rfl⟩
      rw [hi] at hi'
      cases hi'
      exact ⟨hformat, hscale, rfl⟩

/-- A sound configuration has a query type, and what a generator is built from, for every seed. -/
theorem Sound.builds (h : c.Sound) (seed : Int) :
    (∃ t, c.resolve = .ok t) ∧ (∃ p, c.params seed = .ok p) ∧ ∃ g, c.generator seed = .ok g := by
  obtain ⟨t, ht, hname, huse⟩ := h.queryType
  have hinterval : c.interval = .ok ⟨c.timestampStart.unixNanos, c.timestampEnd.unixNanos⟩ :=
    interval_ok.2 ⟨h.start, h.stop, h.lt, rfl⟩
  exact ⟨⟨t, resolve_ok.2 ⟨ht, hname, huse⟩⟩, ⟨_, params_ok.2 ⟨_, hinterval, rfl⟩⟩,
    ⟨_, generator_ok.2 ⟨_, hinterval, h.format, h.scale, rfl⟩⟩⟩

/-- Conversely, with one query or more, it is sound if these exist for a single seed. -/
theorem sound_of_builds {seed : Int} {t : QueryType} {g : Generator} (hqueries : 1 ≤ c.queries)
    (hresolve : c.resolve = .ok t) (hgenerator : c.generator seed = .ok g) : c.Sound := by
  obtain ⟨ht, hname, huse⟩ := resolve_ok.1 hresolve
  obtain ⟨i, hi, hformat, hscale, -⟩ := generator_ok.1 hgenerator
  obtain ⟨hstart, hstop, hlt, -⟩ := interval_ok.1 hi
  exact ⟨hscale, hqueries, hstart, hstop, hlt, ⟨t, ht, hname, huse⟩, hformat⟩

/-- The setting of the generator that is built, and of all that later calls make of it. -/
theorem setting_of_generator {seed : Int} {g₀ g : Generator} (h : c.generator seed = .ok g₀)
    (hcalls : g₀.CalledFrom g) :
    g.setting.useCase = c.useCase ∧ g.setting.scale = c.scale ∧ g.setting.Bounded := by
  obtain ⟨i, hi, -, hscale, rfl⟩ := generator_ok.1 h
  obtain ⟨hstart, hstop, -, rfl⟩ := interval_ok.1 hi
  rw [hcalls.setting]
  exact ⟨rfl, rfl, hstart, hstop, hscale⟩

/-- **The check in advance agrees with what is built.**  It succeeds if and only if there is one
query or more, and the query type, the parameters and the generator can be had for every seed; which
is to say that the configuration is sound.  Otherwise it stops with the first of its faults, and the
format alone never has a use case that it does not support.  The generator that is built is for the
use case that was asked for, and whatever calls were made on it a query is stopped only by a window
or a sample that is too large; or, with a scale of 64 bits, by an index draw. -/
theorem validate_agrees (c : Config) :
    (c.validate = .ok () ↔ 1 ≤ c.queries ∧ ∀ seed, Representable seed →
      (∃ t, c.resolve = .ok t) ∧ (∃ p, c.params seed = .ok p) ∧ ∃ g, c.generator seed = .ok g)
    ∧ (c.validate = .ok () ↔ c.Sound)
    ∧ (∀ e, c.validate = .error e ↔ c.faults.head? = some e)
    ∧ (∀ format useCase f, Generator.checkFormat format useCase = .error f →
      f = .unknownFormat format)
    ∧ (∀ seed t g₀, c.resolve = .ok t → c.generator seed = .ok g₀ → g₀.useCase = c.useCase
      ∧ ∀ g, g₀.CalledFrom g → ∀ q e d, t.compose.outcome ⟨g, q⟩ = some (.error e, d) →
          (∃ w i, e = .fault (.windowTooLarge w i))
          ∨ (∃ kind n, e = .fault (.tooManyTags kind n c.scale))
          ∨ 9223372036854775808 ≤ c.scale ∧ Int.bmod c.scale 4294967296 ≤ 0
            ∧ e = .breach (.shortBound (Int.bmod c.scale 4294967296))) := by
  refine ⟨?builds, validate_ok, ?first, ?format, ?fill⟩
  case builds =>
    rw [validate_ok]
    constructor
    · intro h
      exact ⟨h.queries, fun seed _ => h.builds seed⟩
    · rintro ⟨hqueries, hall⟩
      obtain ⟨⟨t, ht⟩, -, ⟨g, hg⟩⟩ := hall 0 (by decide)
      exact sound_of_builds hqueries ht hg
  case first =>
    intro e
    rw [validate_eq, firstOf_eq_error]
  case format =>
    intro format useCase f h
    rw [Generator.checkFormat_eq] at h
    split_ifs at h
    cases h
    rfl
  case fill =>
    intro seed t g₀ ht hg₀
    refine ⟨(setting_of_generator hg₀ .start).1, ?_⟩
    intro g hcalls q e d h
    obtain ⟨huse, hscale, hbounded⟩ := setting_of_generator hg₀ hcalls
    obtain ⟨hmem, -, htype⟩ := resolve_ok.1 ht
    have hexpects := QueryType.expects_of_error hmem hbounded (htype.trans huse.symm) h
    rw [← hscale]
    cases hexpects with
    | window w => exact .inl ⟨_, _, rfl⟩
    | sample kind n => exact .inr (.inl ⟨kind, n, rfl⟩)
    | bound hlong hneg => exact .inr (.inr ⟨hlong, hneg, rfl⟩)

/-- A configuration with a scale of 64 bits, which asks for one truck. -/
def vast : Config where
  format := "influx_2"
  useCase := .iot
  queryType := "single-last-loc"
  scale := 9223372036854775808
  seed := 1
  timestampStart := ⟨0, 0⟩
  timestampEnd := ⟨7200, 0⟩
  queries := 1
  file := none

/-- Such a configuration is accepted, and then not even one truck can be drawn: what the index draw
takes for its bound is 0. -/
theorem vast_stops : ∃ (t : QueryType) (g : Generator), vast.validate = .ok ()
    ∧ vast.resolve = .ok t ∧ vast.generator 1 = .ok g
    ∧ t.compose.outcome ⟨g, .empty⟩ = some (.error (.breach (.shortBound 0)), ⟨g, .empty⟩) := by
  have htype : ∃ t ∈ QueryType.catalog, t.name = "single-last-loc" ∧ t.useCase = .iot
      ∧ t.template = .iot (.lastLocationByTruck 1) := by decide
  obtain ⟨t, ht, hname, huse, htemplate⟩ := htype
  have hsound : vast.Sound :=
    ⟨by decide, by decide, by decide, by decide, by decide, ⟨t, ht, hname, huse⟩, rfl⟩
  obtain ⟨-, -, g, hg⟩ := hsound.builds 1
  obtain ⟨hg_use, hg_scale, -⟩ := setting_of_generator hg .start
  refine ⟨t, g, validate_ok.2 hsound, resolve_ok.2 ⟨ht, hname, huse⟩, hg, ?_⟩
  have hscale : g.scale = 9223372036854775808 := hg_scale
  have hstops := Compose.outcome_lastLocationByTruck_of_bound (d := ⟨g, .empty⟩)
    Nat.one_pos (by decide) (by rw [hscale]; decide) (by rw [hscale]; decide)
  rw [hscale] at hstops
  have hcompose : t.template.useCase = g.useCase := by
    rw [htemplate]
    exact hg_use.symm
  rw [QueryType.outcome_compose hcompose, htemplate]
  exact hstops

end Config

end FluxCorpus
