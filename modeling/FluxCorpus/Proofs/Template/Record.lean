import FluxCorpus.Proofs.Template.Fault

/-!
# A call fills in the record or leaves it alone

All steps of a template but the last one are draws and checks, which neither look at the record nor
touch it; the last one fills it in and cannot fail.  So a call that fails leaves the record as it
was, and a call that succeeds leaves one in which nothing is left of the former record.

* `Query.Filled` — what every record that is filled in has in common.
* `Compose.Blind` — the steps that have nothing to do with the record; kept by sequences.
* `Compose.Fills` — a computation of such steps that ends with filling in the record.
* `Template.fills`, `QueryType.fills_of_mem_catalog` — all templates and all query types of the
  catalog are of this kind.
* `Compose.atomic_on_record` — **every call is atomic on the record.**
-/

namespace FluxCorpus

open Flux (paragraphs)

/-! ## Records that are filled in -/

/-- A text that starts with the name of the database. -/
def Named (s : String) : Prop := ∃ rest, s = "Influx 2.x" ++ rest

/-- A record of a request that can be sent: posted to the query path, with a script in the body, and
with a label and a description that name the database. -/
structure Query.Filled (q : Query) : Prop where
  label : Named q.humanLabel
  description : Named q.humanDescription
  method : q.method = "POST"
  path : q.path = "/api/v2/query"
  body_eq : q.body = q.rawQuery
  body_ne : q.body ≠ ""

section Names

theorem named_databaseName (rest : String) : Named (databaseName ++ rest) := ⟨rest, rfl⟩

theorem Named.append {s : String} (h : Named s) (t : String) : Named (s ++ t) := by
  obtain ⟨rest, rfl⟩ := h
  exact ⟨rest ++ t, String.append_assoc⟩

theorem named_groupByTimeLabel (metrics hosts : Nat) (d : Duration) :
    Named (groupByTimeLabel databaseName metrics hosts d) := by
  simp only [groupByTimeLabel, String.append_assoc]
  exact named_databaseName _

theorem named_doubleGroupByLabel (metrics : Nat) :
    Named (doubleGroupByLabel databaseName metrics) := by
  simp only [doubleGroupByLabel, String.append_assoc]
  exact named_databaseName _

theorem named_maxAllLabel (hosts : Nat) : Named (maxAllLabel databaseName hosts) := by
  simp only [maxAllLabel, String.append_assoc]
  exact named_databaseName _

theorem named_highCpuLabel (hosts : Nat) : Named (highCpuLabel databaseName hosts) := by
  simp only [highCpuLabel, String.append_assoc]
  split <;> exact named_databaseName _

end Names

/-- A script with a line is not empty. -/
theorem Flux.paragraphs_ne_empty (l : String) (ls : List String) (ps : List (List String)) :
    paragraphs ((l :: ls) :: ps) ≠ "" := by
  intro h
  have hchars := congrArg String.toList h
  cases ps <;> simp [paragraphs, paragraph] at hchars

/-! ## Steps and the record -/

/-- The desk with another record. -/
def Desk.withRecord (d : Desk) (q : Query) : Desk := { d with record := q }

namespace Compose

variable {α β : Type}

/-- A step that has nothing to do with the record: on another record it does the same, and it leaves
that record as it is. -/
def Blind (x : Compose α) : Prop :=
  ∀ d q, x.outcome (d.withRecord q) = (x.outcome d).map fun (r, d') => (r, d'.withRecord q)

theorem blind_iff {x : Compose α} : Blind x ↔ ∀ q, Ignores (·.withRecord q) x :=
  ⟨fun h q d => h d q, fun h d q => h q d⟩

theorem keepsDraws_withRecord (q : Query) : KeepsDraws (·.withRecord q) :=
  ⟨fun _ => rfl, fun _ => rfl, fun _ _ => rfl⟩

theorem Blind.bind {x : Compose α} {f : α → Compose β} (hx : Blind x) (hf : ∀ a, Blind (f a)) :
    Blind (x >>= f) :=
  blind_iff.2 fun q => (blind_iff.1 hx q).bind fun a => blind_iff.1 (hf a) q

theorem blind_pure (a : α) : Blind (pure a) := blind_iff.2 fun _ => ignores_pure a

theorem blind_draw (x : Draw Lagged α) : Blind (draw x) :=
  blind_iff.2 fun q => ignores_draw (keepsDraws_withRecord q) x

theorem blind_interval : Blind interval :=
  blind_iff.2 fun q => ignores_interval (keepsDraws_withRecord q)

theorem blind_window (d : Duration) : Blind (window d) :=
  blind_iff.2 fun q => ignores_window (keepsDraws_withRecord q) d

theorem blind_tags (kind : TagKind) (n : Nat) : Blind (tags kind n) := by
  intro d q
  rw [tags, Process.outcome_bind, Process.outcome_bind, Process.outcome_get, Process.outcome_get]
  exact blind_draw _ d q

theorem blind_fleet : Blind fleet := blind_draw _

theorem blind_ofCheck (c : Except Fault α) : Blind (ofCheck c) :=
  blind_iff.2 fun _ => ignores_ofCheck c

theorem blind_oneOf (column : String) (values : List String) : Blind (oneOf column values) :=
  blind_iff.2 fun _ => ignores_oneOf column values

theorem blind_tagPredicate (kind : TagKind) (n : Nat) : Blind (tagPredicate kind n) :=
  (blind_tags kind n).bind fun _ => blind_oneOf _ _

theorem blind_hostCondition (hosts : Nat) : Blind (hostCondition hosts) := by
  rw [hostCondition]
  split
  · exact blind_pure ""
  · exact (blind_tagPredicate .host hosts).bind fun _ => blind_pure _

theorem blind_longSessions (d : Duration) (threshold : Nat) : Blind (longSessions d threshold) :=
  (blind_window d).bind fun _ => blind_interval.bind fun _ => blind_fleet.bind fun _ => blind_pure _

/-! ## Filling in the record -/

/-- A computation that fills in the record at its end.  On another record it comes to the same end;
of the other record nothing is left, unless the computation fails and leaves it as it is. -/
structure Fills (x : Compose Unit) : Prop where
  outcome (d : Desk) (q : Query) : x.outcome (d.withRecord q) = (x.outcome d).map fun
    | (.ok u, d') => (.ok u, d')
    | (.error e, d') => (.error e, d'.withRecord q)
  filled {d d' : Desk} {u : Unit} (h : x.outcome d = some (.ok u, d')) : d'.record.Filled

/-- What comes before the end has nothing to do with the record. -/
theorem Blind.bind_fills {x : Compose α} {f : α → Compose Unit} (hx : Blind x)
    (hf : ∀ {a d d'}, x.outcome d = some (.ok a, d') → Fills (f a)) : Fills (x >>= f) where
  outcome := by
    intro d q
    rw [Process.outcome_bind, Process.outcome_bind, hx]
    rcases h : x.outcome d with _ | ⟨e | a, d'⟩
    · rfl
    · rfl
    · exact (hf h).outcome d' q
  filled := by
    intro d d' u h
    obtain ⟨a, d₁, ha, h⟩ := Process.outcome_bind_ok.1 h
    exact (hf ha).filled h

theorem fills_write {label description flux : String} (hlabel : Named label)
    (hdescription : Named description) (hflux : flux ≠ "") :
    Fills (write label description flux) where
  outcome _ _ := rfl
  filled := by
    intro d d' u h
    cases write_ok.1 h
    exact ⟨hlabel, hdescription, rfl, rfl, rfl, hflux⟩

theorem fills_writeAt {label flux : String} (w : Interval) (hlabel : Named label)
    (hflux : flux ≠ "") : Fills (writeAt label w flux) :=
  fills_write hlabel ((hlabel.append ": ").append w.startText) hflux

theorem fills_writeLabelled {label flux : String} (hlabel : Named label) (hflux : flux ≠ "") :
    Fills (writeLabelled label flux) :=
  fills_write hlabel hlabel hflux

/-- Both templates about long sessions end with the script of the sessions. -/
theorem fills_of_longSessions {d : Duration} {threshold : Nat} {label description : String}
    (hlabel : Named label) (hdescription : Named description) :
    Fills (longSessions d threshold >>= fun flux => write label description flux) := by
  refine (blind_longSessions d threshold).bind_fills fun h => ?_
  obtain ⟨w, s, f, s', -, -, -, -, rfl⟩ := longSessions_ok h
  exact fills_write hlabel hdescription (Flux.paragraphs_ne_empty _ _ _)

end Compose

open Compose

/-- **Every template fills in the record at its end.** -/
theorem Template.fills (t : Template) : Fills t.compose := by
  cases t with
  | devops t =>
    cases t with
    | groupByTime hosts metrics duration =>
      refine (blind_window duration).bind_fills fun _ => (blind_ofCheck _).bind_fills fun _ =>
        (blind_oneOf _ _).bind_fills fun _ => (blind_tagPredicate .host hosts).bind_fills fun _ => ?_
      exact fills_writeAt _ (named_groupByTimeLabel _ _ _) (Flux.paragraphs_ne_empty _ _ _)
    | groupByOrderByLimit =>
      refine (blind_window _).bind_fills fun _ => ?_
      exact fills_writeAt _ (named_databaseName _) (Flux.paragraphs_ne_empty _ _ _)
    | doubleGroupBy metrics =>
      refine (blind_ofCheck _).bind_fills fun _ => (blind_window _).bind_fills fun _ =>
        (blind_oneOf _ _).bind_fills fun _ => ?_
      exact fills_writeAt _ (named_doubleGroupByLabel _) (Flux.paragraphs_ne_empty _ _ _)
    | maxAll hosts duration =>
      refine (blind_window duration).bind_fills fun _ =>
        (blind_tagPredicate .host hosts).bind_fills fun _ => (blind_oneOf _ _).bind_fills fun _ => ?_
      exact fills_writeAt _ (named_maxAllLabel _) (Flux.paragraphs_ne_empty _ _ _)
    | lastPoint =>
      exact fills_write (named_databaseName _) ((named_databaseName _).append _)
        (Flux.paragraphs_ne_empty _ _ _)
    | highCpu hosts =>
      refine (blind_window _).bind_fills fun _ => (blind_hostCondition hosts).bind_fills fun _ => ?_
      exact fills_writeAt _ (named_highCpuLabel _) (Flux.paragraphs_ne_empty _ _ _)
  | iot t =>
    cases t with
    | lastLocationByTruck trucks =>
      refine (blind_tagPredicate .truck trucks).bind_fills fun _ => ?_
      exact fills_write (named_databaseName _)
        ((((named_databaseName _).append _).append _).append _) (Flux.paragraphs_ne_empty _ _ _)
    | lastLocationPerTruck =>
      refine blind_fleet.bind_fills fun _ => ?_
      exact fills_writeLabelled (named_databaseName _) (Flux.paragraphs_ne_empty _ _ _)
    | lowFuel =>
      refine blind_fleet.bind_fills fun _ => ?_
      exact fills_write (named_databaseName _) ((named_databaseName _).append _)
        (Flux.paragraphs_ne_empty _ _ _)
    | highLoad =>
      refine blind_fleet.bind_fills fun _ => ?_
      exact fills_write (named_databaseName _) ((named_databaseName _).append _)
        (Flux.paragraphs_ne_empty _ _ _)
    | stationaryTrucks =>
      refine (blind_window _).bind_fills fun _ => blind_fleet.bind_fills fun _ => ?_
      exact fills_write (named_databaseName _) ((named_databaseName _).append _)
        (Flux.paragraphs_ne_empty _ _ _)
    | longDrivingSessions =>
      exact fills_of_longSessions (named_databaseName _) ((named_databaseName _).append _)
    | longDailySessions =>
      exact fills_of_longSessions (named_databaseName _) ((named_databaseName _).append _)
    | fuelConsumption =>
      exact fills_writeLabelled (named_databaseName _) (Flux.paragraphs_ne_empty _ _ _)
    | dailyDrivingDuration =>
      refine blind_interval.bind_fills fun _ => ?_
      exact fills_writeLabelled (named_databaseName _) (Flux.paragraphs_ne_empty _ _ _)
    | dailyDrivingSession =>
      refine blind_interval.bind_fills fun _ => ?_
      exact fills_writeLabelled (named_databaseName _) (Flux.paragraphs_ne_empty _ _ _)
    | averageLoad =>
      exact fills_writeLabelled (named_databaseName _) (Flux.paragraphs_ne_empty _ _ _)
    | dailyActivity =>
      refine blind_interval.bind_fills fun _ => ?_
      exact fills_writeLabelled (named_databaseName _) (Flux.paragraphs_ne_empty _ _ _)
    | breakdownFrequency =>
      refine blind_interval.bind_fills fun _ => ?_
      exact fills_writeLabelled (named_databaseName _) (Flux.paragraphs_ne_empty _ _ _)

/-! ## Query types -/

namespace QueryType

/-- A query type of the catalog is refused by a generator of the other use case, and that is all. -/
theorem outcome_compose_mismatch {t : QueryType} (ht : t ∈ catalog) {d : Desk}
    (h : t.useCase ≠ d.generator.useCase) :
    t.compose.outcome d = some (.error (.fault
      (.queryTypeMismatch t.name t.useCase.name d.generator.useCase.name)), d) := by
  have hne : t.template.useCase ≠ d.generator.useCase := by rwa [useCase_of_mem_catalog t ht]
  rw [outcome_compose_of_ne hne, outcome_ofCheck, checkUseCase, if_neg h]
  rfl

/-- A query type of the catalog never succeeds without its template. -/
theorem fills_of_mem_catalog {t : QueryType} (ht : t ∈ catalog) : Fills t.compose where
  outcome := by
    intro d q
    by_cases h : t.useCase = d.generator.useCase
    · have htemplate : t.template.useCase = d.generator.useCase := by
        rwa [useCase_of_mem_catalog t ht]
      rw [outcome_compose htemplate, outcome_compose (d := d.withRecord q) htemplate]
      exact t.template.fills.outcome d q
    · rw [outcome_compose_mismatch ht h, outcome_compose_mismatch (d := d.withRecord q) ht h]
      rfl
  filled := by
    intro d d' u h
    by_cases huse : t.useCase = d.generator.useCase
    · rw [outcome_compose (by rwa [useCase_of_mem_catalog t ht])] at h
      exact t.template.fills.filled h
    · rw [outcome_compose_mismatch ht huse] at h
      cases h

end QueryType

/-! ## Atomic calls -/

namespace Compose

/-- A call by a generator on a record is atomic.  However it ends, the setting of the generator is
the same.  If it fails, the record is the same, and on any other record the call would have failed
in the same way.  If it succeeds, the record is filled in, and any other record would have been
replaced by just this one. -/
def Atomic (x : Compose Unit) (g : Generator) (q : Query) : Prop :=
  ∀ r d', x.outcome ⟨g, q⟩ = some (r, d') →
    d'.generator.setting = g.setting ∧
    match r with
    | .error _ => d'.record = q ∧ ∀ q', x.outcome ⟨g, q'⟩ = some (r, ⟨d'.generator, q'⟩)
    | .ok _ => d'.record.Filled ∧ ∀ q', x.outcome ⟨g, q'⟩ = some (r, d')

theorem Fills.atomic {x : Compose Unit} (hx : Fills x) {refusal : Setting → Option Stop}
    {P : Unit → Prop} (hsettles : Settles x refusal P) (g : Generator) (q : Query) :
    Atomic x g q := by
  intro r d' h
  have hother (q' : Query) := hx.outcome ⟨g, q⟩ q'
  rw [h] at hother
  refine ⟨hsettles.keeps h, ?_⟩
  cases r with
  | error e =>
    have hself : d'.withRecord q = d' := by simpa using (hother q).symm.trans h
    refine ⟨?_, hother⟩
    rw [← hself]
    rfl
  | ok u => exact ⟨hx.filled h, hother⟩

/-- **Every call is atomic on the record.**  A template with any arguments and a query type of the
catalog, called by any generator on any record, either fail and leave the record alone or fill it in
as a whole, and they never change the setting of the generator.  A query type of the other use case
changes nothing at all. -/
theorem atomic_on_record (g : Generator) (q : Query) :
    (∀ t : Template, Atomic t.compose g q)
    ∧ ∀ t ∈ QueryType.catalog, Atomic t.compose g q
      ∧ (t.useCase ≠ g.useCase → t.compose.outcome ⟨g, q⟩ = some (.error (.fault
        (.queryTypeMismatch t.name t.useCase.name g.useCase.name)), ⟨g, q⟩)) := by
  refine ⟨fun t => t.fills.atomic t.settles g q, fun t ht => ⟨?_, fun h => ?_⟩⟩
  · exact (QueryType.fills_of_mem_catalog ht).atomic t.settles g q
  · exact QueryType.outcome_compose_mismatch ht h

/-- One host in one hour is written over any record; the last point of every host is not for a
generator about trucks. -/
theorem atomic_on_record_one_host :
    (∃ d', (Template.compose (.devops (.groupByTime 1 1 (.ofHours 1)))).outcome
        ⟨.narrow (.ofSeed 0), .empty⟩ = some (.ok (), d')
      ∧ d'.record.Filled
      ∧ ∀ q, (Template.compose (.devops (.groupByTime 1 1 (.ofHours 1)))).outcome
        ⟨.narrow (.ofSeed 0), q⟩ = some (.ok (), d'))
    ∧ ∃ t ∈ QueryType.catalog, t.name = "lastpoint" ∧ ∀ source q,
      t.compose.outcome ⟨⟨.iot, ⟨0, 1⟩, 1, source⟩, q⟩
        = some (.error (.fault (.queryTypeMismatch "lastpoint" "devops" "iot")),
          ⟨⟨.iot, ⟨0, 1⟩, 1, source⟩, q⟩) := by
  constructor
  · obtain ⟨source', q', h⟩ := groupByTime_narrow (.ofSeed 0) .empty
    have hatomic := (atomic_on_record (.narrow (.ofSeed 0)) .empty).1
      (.devops (.groupByTime 1 1 (.ofHours 1))) _ _ h
    exact ⟨_, h, hatomic.2⟩
  · refine ⟨.ofHosts "lastpoint" "The last reading for each host" .lastPoint, by decide, rfl, ?_⟩
    intro source q
    exact ((atomic_on_record ⟨.iot, ⟨0, 1⟩, 1, source⟩ q).2 _ (by decide)).2 nofun

end Compose

end FluxCorpus
