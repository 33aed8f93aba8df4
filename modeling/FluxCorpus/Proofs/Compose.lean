import FluxCorpus.Flux.Predicate

/-!
# What the steps of a composition do

Each step of a composition either draws from the source of the generator, or checks something, or
fills in the record.  The lemmas of this file say when a step has a value, which value that is and
how it leaves the desk; a template is taken apart with them, one step at a time.

* `draw_ok`, `window_ok`, `tags_ok`, `fleet_ok` — the draws, which only change the source.
* `ofCheck_ok`, `oneOf_ok` — the checks, which leave the desk as it is.
* `Desk.filed` — the desk after a template that succeeds.
* `Ignores` — a computation to which a change of the desk makes no difference; kept by sequences, and
  true of every draw if the change keeps what is drawn from (`KeepsDraws`).
-/

namespace FluxCorpus

/-- The desk with another source for its generator, and a record that is filled in. -/
def Desk.filed (d : Desk) (source : Lagged) (record : Query) : Desk :=
  { d.withSource source with record := record }

namespace Compose

open Process (outcome_bind outcome_bind_ok)

variable {α β : Type} {d d' : Desk}

theorem outcome_draw (x : Draw Lagged α) (d : Desk) :
    (draw x).outcome d =
      (x.outcome d.generator.source).map fun (r, source) => (r, d.withSource source) :=
  rfl

/-- A draw has the value that it has on the source of the generator. -/
theorem draw_ok {x : Draw Lagged α} {a : α} :
    (draw x).outcome d = some (.ok a, d') ↔
      ∃ s, x.outcome d.generator.source = some (.ok a, s) ∧ d' = d.withSource s := by
  rw [outcome_draw, Option.map_eq_some_iff]
  constructor
  · rintro ⟨⟨r, s⟩, hx, heq⟩
    cases heq
    exact ⟨s, hx, rfl⟩
  · rintro ⟨s, hx, rfl⟩
    exact ⟨(.ok a, s), hx, rfl⟩

@[simp] theorem outcome_interval (d : Desk) :
    interval.outcome d = some (.ok d.generator.interval, d) :=
  rfl

theorem outcome_window (duration : Duration) (d : Desk) :
    (window duration).outcome d =
      ((d.generator.interval.window duration).outcome d.generator.source).map
        fun (r, source) => (r, d.withSource source) := by
  rw [window, outcome_bind, outcome_interval]
  exact outcome_draw _ d

theorem window_ok {duration : Duration} {w : Interval} :
    (window duration).outcome d = some (.ok w, d') ↔
      ∃ s, (d.generator.interval.window duration).outcome d.generator.source = some (.ok w, s)
        ∧ d' = d.withSource s := by
  rw [window, outcome_bind, outcome_interval]
  exact draw_ok

theorem tags_ok {kind : TagKind} {n : Nat} {names : List String} :
    (tags kind n).outcome d = some (.ok names, d') ↔
      ∃ s, (Draw.tags kind n d.generator.scale).outcome d.generator.source = some (.ok names, s)
        ∧ d' = d.withSource s := by
  rw [tags, outcome_bind, Process.outcome_get]
  exact draw_ok

theorem fleet_ok {f : String} :
    fleet.outcome d = some (.ok f, d') ↔
      ∃ s, (Draw.fleet : Draw Lagged String).outcome d.generator.source = some (.ok f, s)
        ∧ d' = d.withSource s :=
  draw_ok

theorem outcome_ofCheck (c : Except Fault α) (d : Desk) :
    (ofCheck c).outcome d = some (c.mapError .fault, d) := by
  cases c <;> rfl

theorem ofCheck_ok {c : Except Fault α} {a : α} :
    (ofCheck c).outcome d = some (.ok a, d') ↔ c = .ok a ∧ d' = d := by
  cases c with
  | error f =>
    constructor
    · rintro ⟨⟩
    · rintro ⟨⟨⟩, -⟩
  | ok b =>
    constructor
    · rintro ⟨⟩
      exact ⟨rfl, rfl⟩
    · rintro ⟨⟨⟩, rfl⟩
      rfl

/-- A predicate is made of one value or more. -/
theorem oneOf_ok {column p : String} {values : List String} :
    (oneOf column values).outcome d = some (.ok p, d') ↔
      values ≠ [] ∧ p = Flux.oneOf column values ∧ d' = d := by
  cases values with
  | nil =>
    constructor
    · rintro ⟨⟩
    · rintro ⟨hne, -⟩
      exact absurd rfl hne
  | cons v vs =>
    constructor
    · rintro ⟨⟩
      exact ⟨List.cons_ne_nil v vs, rfl, rfl⟩
    · rintro ⟨-, rfl, rfl⟩
      rfl

/-- The predicate of a sample consists of the names that are drawn. -/
theorem tagPredicate_ok {kind : TagKind} {n : Nat} {p : String} :
    (tagPredicate kind n).outcome d = some (.ok p, d') ↔
      ∃ names s,
        (Draw.tags kind n d.generator.scale).outcome d.generator.source = some (.ok names, s)
          ∧ names ≠ [] ∧ p = Flux.oneOf kind.column names ∧ d' = d.withSource s := by
  rw [tagPredicate, outcome_bind_ok]
  constructor
  · rintro ⟨names, t, htags, hp⟩
    obtain ⟨s, hs, rfl⟩ := tags_ok.1 htags
    obtain ⟨hne, rfl, rfl⟩ := oneOf_ok.1 hp
    exact ⟨names, s, hs, hne, rfl, rfl⟩
  · rintro ⟨names, s, hs, hne, rfl, rfl⟩
    exact ⟨names, _, tags_ok.2 ⟨s, hs, rfl⟩, oneOf_ok.2 ⟨hne, rfl, rfl⟩⟩

theorem write_ok {label description flux : String} {u : Unit} :
    (write label description flux).outcome d = some (.ok u, d') ↔
      d' = d.filed d.generator.source (Query.ofFlux label description flux) := by
  rw [write, Process.outcome_modify]
  constructor
  · rintro ⟨⟩
    rfl
  · rintro rfl
    rfl

/-! ## Changes of the desk that make no difference -/

/-- A change of the desk makes no difference to a computation: on the changed desk it does the same,
and what it leaves is changed in the same way. -/
def Ignores (f : Desk → Desk) (x : Compose α) : Prop :=
  ∀ d, x.outcome (f d) = (x.outcome d).map fun (r, d') => (r, f d')

/-- A change of the desk that keeps what is drawn from, the interval and the source. -/
structure KeepsDraws (f : Desk → Desk) : Prop where
  interval_eq (d : Desk) : (f d).generator.interval = d.generator.interval
  source_eq (d : Desk) : (f d).generator.source = d.generator.source
  withSource_eq (d : Desk) (s : Lagged) : f (d.withSource s) = (f d).withSource s

section Ignores

variable {f : Desk → Desk}

theorem Ignores.bind {x : Compose α} {k : α → Compose β} (hx : Ignores f x)
    (hk : ∀ a, Ignores f (k a)) : Ignores f (x >>= k) := by
  intro d
  rw [outcome_bind, outcome_bind, hx]
  rcases x.outcome d with _ | ⟨e | a, d'⟩
  · rfl
  · rfl
  · exact hk a d'

theorem ignores_pure (a : α) : Ignores f (pure a) := fun _ => rfl

theorem ignores_ofCheck (c : Except Fault α) : Ignores f (ofCheck c) := by
  intro d
  simp [outcome_ofCheck]

theorem ignores_oneOf (column : String) (values : List String) :
    Ignores f (oneOf column values) := by
  intro d
  cases values <;> rfl

theorem ignores_draw (hf : KeepsDraws f) (x : Draw Lagged α) : Ignores f (draw x) := by
  intro d
  simp [outcome_draw, hf.source_eq, hf.withSource_eq, Function.comp_def]

theorem ignores_interval (hf : KeepsDraws f) : Ignores f interval := by
  intro d
  simp [hf.interval_eq]

theorem ignores_window (hf : KeepsDraws f) (duration : Duration) : Ignores f (window duration) :=
  (ignores_interval hf).bind fun _ => ignores_draw hf _

theorem ignores_fleet (hf : KeepsDraws f) : Ignores f fleet := ignores_draw hf _

end Ignores

end Compose

end FluxCorpus
