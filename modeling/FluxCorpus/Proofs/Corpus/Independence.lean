import FluxCorpus.Proofs.Corpus
import FluxCorpus.Proofs.Corpus.Framing
import FluxCorpus.Proofs.Template.Independence

/-!
# What a corpus depends on

The seed and the scale of a generator are carried through every query of a corpus.  Where a query
type does not depend on one of them, neither does any line of its corpus: a change of the generator
that a single query ignores is ignored by a run of any length.

* `Corpus.extend_mapGenerator`, `Corpus.extendBy_mapGenerator`, `Corpus.compose_mapGenerator` — one
  query, a run of any length and a corpus of a generator that is changed.
* `QueryType.composes_replicate` — a query type that draws nothing composes one record over and over.
* `Query.numberedJson_split` — where the number of a record stands in its line.
* `Corpus.independent_of_seed_and_scale` — **which corpora depend on neither, and which not on the
  scale.**
-/

namespace FluxCorpus

/-! ## Lines of one record -/

/-- The number of a record stands near the start of its line and nowhere else. -/
theorem Query.numberedJson_split (q : Query) :
    ∃ rest, ∀ id, q.numberedJson id = "\x7b\"id\":" ++ Text.Decimal.text id ++ rest := by
  refine ⟨String.ofList ((q.members.map Json.member).flatMap (',' :: ·) ++ ['\x7d']), ?_⟩
  intro id
  have hname : Json.string "id" = ['"', 'i', 'd', '"'] := by decide
  apply String.toList_inj.1
  rw [numberedJson, Json.object, List.map_cons, Json.separated_cons, Json.member, hname]
  simp [Text.Decimal.text]

/-! ## One record over and over -/

namespace QueryType

variable {t : QueryType} {g : Generator} {record : Interval → Query}

theorem composes_replicate (ht : Compose.Steady t.template.compose record)
    (huse : t.template.useCase = g.useCase) (n : Nat) :
    t.Composes g (List.replicate n (record g.interval)) g := by
  induction n with
  | zero => exact .done g
  | succ n ih =>
    refine .next ?_ ih
    rw [outcome_compose huse]
    exact ht ⟨g, .empty⟩

end QueryType

namespace Corpus

theorem numbered_replicate (q : Query) (number n : Nat) :
    numbered number (List.replicate n q)
      = (List.range n).map fun k => q.numberedJson (number + k) := by
  apply List.ext_getElem?
  intro k
  rw [getElem?_numbered, List.getElem?_map, List.getElem?_replicate]
  by_cases hk : k < n
  · rw [if_pos hk, List.getElem?_range hk]
    rfl
  · rw [if_neg hk, List.getElem?_eq_none (by simpa using hk)]
    rfl

/-! ## Generators that are changed -/

/-- What a corpus shows of itself: its text, and why it ends before its time. -/
def output (c : Corpus) : String × Option Stop := (c.text, c.failure)

/-- The corpus with a change of its generator. -/
def mapGenerator (γ : Generator → Generator) (c : Corpus) : Corpus :=
  { c with generator := γ c.generator }

@[simp] theorem output_mapGenerator (γ : Generator → Generator) (c : Corpus) :
    (c.mapGenerator γ).output = c.output :=
  rfl

section MapGenerator

variable {t : QueryType} {γ : Generator → Generator}

/-- What a query ignores makes no difference to its line, and goes on to the next query. -/
theorem extend_mapGenerator (ht : Compose.Ignores (Desk.mapGenerator γ) t.compose) (number : Nat)
    (c : Corpus) :
    extend t number (c.mapGenerator γ) = (extend t number c).map (mapGenerator γ) := by
  have hdesk := ht ⟨c.generator, .empty⟩
  unfold extend
  change (t.compose.outcome (Desk.mapGenerator γ ⟨c.generator, .empty⟩) >>= _) = _
  rw [hdesk]
  rcases t.compose.outcome ⟨c.generator, .empty⟩ with _ | ⟨e | u, d⟩
  · rfl
  · rfl
  · rfl

theorem extendBy_mapGenerator (ht : Compose.Ignores (Desk.mapGenerator γ) t.compose)
    (number count : Nat) (c : Corpus) :
    extendBy t number count (c.mapGenerator γ)
      = (extendBy t number count c).map (mapGenerator γ) := by
  induction count generalizing number c with
  | zero => rfl
  | succ count ih =>
    rw [extendBy, extendBy, extend_mapGenerator ht]
    rcases extend t number c with _ | c₁
    · rfl
    · -- the run of the changed generator ends where the other one ends
      by_cases hfail : c₁.failure.isSome
      · simp [mapGenerator, hfail]
      · have hfail' : (c₁.mapGenerator γ).failure.isSome = false := by
          simpa [mapGenerator] using hfail
        simp [hfail, hfail', ih]

/-- **A change that every query ignores is ignored by the corpus.** -/
theorem compose_mapGenerator (ht : Compose.Ignores (Desk.mapGenerator γ) t.compose) (count : Nat)
    (g : Generator) : compose t count (γ g) = (compose t count g).map (mapGenerator γ) :=
  extendBy_mapGenerator ht 1 count (empty g)

theorem output_compose (ht : Compose.Ignores (Desk.mapGenerator γ) t.compose) (count : Nat)
    (g : Generator) : (compose t count (γ g)).map output = (compose t count g).map output := by
  simp [compose_mapGenerator ht, Function.comp_def]

end MapGenerator

/-! ## Seed and scale -/

/-- A query type that draws nothing has a corpus, whose lines differ in the number alone. -/
theorem compose_of_steady {t : QueryType} {record : Interval → Query} {g : Generator}
    (ht : Compose.Steady t.template.compose record) (huse : t.template.useCase = g.useCase)
    (count : Nat) :
    ∃ c rest, compose t count g = some c ∧ c.failure = none
      ∧ c.lines.reverse = (List.range count).map fun k =>
          "\x7b\"id\":" ++ Text.Decimal.text (k + 1) ++ rest := by
  obtain ⟨rest, hrest⟩ := (record g.interval).numberedJson_split
  have hrecords := QueryType.composes_replicate ht huse count
  obtain ⟨hcompose, hnone⟩ := compose_ok.2 ⟨_, g, hrecords, List.length_replicate, rfl⟩
  refine ⟨_, rest, hcompose, hnone, ?_⟩
  rw [ofRecords, List.reverse_reverse, numbered_replicate]
  apply List.map_congr_left
  intro k _
  rw [Nat.add_comm 1 k, hrest]

/-- **What a corpus depends on.**  Take two generators for one use case and one interval, with any
seeds and scales, and the corpora of one query type by them.  If the query type draws nothing, the two
show the same, and in a generator of its use case it has a corpus without failure, whose lines are
one line but for the numbers.  If it names no host and no truck, they show the same whenever the
seeds are the same. -/
theorem independent_of_seed_and_scale {format format' : String} {useCase : UseCase} {i : Interval}
    {scale scale' : Nat} {seed seed' : Int} {g g' : Generator} {t : QueryType}
    (h : Generator.create format useCase i scale seed = .ok g)
    (h' : Generator.create format' useCase i scale' seed' = .ok g') (ht : t ∈ QueryType.catalog)
    (count : Nat) :
    (t.name ∈ QueryType.undrawn →
      (compose t count g').map output = (compose t count g).map output
        ∧ (t.useCase = useCase → ∃ c rest, compose t count g = some c ∧ c.failure = none
          ∧ c.lines.reverse = (List.range count).map fun k =>
              "\x7b\"id\":" ++ Text.Decimal.text (k + 1) ++ rest))
    ∧ (t.name ∈ QueryType.nameless → seed' = seed →
      (compose t count g').map output = (compose t count g).map output) := by
  obtain ⟨-, -, rfl⟩ := Generator.create_ok.1 h
  obtain ⟨-, -, rfl⟩ := Generator.create_ok.1 h'
  constructor
  · intro hname
    obtain ⟨record, hsteady⟩ := Template.steady (QueryType.template_mem_undrawn t ht hname)
    constructor
    · have hignores : Compose.Ignores (Desk.mapGenerator (.restart scale' (.ofSeed seed')))
          t.compose :=
        QueryType.ignores (hsteady.ignores fun _ => rfl) fun _ => rfl
      exact output_compose hignores count ⟨useCase, i, scale, .ofSeed seed⟩
    · intro huse
      exact compose_of_steady hsteady ((QueryType.useCase_of_mem_catalog t ht).trans huse) count
  · rintro hname rfl
    have hfree := Template.scaleFree (QueryType.sample?_of_nameless t ht hname)
    have hignores : Compose.Ignores (Desk.mapGenerator (.withScale scale')) t.compose :=
      QueryType.ignores (hfree scale') fun _ => rfl
    exact output_compose hignores count ⟨useCase, i, scale, .ofSeed seed'⟩

/-- Breakdowns as two generators of different seeds and scales ask for them, and the last readings by
fleet as they ask for them with one seed. -/
theorem independent_of_seed_and_scale_trucks :
    ∃ g₁ g₂ g₃ : Generator,
      Generator.create "influx_2" .iot ⟨0, 3600000000001⟩ 1 0 = .ok g₁
        ∧ Generator.create "influx_2" .iot ⟨0, 3600000000001⟩ 4000 (-7) = .ok g₂
        ∧ Generator.create "influx_2" .iot ⟨0, 3600000000001⟩ 4000 0 = .ok g₃
        ∧ (compose (.ofTrucks "breakdown-frequency" "Calculate breakdown frequency by truck model"
              .breakdownFrequency) 3 g₂).map output
          = (compose (.ofTrucks "breakdown-frequency" "Calculate breakdown frequency by truck model"
              .breakdownFrequency) 3 g₁).map output
        ∧ (compose (.ofTrucks "low-fuel" "Fetch all trucks with low fuel (less than 10%)"
              .lowFuel) 3 g₃).map output
          = (compose (.ofTrucks "low-fuel" "Fetch all trucks with low fuel (less than 10%)"
              .lowFuel) 3 g₁).map output := by
  have h₁ : Generator.create "influx_2" .iot ⟨0, 3600000000001⟩ 1 0
      = .ok ⟨.iot, ⟨0, 3600000000001⟩, 1, .ofSeed 0⟩ := rfl
  have h₂ : Generator.create "influx_2" .iot ⟨0, 3600000000001⟩ 4000 (-7)
      = .ok ⟨.iot, ⟨0, 3600000000001⟩, 4000, .ofSeed (-7)⟩ := rfl
  have h₃ : Generator.create "influx_2" .iot ⟨0, 3600000000001⟩ 4000 0
      = .ok ⟨.iot, ⟨0, 3600000000001⟩, 4000, .ofSeed 0⟩ := rfl
  refine ⟨_, _, _, h₁, h₂, h₃, ?_, ?_⟩
  · exact ((independent_of_seed_and_scale h₁ h₂ (by decide) 3).1 (by decide)).1
  · exact (independent_of_seed_and_scale h₁ h₃ (by decide) 3).2 (by decide) rfl

end Corpus

end FluxCorpus
