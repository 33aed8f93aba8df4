import FluxCorpus.Proofs.Template.Ranges
import FluxCorpus.Proofs.Workload.Names

/-!
# The terms in a script are the sample that was drawn

The templates about single hosts or trucks write the names of their sample into the condition of the
script, and some of them a list of metrics beside it.  A reader of the whole script finds these
names and metrics, in order, and no others.

* `Script.terms_groupByTime` and its like — a script has the terms of its condition.
* `Template.terms_of_sample` — **the names in the text of a successful template are those that it
  drew**, all different.
-/

namespace FluxCorpus

open Flux
open Text (Clear Finds clear_lit)

/-! ## Scripts with terms -/

namespace Script

variable (w : Interval) {column fields hosts condition : String} {out : List (Option String)}

/-- A line for a range holds no term. -/
theorem terms_rangeOf : Finds (terms column) (rangeOf w) [] := by
  have hrange : Clear (columnMarker column) "|> range(" := clear_line (by decide)
  have hstart : Clear (columnMarker column) "start: " := clear_line (by decide)
  have hstop : Clear (columnMarker column) ", stop: " := clear_line (by decide)
  have hbounds : Clear (columnMarker column) (boundsOf w) :=
    ((hstart.append (clear_timestamp _ _)).append hstop).append (clear_timestamp _ _)
  exact finds_terms ((hrange.append hbounds).append (clear_line (by decide)))

theorem terms_rangeAll : Finds (terms column) rangeAll [] := by
  have hrange : Clear (columnMarker column) "|> range(" := clear_line (by decide)
  have hstart : Clear (columnMarker column) "start: 0" := clear_line (by decide)
  exact finds_terms ((hrange.append hstart).append (clear_line (by decide)))

theorem terms_filter {c : String} (h : Finds (terms column) c out) :
    Finds (terms column) (filter c) out := by
  have hstart : Clear (columnMarker column) "|> filter(fn: (r) => " := clear_line (by decide)
  have hclose : Clear (columnMarker column) ")" := clear_line (by decide)
  have hline := ((finds_terms hstart).append h).append (finds_terms hclose)
  rwa [List.nil_append, List.append_nil] at hline

/-- A script has the terms of its third line, if the others have none. -/
theorem terms_script {first second line : String} {after : List String}
    (hfirst : Clear (columnMarker column) first) (hsecond : Finds (terms column) second [])
    (hline : Finds (terms column) line out)
    (hafter : ∀ l ∈ after, Clear (columnMarker column) l) :
    Finds (terms column) (paragraphs [first :: second :: line :: after]) out := by
  have hbreak : Finds (terms column) "\n\t" [] := finds_terms (clear_line (by decide))
  refine finds_line [first, second] after hbreak ?_ hline fun l hl => finds_terms (hafter l hl)
  exact List.forall_mem_cons.2 ⟨finds_terms hfirst, List.forall_mem_singleton.2 hsecond⟩

theorem clear_fromBenchmark_column : Clear (columnMarker column) fromBenchmark :=
  clear_line (by decide)

theorem terms_groupByTime
    (h : Finds (terms column) ("r._measurement == \"cpu\" and " ++ fields ++ " and " ++ hosts) out) :
    Finds (terms column) (paragraphs [groupByTime w fields hosts]) out := by
  refine terms_script (clear_fromBenchmark_column.append (clear_line (by decide)))
    (terms_rangeOf w) (terms_filter h) ?_
  simp only [List.forall_mem_cons]
  refine ⟨?_, ?_, ?_, nofun⟩
  · exact clear_line (by decide)
  · exact clear_line (by decide)
  · exact clear_line (by decide)

theorem terms_maxAll
    (h : Finds (terms column) ("r._measurement == \"cpu\" and " ++ fields ++ " and " ++ hosts) out) :
    Finds (terms column) (paragraphs [maxAll w fields hosts]) out := by
  refine terms_script clear_fromBenchmark_column (terms_rangeOf w) (terms_filter h) ?_
  simp only [List.forall_mem_cons]
  refine ⟨?_, ?_, ?_, nofun⟩
  · exact clear_line (by decide)
  · exact clear_line (by decide)
  · exact clear_line (by decide)

theorem terms_highCpu
    (h : Finds (terms column)
      ("r._measurement == \"cpu\" and r._field == \"usage_user\" and r._value > 90.0" ++ condition)
      out) :
    Finds (terms column) (paragraphs [highCpu w condition]) out := by
  refine terms_script clear_fromBenchmark_column (terms_rangeOf w) (terms_filter h) ?_
  simp only [List.forall_mem_cons]
  refine ⟨?_, ?_, nofun⟩
  · exact clear_line (by decide)
  · exact clear_line (by decide)

theorem terms_lastLocationByTruck {trucks : String}
    (h : Finds (terms column) ("r._measurement == \"readings\" and " ++ trucks) out) :
    Finds (terms column) (paragraphs [lastLocationByTruck trucks]) out := by
  refine terms_script clear_fromBenchmark_column terms_rangeAll (terms_filter h) ?_
  simp only [List.forall_mem_cons]
  refine ⟨?_, ?_, ?_, ?_, ?_, nofun⟩
  · exact clear_line (by decide)
  · exact clear_line (by decide)
  · exact clear_line (by decide)
  · exact clear_line (by decide)
  · exact clear_line (by decide)

/-! ## Conditions with names and fields -/

variable {names metrics : List String}

theorem hostname_terms_of_condition (hnames : ∀ v ∈ names, Plain v)
    (hmetrics : ∀ f ∈ metrics, Plain f) :
    Finds (terms "hostname") ("r._measurement == \"cpu\" and " ++ Flux.oneOf "_field" metrics
      ++ " and " ++ Flux.oneOf "hostname" names) (names.map some) := by
  have hcolumn : PlainColumn "hostname" := by decide
  have hcpu : Clear (columnMarker "hostname") "r._measurement == \"cpu\" and " :=
    clear_lit (by decide)
  have hfields : Clear (columnMarker "hostname") (Flux.oneOf "_field" metrics) :=
    clear_oneOf hcolumn.clearJoints (Text.clear_of_tails (by decide)) hmetrics
  have hand : Clear (columnMarker "hostname") " and " := clear_line (by decide)
  exact (finds_terms ((hcpu.append hfields).append hand)).append (terms_oneOf hcolumn hnames)

theorem field_terms_of_condition (hnames : ∀ v ∈ names, Plain v)
    (hmetrics : ∀ f ∈ metrics, Plain f) :
    Finds (terms "_field") ("r._measurement == \"cpu\" and " ++ Flux.oneOf "_field" metrics
      ++ " and " ++ Flux.oneOf "hostname" names) (metrics.map some) := by
  have hcolumn : PlainColumn "_field" := by decide
  have hcpu : Clear (columnMarker "_field") "r._measurement == \"cpu\" and " :=
    clear_lit (by decide)
  have hand : Clear (columnMarker "_field") " and " := clear_line (by decide)
  have hhosts : Clear (columnMarker "_field") (Flux.oneOf "hostname" names) :=
    clear_oneOf hcolumn.clearJoints (Text.clear_of_tails (by decide)) hnames
  have hfields := (finds_terms hcpu).append (terms_oneOf hcolumn hmetrics)
  have h := (hfields.append (finds_terms hand)).append (finds_terms hhosts)
  rwa [List.nil_append, List.append_nil, List.append_nil] at h

end Script

/-! ## Templates with a sample -/

namespace Template

/-- The names of a sample, unless it is the sample of no hosts that a query about all of them has. -/
def Sampled (t : Template) (kind : TagKind) (n : Nat) (g : Generator) (s' : Lagged)
    (names : List String) : Prop :=
  (t = .devops (.highCpu 0) ∧ n = 0 ∧ names = []) ∨
    ∃ s, t.SamplesFrom g s ∧ (Draw.tags kind n g.scale).outcome s = some (.ok names, s')

/-- A template with a sample has written the names of it, and its metrics. -/
theorem exists_sample {t : Template} {kind : TagKind} {n : Nat} {desk desk' : Desk}
    (ht : t.sample? = some (kind, n)) (h : t.compose.outcome desk = some (.ok (), desk')) :
    ∃ names, t.Sampled kind n desk.generator desk'.generator.source names
      ∧ Finds (terms kind.column) desk'.record.body (names.map some)
      ∧ ∀ k, t.metrics? = some k → k ≤ cpuMetrics.length
        ∧ Finds (terms "_field") desk'.record.body ((cpuMetrics.take k).map some) := by
  cases t with
  | devops t =>
    cases t with
    | groupByTime hosts metrics duration =>
      cases ht
      obtain ⟨w, s, names, s', hw, hle, hnames, rfl⟩ := Compose.groupByTime_ok h
      have hplain := plain_of_tags hnames
      have hmetrics : ∀ f ∈ cpuMetrics.take metrics, Plain f :=
        fun f hf => plain_cpuMetrics f (List.mem_of_mem_take hf)
      refine ⟨names, .inr ⟨s, ⟨w, hw⟩, hnames⟩, ?_, ?_⟩
      · exact Script.terms_groupByTime w (Script.hostname_terms_of_condition hplain hmetrics)
      · rintro k ⟨⟩
        exact ⟨hle, Script.terms_groupByTime w (Script.field_terms_of_condition hplain hmetrics)⟩
    | maxAll hosts duration =>
      cases ht
      obtain ⟨w, s, names, s', hw, hnames, rfl⟩ := Compose.maxAll_ok h
      have hplain := plain_of_tags hnames
      refine ⟨names, .inr ⟨s, ⟨w, hw⟩, hnames⟩, ?_, ?_⟩
      · exact Script.terms_maxAll w (Script.hostname_terms_of_condition hplain plain_cpuMetrics)
      · rintro k ⟨⟩
        rw [List.take_length]
        exact ⟨Nat.le_refl _,
          Script.terms_maxAll w (Script.field_terms_of_condition hplain plain_cpuMetrics)⟩
    | highCpu hosts =>
      cases ht
      obtain ⟨w, s, condition, s', hw, hcondition, rfl⟩ := Compose.highCpu_ok h
      have hcpu : Clear (columnMarker "hostname")
          "r._measurement == \"cpu\" and r._field == \"usage_user\" and r._value > 90.0" :=
        clear_lit (by decide)
      obtain ⟨rfl, rfl, rfl⟩ | ⟨names, hnames, rfl⟩ := hcondition
      · refine ⟨[], .inl ⟨rfl, rfl, rfl⟩, ?_, nofun⟩
        exact Script.terms_highCpu w (finds_terms (hcpu.append (clear_lit (by decide))))
      · have hand : Clear (columnMarker "hostname") " and " := clear_line (by decide)
        have hterms := terms_oneOf (by decide : PlainColumn "hostname") (plain_of_tags hnames)
        refine ⟨names, .inr ⟨s, ⟨w, hw⟩, hnames⟩, ?_, nofun⟩
        exact Script.terms_highCpu w
          ((finds_terms hcpu).append ((finds_terms hand).append hterms))
    | _ => cases ht
  | iot t =>
    cases t with
    | lastLocationByTruck trucks =>
      cases ht
      obtain ⟨names, s, _, _, hnames, rfl⟩ := Compose.lastLocationByTruck_ok h
      have hreadings : Clear (columnMarker "name") "r._measurement == \"readings\" and " :=
        clear_lit (by decide)
      have hterms := terms_oneOf (by decide : PlainColumn "name") (plain_of_tags hnames)
      refine ⟨names, .inr ⟨_, rfl, hnames⟩, ?_, nofun⟩
      exact Script.terms_lastLocationByTruck ((finds_terms hreadings).append hterms)
    | _ => cases ht

end Template

end FluxCorpus
