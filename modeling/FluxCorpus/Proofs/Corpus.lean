import FluxCorpus.Corpus
import FluxCorpus.Proofs.Json.Writer
import FluxCorpus.Proofs.Template.Fault

/-!
# A corpus is written as a whole or not at all

Since the setting alone decides whether a query can be composed, and no query changes it, either all
queries of a corpus are composed or not even the first one.

* `Generator.create_ok` — what a generator is built from.
* `Generator.CalledFrom` — the generators that earlier calls can leave behind, all with the setting
  of the first one.
* `Corpus.extend_settled`, `Corpus.extendBy_settled` — one more query, and a run of any length, are
  composed or refused as the setting has it.
* `Corpus.all_or_nothing` — **all lines or no byte.**
-/

namespace FluxCorpus

/-! ## Generators -/

/-- There is one format, and it has queries for every use case. -/
theorem Generator.checkFormat_eq (format : String) (useCase : UseCase) :
    checkFormat format useCase =
      if format = "influx_2" then .ok () else .error (.unknownFormat format) := by
  by_cases h : format = "influx_2"
  · subst h
    cases useCase <;> rfl
  · have hne : "influx_2" ≠ format := fun heq => h heq.symm
    simp [checkFormat, registry, h, hne, throw, throwThe, MonadExceptOf.throw]

/-- A generator is built for the one format and a positive scale. -/
theorem Generator.create_ok {format : String} {useCase : UseCase} {i : Interval} {scale : Nat}
    {seed : Int} {g : Generator} : create format useCase i scale seed = .ok g ↔
      format = "influx_2" ∧ 1 ≤ scale ∧ g = ⟨useCase, i, scale, .ofSeed seed⟩ := by
  unfold create
  rw [checkFormat_eq]
  by_cases hformat : format = "influx_2"
  · by_cases hscale : scale < 1
    · simp [hformat, ofSource, hscale, bind, Except.bind, throw, throwThe, MonadExceptOf.throw]
    · simp [hformat, ofSource, hscale, bind, Except.bind, pure, Except.pure, eq_comm]
      omega
  · simp [hformat, bind, Except.bind]

/-! ## Earlier calls -/

/-- `g` is what some calls on `g₀` have left, whatever they were about and however they ended. -/
inductive Generator.CalledFrom (g₀ : Generator) : Generator → Prop
  | start : CalledFrom g₀ g₀
  | template {g : Generator} (t : Template) (q : Query) {r : Except Stop Unit} {d : Desk} :
    CalledFrom g₀ g → t.compose.outcome ⟨g, q⟩ = some (r, d) → CalledFrom g₀ d.generator
  | query {g : Generator} (t : QueryType) (q : Query) {r : Except Stop Unit} {d : Desk} :
    CalledFrom g₀ g → t.compose.outcome ⟨g, q⟩ = some (r, d) → CalledFrom g₀ d.generator

/-- Calls do not change the setting. -/
theorem Generator.CalledFrom.setting {g₀ g : Generator} (h : g₀.CalledFrom g) :
    g.setting = g₀.setting := by
  induction h with
  | start => rfl
  | template t q _ ht ih => exact (t.settles.keeps ht).trans ih
  | query t q _ ht ih => exact (t.settles.keeps ht).trans ih

theorem Generator.setting_of_create {format : String} {useCase : UseCase} {interval : Interval}
    {scale : Nat} {seed : Int} {g : Generator}
    (h : create format useCase interval scale seed = .ok g) :
    g.setting = ⟨useCase, interval, scale⟩ ∧ 0 < scale := by
  obtain ⟨-, hscale, rfl⟩ := create_ok.1 h
  exact ⟨rfl, hscale⟩

/-! ## Runs -/

namespace Corpus

variable {t : QueryType} {number count : Nat} {c c' : Corpus}

/-- What a step or a run does to a corpus: without a refusal it adds a number of lines, each of them
free of line breaks; with one it adds nothing but the reason. -/
def Settled (refusal : Option Stop) (added : Nat) (c c' : Corpus) : Prop :=
  match refusal with
  | none => c'.failure = none ∧
    ∃ ls : List String, c'.lines = ls ++ c.lines ∧ ls.length = added ∧ ∀ l ∈ ls, '\n' ∉ l.toList
  | some e => c'.failure = some e ∧ c'.lines = c.lines

/-- One more query is composed, or refused, as the setting has it. -/
theorem extend_settled (hreg : c.generator.setting.Regular) (h : extend t number c = some c') :
    c'.generator.setting = c.generator.setting
      ∧ Settled (t.refusal c.generator.setting) 1 c c' := by
  rw [extend, Option.bind_eq_bind, Option.bind_eq_some_iff] at h
  obtain ⟨⟨r, d⟩, hcompose, h⟩ := h
  have hkeep := t.settles.keeps hcompose
  cases r with
  | error e =>
    cases h
    rw [t.settles.error hreg hcompose]
    exact ⟨hkeep, rfl, rfl⟩
  | ok u =>
    cases h
    rw [t.settles.ok hreg hcompose]
    refine ⟨hkeep, rfl, [d.record.numberedJson number], rfl, rfl, ?_⟩
    intro l hl
    rw [List.mem_singleton] at hl
    subst hl
    exact d.record.newline_not_mem_numberedJson number

/-- After a query that is composed the run goes on with the next one. -/
theorem extendBy_succ_of_extend {c₁ : Corpus} (h : extend t number c = some c₁)
    (hfail : c₁.failure = none) :
    extendBy t number (count + 1) c = extendBy t (number + 1) count c₁ := by
  rw [extendBy, h, Option.bind_eq_bind, Option.bind_some, hfail, Option.isSome_none,
    if_neg Bool.false_ne_true]

/-- A run of any length is composed or refused as a whole: every query has the fate of the first. -/
theorem extendBy_settled (hreg : c.generator.setting.Regular) (hc : c.failure = none)
    (hcount : t.refusal c.generator.setting = none ∨ 0 < count)
    (h : extendBy t number count c = some c') :
    Settled (t.refusal c.generator.setting) count c c' := by
  induction count generalizing number c with
  | zero =>
    cases h
    rw [hcount.resolve_right (Nat.lt_irrefl 0)]
    exact ⟨hc, [], rfl, rfl, nofun⟩
  | succ count ih =>
    rw [extendBy, Option.bind_eq_bind, Option.bind_eq_some_iff] at h
    obtain ⟨c₁, hstep, hrest⟩ := h
    obtain ⟨hkeep, hsettled⟩ := extend_settled hreg hstep
    cases hrefusal : t.refusal c.generator.setting with
    | some e =>
      rw [hrefusal] at hsettled
      obtain ⟨hfail, hlines⟩ := hsettled
      rw [hfail] at hrest
      cases hrest
      exact ⟨hfail, hlines⟩
    | none =>
      rw [hrefusal] at hsettled
      obtain ⟨hfail, ls, hlines, hlen, hbreak⟩ := hsettled
      rw [hfail] at hrest
      have hsettled' := ih (hkeep ▸ hreg) hfail (.inl (by rw [hkeep, hrefusal])) hrest
      rw [hkeep, hrefusal] at hsettled'
      obtain ⟨hfail', ls', hlines', hlen', hbreak'⟩ := hsettled'
      refine ⟨hfail', ls' ++ ls, ?_, ?_, ?_⟩
      · rw [hlines', hlines, List.append_assoc]
      · rw [List.length_append, hlen, hlen']
      · intro l hl
        exact (List.mem_append.1 hl).elim (hbreak' l) (hbreak l)

/-- **All lines or no byte.**  Take a generator of any format, use case, seed and scale, over an
interval of at most 63 bits, and let any calls be made on it.  The corpus of a query type of the
catalog then either has all of its lines, or fails at the first query and has no text at all.  Which
of the two, and why it fails, is a matter of the query type and the setting alone. -/
theorem all_or_nothing {format : String} {useCase : UseCase} {interval : Interval} {scale : Nat}
    {seed : Int} {g₀ g : Generator}
    (hcreate : Generator.create format useCase interval scale seed = .ok g₀)
    (hstart : Representable interval.start) (hstop : Representable interval.stop)
    (hlt : interval.start < interval.stop)
    (hlength : interval.stop - interval.start < 9223372036854775808)
    (hscale : scale < 9223372036854775808) (hcalls : g₀.CalledFrom g)
    (ht : t ∈ QueryType.catalog) (hcount : 1 ≤ count) (h : compose t count g = some c) :
    (c.failure = none ∧ (∃ ls : List String, ls.length = count ∧ (∀ l ∈ ls, '\n' ∉ l.toList)
        ∧ c.text = String.join (ls.map fun l => l ++ "\n"))
      ∨ c.failure.isSome ∧ c.lines = [] ∧ c.text = "")
    ∧ c.failure = (t.fault ⟨useCase, interval, scale⟩).map .fault
    ∧ (c.failure.isSome ↔ t.useCase ≠ useCase
      ∨ (∃ d, t.template.window? = some d ∧ interval.stop - interval.start ≤ d.nanos)
      ∨ ∃ kind n, t.template.sample? = some (kind, n) ∧ 0 < n ∧ scale < n) := by
  obtain ⟨hsetting, hpos⟩ := Generator.setting_of_create hcreate
  have hg : (empty g).generator.setting = ⟨useCase, interval, scale⟩ :=
    hcalls.setting.trans hsetting
  have hproper : Setting.Proper ⟨useCase, interval, scale⟩ :=
    ⟨⟨hstart, hstop, hpos, hscale⟩, hlt, hlength⟩
  have hsettled := extendBy_settled (hg ▸ hproper.toRegular) rfl (.inr hcount) h
  rw [hg, QueryType.refusal_of_mem_catalog ht hproper] at hsettled
  have hreasons := t.isSome_fault ⟨useCase, interval, scale⟩
  cases hfault : t.fault ⟨useCase, interval, scale⟩ with
  | none =>
    rw [hfault] at hsettled hreasons
    obtain ⟨hfail, ls, hlines, hlen, hbreak⟩ := hsettled
    refine ⟨.inl ⟨hfail, ls.reverse, ?_, ?_, ?_⟩, hfail, ?_⟩
    · rw [List.length_reverse, hlen]
    · intro l hl
      exact hbreak l (List.mem_reverse.1 hl)
    · rw [text, hlines]
      change String.join (((ls ++ []).reverse).map _) = _
      rw [List.append_nil]
    · rw [hfail]
      exact hreasons
  | some f =>
    rw [hfault] at hsettled hreasons
    obtain ⟨hfail, hlines⟩ := hsettled
    refine ⟨.inr ⟨by rw [hfail]; rfl, hlines, ?_⟩, hfail, ?_⟩
    · rw [text, hlines]
      rfl
    · rw [hfail]
      exact hreasons

/-- Two queries about one host in one hour. -/
theorem all_or_nothing_one_host :
    ∃ c, compose (QueryType.devops.head (by decide)) 2 (.narrow (.ofSeed 0)) = some c
      ∧ (c.failure = none ∧ (∃ ls : List String, ls.length = 2 ∧ (∀ l ∈ ls, '\n' ∉ l.toList)
          ∧ c.text = String.join (ls.map fun l => l ++ "\n"))
        ∨ c.failure.isSome ∧ c.lines = [] ∧ c.text = "") := by
  have hextend : ∀ (number : Nat) (source : Lagged) (ls : List String), ∃ source' l,
      extend (QueryType.devops.head (by decide)) number ⟨ls, .narrow source, none⟩
        = some ⟨l :: ls, .narrow source', none⟩ := by
    intro number source ls
    obtain ⟨source', q, h⟩ := Compose.groupByTime_narrow source .empty
    have htemplate : (QueryType.devops.head (by decide)).template.compose
        = Compose.groupByTime 1 1 (.ofHours 1) := rfl
    have hcompose : (QueryType.devops.head (by decide)).compose.outcome ⟨.narrow source, .empty⟩
        = some (.ok (), ⟨.narrow source', q⟩) := by
      rw [QueryType.outcome_compose rfl, htemplate, h]
    exact ⟨source', q.numberedJson number, by rw [extend, hcompose]; rfl⟩
  obtain ⟨source₁, l₁, h₁⟩ := hextend 1 (.ofSeed 0) []
  obtain ⟨source₂, l₂, h₂⟩ := hextend 2 source₁ [l₁]
  have hcompose : compose (QueryType.devops.head (by decide)) 2 (.narrow (.ofSeed 0))
      = some ⟨[l₂, l₁], .narrow source₂, none⟩ := by
    rw [compose, empty, extendBy_succ_of_extend h₁ rfl, extendBy_succ_of_extend h₂ rfl]
    rfl
  have hcreate : Generator.create "influx_2" .devops ⟨0, 3600000000001⟩ 1 0
      = .ok (.narrow (.ofSeed 0)) := rfl
  have hall := all_or_nothing hcreate (by decide) (by decide) (by decide) (by decide) (by decide)
    .start (List.mem_append_left _ (List.head_mem _)) (by decide) hcompose
  exact ⟨_, hcompose, hall.1⟩

end Corpus

end FluxCorpus
