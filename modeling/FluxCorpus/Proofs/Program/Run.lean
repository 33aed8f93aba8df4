import FluxCorpus.Program.Run
import FluxCorpus.Proofs.Config
import FluxCorpus.Proofs.Corpus.Framing

/-!
# What a run for a corpus comes to

A run that is asked for a corpus checks its configuration, composes the corpus and delivers it.  The
check decides whether there is a corpus at all, and what was composed decides about the rest: the
text, the status and the message of the run.

* `prepare_eq_error`, `prepare_eq_ok` — a configuration that passes the check has all that a corpus
  needs.
* `generate_of_faults` — **a configuration with a fault ends the run with the first of its faults.**
* `Delivery` — what a run writes, with its status and its message.
* `generate_succeeds_iff` — **a run with status 0 has written the records that its generator
  composes**, as many as it was asked for.
* `delivery_of_sound` — **a run writes its whole corpus or no byte.**
* `run_eq_generate` — this is what the whole program does with such arguments.
-/

namespace FluxCorpus.Program

variable {clockSeed : Int} {c : Config} {t : QueryType} {g : Generator} {e : Stop}

/-! ## The check -/

/-- Nothing but the check refuses a configuration. -/
theorem prepare_eq_error : prepare clockSeed c = .error e ↔ c.validate = .error e := by
  cases hvalid : c.validate with
  | error e' =>
    rw [prepare, hvalid]
    constructor
    · rintro ⟨⟩
      rfl
    · rintro ⟨⟩
      rfl
  | ok u =>
    obtain ⟨⟨t, ht⟩, -, ⟨g, hg⟩⟩ :=
      (Config.validate_ok.1 hvalid).builds (c.effectiveSeed.getD clockSeed)
    rw [prepare, hvalid, ht, hg]
    exact ⟨nofun, nofun⟩

/-- A sound configuration has a query type and a generator for the seed of the run. -/
theorem prepare_eq_ok : prepare clockSeed c = .ok (t, g) ↔ c.Sound ∧ c.resolve = .ok t
    ∧ c.generator (c.effectiveSeed.getD clockSeed) = .ok g := by
  constructor
  · intro h
    cases hvalid : c.validate with
    | error e =>
      rw [prepare_eq_error.2 hvalid] at h
      cases h
    | ok u =>
      have hsound := Config.validate_ok.1 hvalid
      obtain ⟨⟨t', ht⟩, -, ⟨g', hg⟩⟩ := hsound.builds (c.effectiveSeed.getD clockSeed)
      rw [prepare, hvalid, ht, hg] at h
      cases h
      exact ⟨hsound, ht, hg⟩
  · rintro ⟨hsound, ht, hg⟩
    rw [prepare, Config.validate_ok.2 hsound, ht, hg]
    rfl

/-- **A configuration with a fault ends the run with the first of its faults**, and without a
corpus. -/
theorem generate_of_faults (h : c.faults.head? = some e) :
    generate clockSeed c = some (.finish (stopReport "" e)) := by
  have hvalid : c.validate = .error e := by
    rw [Config.validate_eq, Config.firstOf_eq_error, h]
  rw [generate, prepare_eq_error.2 hvalid]

/-- A sound configuration has its corpus composed and delivered. -/
theorem generate_of_sound (h : c.Sound) (ht : c.resolve = .ok t)
    (hg : c.generator (c.effectiveSeed.getD clockSeed) = .ok g) :
    generate clockSeed c = (Corpus.compose t c.queries g).map (deliver t c.file) := by
  rw [generate, prepare_eq_ok.2 ⟨h, ht, hg⟩]

/-! ## What is delivered -/

/-- What a run writes, on its output or to a file that can be saved; its status; and its message. -/
structure Delivery where
  text : String
  status : Nat
  message : String

/-- What an action writes, unless it has to talk to a server first. -/
def Action.delivery? : Action → Option Delivery
  | .finish r => some ⟨r.out, r.status, r.err⟩
  | .save _ text saved _ => some ⟨text, saved.status, saved.err⟩
  | .talk _ => none

/-- What a message about queries says before their file is named, if they have one. -/
def fileContext : Option String → String
  | none => ""
  | some path => "writing queries to " ++ path ++ ": "

/-- A corpus is delivered with its text, and with the end that it came to. -/
theorem delivery?_deliver (t : QueryType) (file : Option String) (corpus : Corpus) :
    (deliver t file corpus).delivery? = some ⟨corpus.text,
      (corpusReport t (fileContext file) corpus).status,
      (corpusReport t (fileContext file) corpus).err⟩ := by
  cases file <;> rfl

theorem status_corpusReport (t : QueryType) (context : String) (corpus : Corpus) :
    (corpusReport t context corpus).status = 0 ↔ corpus.failure = none := by
  rw [corpusReport]
  cases corpus.failure with
  | none => exact ⟨fun _ => rfl, fun _ => rfl⟩
  | some e => cases e <;> exact ⟨nofun, nofun⟩

/-- **A run for a sound configuration has status 0 if and only if its generator composes all records
that it was asked for**, and then they are what it writes. -/
theorem generate_succeeds_iff (h : c.Sound) (ht : c.resolve = .ok t)
    (hg : c.generator (c.effectiveSeed.getD clockSeed) = .ok g) {text message : String} :
    (∃ a, generate clockSeed c = some a ∧ a.delivery? = some ⟨text, 0, message⟩) ↔
      ∃ qs g', t.Composes g qs g' ∧ qs.length = c.queries
        ∧ text = (Corpus.ofRecords qs g').text ∧ message = "" := by
  rw [generate_of_sound h ht hg]
  constructor
  · rintro ⟨a, ha, hdelivery⟩
    obtain ⟨corpus, hcompose, rfl⟩ := Option.map_eq_some_iff.1 ha
    rw [delivery?_deliver, Option.some.injEq, Delivery.mk.injEq, status_corpusReport] at hdelivery
    obtain ⟨htext, hfailure, hmessage⟩ := hdelivery
    obtain ⟨qs, g', hqs, hlength, rfl⟩ := Corpus.compose_ok.1 ⟨hcompose, hfailure⟩
    exact ⟨qs, g', hqs, hlength, htext.symm, hmessage.symm⟩
  · rintro ⟨qs, g', hqs, hlength, rfl, rfl⟩
    obtain ⟨hcompose, -⟩ := Corpus.compose_ok.2 ⟨qs, g', hqs, hlength, rfl⟩
    exact ⟨_, by rw [hcompose]; rfl, delivery?_deliver t c.file _⟩

/-- The setting in which the queries of a configuration are composed. -/
def setting (c : Config) : Setting :=
  ⟨c.useCase, ⟨c.timestampStart.unixNanos, c.timestampEnd.unixNanos⟩, c.scale⟩

/-- The generator of a configuration has its setting, which is proper if the scale and the length of
the interval are numbers of 63 bits. -/
theorem setting_of_generator {seed : Int} (hg : c.generator seed = .ok g)
    (hscale : c.scale < 9223372036854775808)
    (hlength : c.timestampEnd.unixNanos - c.timestampStart.unixNanos < 9223372036854775808) :
    g.setting = setting c ∧ (setting c).Proper := by
  obtain ⟨i, hi, -, hpos, rfl⟩ := Config.generator_ok.1 hg
  obtain ⟨hstart, hstop, hlt, rfl⟩ := Config.interval_ok.1 hi
  exact ⟨rfl, ⟨⟨hstart, hstop, hpos, hscale⟩, hlt, hlength⟩⟩

/-- **A run writes its whole corpus or no byte.**  Which of the two is a matter of the query type and
the setting alone, and in the second case the message names the first query. -/
theorem delivery_of_sound (h : c.Sound) (ht : c.resolve = .ok t)
    (hscale : c.scale < 9223372036854775808)
    (hlength : c.timestampEnd.unixNanos - c.timestampStart.unixNanos < 9223372036854775808)
    {a : Action} (ha : generate clockSeed c = some a) :
    (t.fault (setting c) = none → ∃ ls : List String, ls.length = c.queries
        ∧ (∀ l ∈ ls, '\n' ∉ l.toList)
        ∧ a.delivery? = some ⟨String.join (ls.map fun l => l ++ "\n"), 0, ""⟩)
      ∧ ∀ f, t.fault (setting c) = some f →
        a.delivery? = some ⟨"", 1, "Generate command failed: " ++ fileContext c.file
          ++ "generating query 1 of type " ++ t.name ++ ": " ++ f.message ++ "\n"⟩ := by
  obtain ⟨-, -, g, hg⟩ := h.builds (c.effectiveSeed.getD clockSeed)
  obtain ⟨hsetting, hproper⟩ := setting_of_generator hg hscale hlength
  rw [generate_of_sound h ht hg] at ha
  obtain ⟨corpus, hcompose, rfl⟩ := Option.map_eq_some_iff.1 ha
  have hsettled : Corpus.Settled (t.refusal g.setting) c.queries (.empty g) corpus :=
    Corpus.extendBy_settled (c := .empty g) (hsetting ▸ hproper.toRegular) rfl (.inr h.queries)
      hcompose
  rw [hsetting, QueryType.refusal_of_mem_catalog (Config.resolve_ok.1 ht).1 hproper] at hsettled
  rw [delivery?_deliver, corpusReport, Corpus.text]
  refine ⟨fun hnone => ?_, fun f hsome => ?_⟩
  · rw [hnone] at hsettled
    obtain ⟨hfailure, ls, hlines, hcount, hbreak⟩ := hsettled
    have hlines : corpus.lines = ls := hlines.trans (List.append_nil ls)
    refine ⟨ls.reverse, by rw [List.length_reverse, hcount], ?_, ?_⟩
    · intro l hl
      exact hbreak l (List.mem_reverse.1 hl)
    · rw [hfailure, hlines]
      rfl
  · rw [hsome] at hsettled
    obtain ⟨hfailure, hlines⟩ := hsettled
    have hnumber : Text.Decimal.text corpus.nextNumber = "1" := by
      rw [Corpus.nextNumber, hlines]
      exact Text.Decimal.text_eq_toString 1
    rw [hfailure, hlines, hnumber]
    simp only [Option.elim_some, stopReport, Report.failure, String.append_assoc]
    rfl

/-! ## The whole program -/

/-- The arguments of a run, with its environment, ask for the corpus of a configuration. -/
def Invocation.AsksFor (i : Invocation) (c : Config) : Prop :=
  ∃ env filter, Program.environment i = .ok env
    ∧ readArguments env.get? i.arguments = .ok ⟨.generate c, filter⟩
    ∧ LogFilter.check filter = .ok ()

/-- A run that is asked for a corpus does nothing else. -/
theorem run_eq_generate {i : Invocation} (h : i.AsksFor c) : run i = generate i.clockSeed c := by
  obtain ⟨env, filter, henv, hread, hfilter⟩ := h
  rw [run, henv]
  dsimp only
  rw [hread]
  dsimp only
  rw [hfilter]
  rfl

end FluxCorpus.Program
