import FluxCorpus.Environment.Basic
import FluxCorpus.Proofs.CommandLine.Value
import FluxCorpus.Proofs.Config.Options

/-!
# Where the values of a configuration come from

A field of a configuration is given by its option, else by its variable, else by its fallback.  The
three tables `Field.flag`, `Field.envName` and `Field.fallback` are written down here a second time,
as the manual has them, and the options that are read are proved to follow them.

* `Config.Field` — the fields, with what a text says about a field: `Field.Valid`, `Field.Gives`.
* `Config.Assignment` — a field that is given a text, in one of the two spellings.
* `Config.source` — the text that a field is read from; `source_congr` — the order, the spelling and
  the variables of given fields do not enter into it.
* `Config.parse_assignments` — an admissible command line is read, each field from its source.
* `Config.eq_of_holds` — texts for all fields leave no choice of a configuration.
* `Config.sources_combine` — **what is read does not depend on the order, on the spelling, or on a
  variable whose option is given.**
-/

namespace FluxCorpus.Config

open CommandLine

/-! ## Fields -/

/-- What a configuration consists of. -/
inductive Field
  | format
  | useCase
  | queryType
  | scale
  | seed
  | timestampStart
  | timestampEnd
  | queries
  | file
deriving DecidableEq

namespace Field

/-- The name of the option that gives a field. -/
def flag : Field → String
  | format => "format"
  | useCase => "use-case"
  | queryType => "query-type"
  | scale => "scale"
  | seed => "seed"
  | timestampStart => "timestamp-start"
  | timestampEnd => "timestamp-end"
  | queries => "queries"
  | file => "file"

/-- The variable of the environment that gives a field. -/
def envName : Field → String
  | format => "INFLUX2_QUERY_GEN_FORMAT"
  | useCase => "INFLUX2_QUERY_GEN_USE_CASE"
  | queryType => "INFLUX2_QUERY_GEN_QUERY_TYPE"
  | scale => "INFLUX2_QUERY_GEN_SCALE"
  | seed => "INFLUX2_QUERY_GEN_SEED"
  | timestampStart => "INFLUX2_QUERY_GEN_TIMESTAMP_START"
  | timestampEnd => "INFLUX2_QUERY_GEN_TIMESTAMP_END"
  | queries => "INFLUX2_QUERY_GEN_QUERIES"
  | file => "INFLUX2_QUERY_GEN_FILE"

/-- The text that a field is read from if nothing else is given.  A query type must be given, and
without a file the queries go to the standard output. -/
def fallback : Field → Option String
  | format => some "influx_2"
  | useCase => some "devops"
  | queryType => none
  | scale => some "1"
  | seed => some "0"
  | timestampStart => some "2016-01-01T00:00:00Z"
  | timestampEnd => some "2016-01-02T06:00:00Z"
  | queries => some "1000"
  | file => none

/-- A text denotes a value of a field. -/
def Valid (f : Field) (s : String) : Prop :=
  match f with
  | format | queryType => True
  | useCase => ∃ u, DenotesUseCase s u
  | scale | queries => ∃ n, DenotesNatural s n
  | seed => ∃ i, DenotesInteger s i
  | timestampStart | timestampEnd => ∃ t : Instant, t.DenotedBy s
  | file => s ≠ ""

/-- A configuration has in a field the value that a text denotes. -/
def Gives (f : Field) (s : String) (c : Config) : Prop :=
  match f with
  | format => c.format = s
  | useCase => DenotesUseCase s c.useCase
  | queryType => c.queryType = s
  | scale => DenotesNatural s c.scale
  | seed => DenotesInteger s c.seed
  | timestampStart => c.timestampStart.DenotedBy s
  | timestampEnd => c.timestampEnd.DenotedBy s
  | queries => DenotesNatural s c.queries
  | file => s ≠ "" ∧ c.file = some s

/-- A configuration has in a field what its text says; only the file can do without one. -/
def Holds (f : Field) (text : Option String) (c : Config) : Prop :=
  match text with
  | some s => f.Gives s c
  | none => f = file ∧ c.file = none

theorem named_flag (f : Field) : (command.named? f.flag).isSome := by
  cases f <;> rfl

/-- The option that gives a field. -/
def setting (f : Field) : Setting := option f.flag f.named_flag

variable {f : Field} {s : String} {c c' : Config} {text : Option String}

theorem setting_mem (f : Field) : f.setting ∈ command.options := option_mem f.flag f.named_flag

theorem named?_flag (f : Field) : command.named? f.flag = some f.setting :=
  (Option.some_get f.named_flag).symm

@[simp] theorem setting_name (f : Field) : f.setting.name = f.flag := by
  cases f <;> rfl

theorem setting_kind (f : Field) : f.setting.kind = .value := by
  cases f <;> rfl

@[simp] theorem setting_envName (f : Field) : f.setting.envName = some f.envName := by
  cases f <;> rfl

@[simp] theorem setting_fallback (f : Field) : f.setting.fallback = f.fallback := by
  cases f <;> rfl

theorem required_setting : f.setting.required = true ↔ f = queryType := by
  cases f <;> decide

theorem flag_injective : Function.Injective flag := by
  intro f g h
  cases f <;> cases g <;> first | rfl | exact absurd h (by decide)

/-- Besides the fields there is nothing but help to ask for. -/
theorem exists_setting_or_help {o : Setting} (ho : o ∈ command.options) :
    (∃ f : Field, o = f.setting) ∨ o = helpOption := by
  simp only [command, options, List.cons_append, List.nil_append, List.mem_cons,
    List.not_mem_nil, or_false] at ho
  rcases ho with ho | ho | ho | ho | ho | ho | ho | ho | ho | ho
  · exact .inl ⟨format, ho⟩
  · exact .inl ⟨useCase, ho⟩
  · exact .inl ⟨queryType, ho⟩
  · exact .inl ⟨scale, ho⟩
  · exact .inl ⟨seed, ho⟩
  · exact .inl ⟨timestampStart, ho⟩
  · exact .inl ⟨timestampEnd, ho⟩
  · exact .inl ⟨queries, ho⟩
  · exact .inl ⟨file, ho⟩
  · exact .inr ho

/-- The option of a field accepts what is valid for the field. -/
theorem check_setting (h : f.Valid s) : f.setting.check s = none := by
  cases f with
  | format => rfl
  | useCase => exact check_eq_none_iff.2 (h.imp fun _ => Reader.useCase_eq_ok.2)
  | queryType => rfl
  | scale => exact check_eq_none_iff.2 (h.imp fun _ => Reader.unsigned_eq_ok.2)
  | seed => exact check_eq_none_iff.2 (h.imp fun _ => Reader.signed_eq_ok.2)
  | timestampStart => exact check_eq_none_iff.2 (h.imp fun _ => Reader.timestamp_eq_ok.2)
  | timestampEnd => exact check_eq_none_iff.2 (h.imp fun _ => Reader.timestamp_eq_ok.2)
  | queries => exact check_eq_none_iff.2 (h.imp fun _ => Reader.unsigned_eq_ok.2)
  | file => exact check_eq_none_iff.2 ⟨s, Reader.path_eq_ok.2 ⟨h, rfl⟩⟩

/-- A text gives a field what is read from it. -/
theorem Holds.of_text {P : String → Prop} (h : ∃ s, text = some s ∧ P s)
    (hgives : ∀ s, P s → f.Gives s c) : f.Holds text c := by
  obtain ⟨s, rfl, hs⟩ := h
  exact hgives s hs

/-- All fields but the file have a text that they are read from. -/
theorem Holds.exists_gives (h : f.Holds text c) (h' : f.Holds text c') (hf : f ≠ file) :
    ∃ s, f.Gives s c ∧ f.Gives s c' := by
  cases text with
  | none => exact absurd h.1 hf
  | some s => exact ⟨s, h, h'⟩

end Field

/-- Texts for all fields leave no choice of a configuration. -/
theorem eq_of_holds {text : Field → Option String} {c c' : Config}
    (h : ∀ f : Field, f.Holds (text f) c) (h' : ∀ f : Field, f.Holds (text f) c') : c = c' := by
  -- what is denoted is what is read, and so there is one value at most
  have hread : ∀ {α : Type} {result : Except Refusal α} {P : α → Prop},
      (∀ a, result = .ok a ↔ P a) → ∀ {a b}, P a → P b → a = b :=
    fun hiff _ _ ha hb => Except.ok.inj (((hiff _).2 ha).symm.trans ((hiff _).2 hb))
  obtain ⟨_, hformat, hformat'⟩ := (h .format).exists_gives (h' .format) nofun
  obtain ⟨_, huseCase, huseCase'⟩ := (h .useCase).exists_gives (h' .useCase) nofun
  obtain ⟨_, hqueryType, hqueryType'⟩ := (h .queryType).exists_gives (h' .queryType) nofun
  obtain ⟨_, hscale, hscale'⟩ := (h .scale).exists_gives (h' .scale) nofun
  obtain ⟨_, hseed, hseed'⟩ := (h .seed).exists_gives (h' .seed) nofun
  obtain ⟨_, hstart, hstart'⟩ := (h .timestampStart).exists_gives (h' .timestampStart) nofun
  obtain ⟨_, hstop, hstop'⟩ := (h .timestampEnd).exists_gives (h' .timestampEnd) nofun
  obtain ⟨_, hqueries, hqueries'⟩ := (h .queries).exists_gives (h' .queries) nofun
  have hfile : c.file = c'.file := by
    have hf := h .file
    have hf' := h' .file
    cases htext : text .file with
    | none =>
      rw [htext] at hf hf'
      exact hf.2.trans hf'.2.symm
    | some s =>
      rw [htext] at hf hf'
      exact hf.2.trans hf'.2.symm
  cases c
  cases c'
  rw [mk.injEq]
  exact ⟨hformat.trans hformat'.symm, hread (fun _ => Reader.useCase_eq_ok) huseCase huseCase',
    hqueryType.trans hqueryType'.symm, hread (fun _ => Reader.unsigned_eq_ok) hscale hscale',
    hread (fun _ => Reader.signed_eq_ok) hseed hseed',
    hread (fun _ => Reader.timestamp_eq_ok) hstart hstart',
    hread (fun _ => Reader.timestamp_eq_ok) hstop hstop',
    hread (fun _ => Reader.unsigned_eq_ok) hqueries hqueries', hfile⟩

/-! ## Sources -/

/-- A field that is given a text on the command line, which is an argument of its own or attached to
the option. -/
structure Assignment where
  field : Field
  text : String
  attached : Bool

namespace Assignment

/-- The arguments that give a field its text: `--flag text` or `--flag=text`. -/
def arguments (x : Assignment) : List String :=
  if x.attached then ["--" ++ x.field.flag ++ "=" ++ x.text] else ["--" ++ x.field.flag, x.text]

/-- What is given, whatever the spelling. -/
def meaning (x : Assignment) : Field × String := (x.field, x.text)

/-- The option of the field, with its text. -/
def choice (x : Assignment) : Choice := ⟨x.field.setting, x.text, x.attached⟩

theorem arguments_choice (x : Assignment) : x.choice.arguments = x.arguments := by
  rw [Choice.arguments, choice, Field.setting_name]
  rfl

end Assignment

/-- The text that the command line gives a field. -/
def given (xs : List Assignment) (f : Field) : Option String :=
  (xs.find? fun x => x.field = f).map Assignment.text

/-- The text that a field is read from: that on the command line, else that of its variable, else its
fallback. -/
def source (env : String → Option String) (xs : List Assignment) (f : Field) : Option String :=
  (given xs f).or ((env f.envName).or f.fallback)

/-- Every field is given at most once, and by a valid text that does not look like an option; the
variables of the others have valid texts; and there is a query type. -/
structure Admissible (env : String → Option String) (xs : List Assignment) : Prop where
  valid : ∀ x ∈ xs, x.field.Valid x.text
  plain : ∀ x ∈ xs, x.text.toList.head? ≠ some '-'
  nodup : (xs.map Assignment.field).Nodup
  environment : ∀ f ∉ xs.map Assignment.field, ∀ s ∈ env f.envName, f.Valid s
  queryType : .queryType ∈ xs.map Assignment.field ∨ (env Field.queryType.envName).isSome

section Sources

variable {env env' : String → Option String} {xs ys : List Assignment} {f : Field} {s : String}

/-- Where no field is given twice, every text on the command line counts. -/
theorem given_eq_some_iff (hnodup : (xs.map Assignment.field).Nodup) :
    given xs f = some s ↔ (f, s) ∈ xs.map Assignment.meaning := by
  rw [given, Option.map_eq_some_iff, List.mem_map]
  constructor
  · rintro ⟨x, hfind, rfl⟩
    have hfield : x.field = f := by simpa using List.find?_some hfind
    exact ⟨x, List.mem_of_find?_eq_some hfind, congrArg (·, x.text) hfield⟩
  · rintro ⟨x, hx, heq⟩
    cases heq
    have hfind : xs.find? (fun y => y.field = x.field) = some x := find?_of_nodup hnodup hx
    exact ⟨x, hfind, rfl⟩

theorem map_field (xs : List Assignment) :
    xs.map Assignment.field = (xs.map Assignment.meaning).map Prod.fst := by
  rw [List.map_map]
  rfl

/-- Neither the order nor the spelling enters into what a field is read from, and the variable of a
field that is given does not either. -/
theorem source_congr (hnodup : (xs.map Assignment.field).Nodup)
    (hperm : (ys.map Assignment.meaning).Perm (xs.map Assignment.meaning))
    (henv : ∀ f ∉ xs.map Assignment.field, env' f.envName = env f.envName) (f : Field) :
    source env' ys f = source env xs f := by
  have hnodup' : (ys.map Assignment.field).Nodup := by
    rw [map_field] at hnodup ⊢
    exact (hperm.map Prod.fst).nodup_iff.2 hnodup
  have hgiven : given ys f = given xs f := by
    apply Option.ext
    intro s
    rw [given_eq_some_iff hnodup, given_eq_some_iff hnodup', hperm.mem_iff]
  rw [source, source, hgiven]
  by_cases hf : f ∈ xs.map Assignment.field
  · obtain ⟨x, hx, rfl⟩ := List.mem_map.1 hf
    rw [(given_eq_some_iff hnodup).2 (List.mem_map.2 ⟨x, hx, rfl⟩), Option.some_or, Option.some_or]
  · rw [henv f hf]

/-- What is admissible is so in any order and spelling, and whatever the variables of the given fields
are. -/
theorem Admissible.of_perm (h : Admissible env xs)
    (hperm : (ys.map Assignment.meaning).Perm (xs.map Assignment.meaning))
    (henv : ∀ f ∉ xs.map Assignment.field, env' f.envName = env f.envName) :
    Admissible env' ys := by
  have hfields : (ys.map Assignment.field).Perm (xs.map Assignment.field) := by
    rw [map_field, map_field]
    exact hperm.map Prod.fst
  have hmem : ∀ y ∈ ys, ∃ x ∈ xs, x.field = y.field ∧ x.text = y.text := by
    intro y hy
    obtain ⟨x, hx, heq⟩ := List.mem_map.1 (hperm.subset (List.mem_map_of_mem hy))
    exact ⟨x, hx, congrArg Prod.fst heq, congrArg Prod.snd heq⟩
  refine ⟨fun y hy => ?_, fun y hy => ?_, hfields.nodup_iff.2 h.nodup, fun f hf s hs => ?_, ?_⟩
  · obtain ⟨x, hx, hfield, htext⟩ := hmem y hy
    exact hfield ▸ htext ▸ h.valid x hx
  · obtain ⟨x, hx, -, htext⟩ := hmem y hy
    exact htext ▸ h.plain x hx
  · rw [hfields.mem_iff] at hf
    rw [henv f hf] at hs
    exact h.environment f hf s hs
  · by_cases hf : Field.queryType ∈ xs.map Assignment.field
    · exact .inl (hfields.mem_iff.2 hf)
    · rw [henv _ hf]
      exact .inr (h.queryType.resolve_left hf)

/-! ## Reading -/

/-- The option of a field counts what the field is read from. -/
theorem textFrom_setting (env : String → Option String) (xs : List Assignment) (f : Field) :
    f.setting.textFrom env (xs.map Assignment.choice) = source env xs f := by
  have hfind : (xs.map Assignment.choice).find? (fun x => x.setting.name = f.setting.name)
      = (xs.find? fun x => x.field = f).map Assignment.choice := by
    rw [List.find?_map]
    congr 2
    funext x
    simp [Assignment.choice, Field.flag_injective.eq_iff]
  rw [Setting.textFrom, hfind, Option.map_map, Field.setting_envName, Field.setting_fallback]
  rfl

theorem textOf_flag (env : String → Option String) (xs : List Assignment) (f : Field) :
    textOf env (xs.map Assignment.choice) f.flag = source env xs f := by
  rw [textOf, f.named?_flag, Option.bind_some, textFrom_setting]

/-- What is admissible gives the options what they need. -/
theorem Admissible.satisfied (h : Admissible env xs) :
    command.Satisfied env (xs.map Assignment.choice) := by
  refine ⟨?_, ?_, ?_, ?_⟩
  · rw [List.forall_mem_map]
    intro x hx
    refine ⟨x.field.setting_mem, x.field.setting_kind, Field.check_setting (h.valid x hx), ?_⟩
    intro cs hcs
    exact h.plain x hx (congrArg List.head? hcs)
  · have hname : (fun x : Choice => x.setting.name) ∘ Assignment.choice
        = Field.flag ∘ Assignment.field := funext fun x => x.field.setting_name
    rw [List.map_map, hname, ← List.map_map]
    exact h.nodup.map Field.flag_injective
  · intro o ho hfree s hs
    rcases Field.exists_setting_or_help ho with ⟨f, rfl⟩ | rfl
    · rw [Field.setting_envName, Option.bind_some] at hs
      refine Field.check_setting (h.environment f (fun hf => ?_) s hs)
      obtain ⟨x, hx, rfl⟩ := List.mem_map.1 hf
      exact hfree x.choice (List.mem_map_of_mem hx) rfl
    · cases hs
  · intro o ho hrequired
    rcases Field.exists_setting_or_help ho with ⟨f, rfl⟩ | rfl
    · obtain rfl := Field.required_setting.1 hrequired
      rw [textFrom_setting, source]
      rcases h.queryType with hgiven | henv
      · obtain ⟨x, hx, hfield⟩ := List.mem_map.1 hgiven
        rw [(given_eq_some_iff h.nodup).2 (List.mem_map.2 ⟨x, hx, congrArg (·, x.text) hfield⟩)]
        rfl
      · rw [Option.isSome_or, Option.isSome_or, henv, Bool.true_or, Bool.or_true]
    · cases hrequired

/-- A configuration that is read from the options has in each field what the field is read from. -/
theorem holds_of_readFrom {c : Config}
    (h : c.ReadFrom (textOf env (xs.map Assignment.choice))) (f : Field) :
    f.Holds (source env xs f) c := by
  rw [← textOf_flag]
  cases f with
  | format => exact .of_text h.format fun s hs => (Except.ok.inj hs).symm
  | useCase => exact .of_text h.useCase fun s => Reader.useCase_eq_ok.1
  | queryType => exact .of_text h.queryType fun s hs => (Except.ok.inj hs).symm
  | scale => exact .of_text h.scale fun s => Reader.unsigned_eq_ok.1
  | seed => exact .of_text h.seed fun s => Reader.signed_eq_ok.1
  | timestampStart => exact .of_text h.timestampStart fun s => Reader.timestamp_eq_ok.1
  | timestampEnd => exact .of_text h.timestampEnd fun s => Reader.timestamp_eq_ok.1
  | queries => exact .of_text h.queries fun s => Reader.unsigned_eq_ok.1
  | file =>
    change Field.file.Holds (textOf env _ "file") c
    rcases h.file with ⟨htext, hnone⟩ | ⟨s, p, htext, hread, hsome⟩
    · rw [htext]
      exact ⟨rfl, hnone⟩
    · obtain ⟨hne, rfl⟩ := Reader.path_eq_ok.1 hread
      rw [htext]
      exact ⟨hne, hsome⟩

/-- **An admissible command line is read**, each field from its source. -/
theorem parse_assignments (h : Admissible env xs) :
    ∃ c, parse env (xs.flatMap Assignment.arguments) = .ok c
      ∧ ∀ f : Field, f.Holds (source env xs f) c := by
  obtain ⟨c, hparse, hread⟩ := parse_choices h.satisfied
  have harguments : (xs.map Assignment.choice).flatMap Choice.arguments
      = xs.flatMap Assignment.arguments := by
    rw [List.flatMap_map]
    exact congrArg xs.flatMap (funext Assignment.arguments_choice)
  rw [harguments] at hparse
  exact ⟨c, hparse, holds_of_readFrom hread⟩

/-- **The sources of a configuration are combined independently of order.** An admissible command line
is read, and each field has what its option says if it is given, else what its variable says, else
its fallback.  The same options in another order or spelling, in an environment that differs in the
variables of given fields only, valid or not, give the same configuration. -/
theorem sources_combine (h : Admissible env xs) :
    ∃ c, parse env (xs.flatMap Assignment.arguments) = .ok c
      ∧ (∀ f : Field, f.Holds (source env xs f) c)
      ∧ ∀ (ys : List Assignment) (env' : String → Option String),
        (ys.map Assignment.meaning).Perm (xs.map Assignment.meaning) →
        (∀ f ∉ xs.map Assignment.field, env' f.envName = env f.envName) →
        parse env' (ys.flatMap Assignment.arguments) = .ok c := by
  obtain ⟨c, hparse, hholds⟩ := parse_assignments h
  refine ⟨c, hparse, hholds, fun ys env' hperm henv => ?_⟩
  obtain ⟨c', hparse', hholds'⟩ := parse_assignments (h.of_perm hperm henv)
  have hsame : c' = c := eq_of_holds hholds' fun f => by
    rw [source_congr h.nodup hperm henv]
    exact hholds f
  rw [hparse', hsame]

/-- The scale of the command line counts although its variable has no number, the number of queries and
the seed are those of the variables, and the rest are the fallbacks. -/
theorem sources_combine_scale :
    ∃ c, parse (Environment.get? ⟨[("INFLUX2_QUERY_GEN_SCALE", "many"),
          ("INFLUX2_QUERY_GEN_QUERIES", "20"), ("INFLUX2_QUERY_GEN_SEED", "-7")]⟩)
        ["--scale=5", "--query-type", "high-cpu-1"] = .ok c
      ∧ c = ⟨"influx_2", .devops, "high-cpu-1", 5, -7, ⟨1451606400, 0⟩, ⟨1451714400, 0⟩, 20, none⟩
      ∧ parse (Environment.get? ⟨[("INFLUX2_QUERY_GEN_QUERIES", "20"),
          ("INFLUX2_QUERY_GEN_SEED", "-7")]⟩)
        ["--query-type=high-cpu-1", "--scale", "5"] = .ok c := by
  have hscale : DenotesNatural "5" 5 := Reader.unsigned_eq_ok.1 rfl
  have hqueries : DenotesNatural "20" 20 := Reader.unsigned_eq_ok.1 rfl
  have hseed : DenotesInteger "-7" (-7) := Reader.signed_eq_ok.1 rfl
  have hadmissible : Admissible (Environment.get? ⟨[("INFLUX2_QUERY_GEN_SCALE", "many"),
        ("INFLUX2_QUERY_GEN_QUERIES", "20"), ("INFLUX2_QUERY_GEN_SEED", "-7")]⟩)
      [⟨.scale, "5", true⟩, ⟨.queryType, "high-cpu-1", false⟩] := by
    refine ⟨List.forall_mem_cons.2 ⟨⟨5, hscale⟩, List.forall_mem_singleton.2 trivial⟩, by decide,
      by decide, fun f hf s hs => ?_, .inl (by decide)⟩
    cases f with
    | scale => exact absurd hf (by decide)
    | queryType => exact absurd hf (by decide)
    | queries =>
      cases hs
      exact ⟨20, hqueries⟩
    | seed =>
      cases hs
      exact ⟨-7, hseed⟩
    | _ => cases hs
  obtain ⟨c, hparse, hholds, hsame⟩ := sources_combine hadmissible
  refine ⟨c, hparse, eq_of_holds hholds fun f => ?_, ?_⟩
  · cases f with
    | format => exact rfl
    | useCase => exact .inl ⟨rfl, rfl⟩
    | queryType => exact rfl
    | scale => exact hscale
    | seed => exact hseed
    | timestampStart => exact Reader.timestamp_eq_ok.1 (by rfl)
    | timestampEnd => exact Reader.timestamp_eq_ok.1 (by rfl)
    | queries => exact hqueries
    | file => exact ⟨rfl, rfl⟩
  · refine hsame [⟨.queryType, "high-cpu-1", true⟩, ⟨.scale, "5", false⟩] _ (.swap _ _ _) ?_
    intro f hf
    cases f with
    | scale => exact absurd hf (by decide)
    | _ => rfl

end Sources

end FluxCorpus.Config
