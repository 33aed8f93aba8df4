import FluxCorpus.Config
import FluxCorpus.Proofs.CommandLine.Scan

/-!
# Configurations from command lines

The options of a configuration can be given in any order and in either spelling.  Each field is read
from the text that counts for the option of its own name.

* `Config.check_fallback` — every fallback passes the check of its option.
* `Config.textOf` — the text that counts for the option of a name.
* `Config.ReadFrom` — a configuration that has in each field what the text of its option says.
* `Config.parse_choices` — **a command line that satisfies the options has such a configuration.**
-/

namespace FluxCorpus.Config

open CommandLine

variable {env : String → Option String} {xs : List Choice}

theorem flat_command : command.Flat where
  subcommands := rfl
  operands := rfl
  subcommandRequired := rfl
  nodup := by decide
  names := by decide

/-- Every fallback passes the check of its option. -/
theorem check_fallback : ∀ o ∈ command.options, ∀ text ∈ o.fallback, o.check text = none := by
  decide

/-- The option of a name. -/
def option (name : String) (h : (command.named? name).isSome) : Setting :=
  (command.named? name).get h

theorem option_mem (name : String) (h : (command.named? name).isSome) :
    option name h ∈ command.options :=
  List.mem_of_find?_eq_some (Option.some_get h).symm

/-- The text that counts for the option of a name. -/
def textOf (env : String → Option String) (xs : List Choice) (name : String) : Option String :=
  (command.named? name).bind fun o => o.textFrom env xs

/-- Each field has what is read from the text of the option of its name. -/
structure ReadFrom (text : String → Option String) (c : Config) : Prop where
  format : ∃ s, text "format" = some s ∧ Reader.text s = .ok c.format
  useCase : ∃ s, text "use-case" = some s ∧ Reader.useCase s = .ok c.useCase
  queryType : ∃ s, text "query-type" = some s ∧ Reader.text s = .ok c.queryType
  scale : ∃ s, text "scale" = some s ∧ Reader.unsigned s = .ok c.scale
  seed : ∃ s, text "seed" = some s ∧ Reader.signed s = .ok c.seed
  timestampStart : ∃ s, text "timestamp-start" = some s ∧ Reader.timestamp s = .ok c.timestampStart
  timestampEnd : ∃ s, text "timestamp-end" = some s ∧ Reader.timestamp s = .ok c.timestampEnd
  queries : ∃ s, text "queries" = some s ∧ Reader.unsigned s = .ok c.queries
  file : (text "file" = none ∧ c.file = none) ∨
    ∃ s p, text "file" = some s ∧ Reader.path s = .ok p ∧ c.file = some p

/-- The texts that pass the check of a reader are those that it reads. -/
theorem check_eq_none_iff {α : Type} {reader : Reader α} {s : String} :
    reader.check s = none ↔ ∃ a, reader s = .ok a := by
  rw [Reader.check]
  split
  · next a ha => exact ⟨fun _ => ⟨a, ha⟩, fun _ => rfl⟩
  · next e he => exact ⟨nofun, fun ⟨a, ha⟩ => by rw [he] at ha; cases ha⟩

/-- The text of a name is found in what was read. -/
theorem text?_eq_textOf {r : Reading} {o : Setting} {name : String}
    (htext : ∀ o ∈ command.options, r.text? o.name = o.textFrom env xs)
    (ho : command.named? name = some o) : r.text? name = textOf env xs name := by
  have hname : o.name = name := by simpa using List.find?_some ho
  rw [textOf, ho, ← hname]
  exact htext o (List.mem_of_find?_eq_some ho)

/-- An option on the command line has the text that it is given there. -/
theorem textOf_of_mem {x : Choice} (h : command.Satisfied env xs) (hx : x ∈ xs) :
    textOf env xs x.setting.name = some x.text := by
  rw [textOf, flat_command.named? (h.accepted x hx).mem]
  exact h.textFrom_of_mem hx

/-- A text that counts is read by the reader of its option. -/
theorem exists_of_textOf {α : Type} {reader : Reader α} {o : Setting} {name s : String}
    (h : command.Satisfied env xs) (ho : command.named? name = some o)
    (hreader : o.check = reader.check) (hs : textOf env xs name = some s) :
    ∃ a, reader s = .ok a := by
  have hmem := List.mem_of_find?_eq_some ho
  rw [textOf, ho, Option.bind_some] at hs
  have hcheck := flat_command.check_textFrom h hmem (check_fallback o hmem) s hs
  rw [hreader] at hcheck
  exact check_eq_none_iff.1 hcheck

/-- An option that is required or has a fallback is read. -/
theorem get_of_named {α : Type} {r : Reading} {o : Setting} (reader : Reader α) (name : String)
    (h : command.Satisfied env xs)
    (htext : ∀ o ∈ command.options, r.text? o.name = o.textFrom env xs)
    (ho : command.named? name = some o) (hreader : o.check = reader.check)
    (hgiven : o.required = true ∨ o.fallback.isSome = true) :
    ∃ a, r.get name reader = .ok a ∧ ∃ s, textOf env xs name = some s ∧ reader s = .ok a := by
  obtain ⟨s, hs⟩ : ∃ s, textOf env xs name = some s := by
    rw [← Option.isSome_iff_exists, textOf, ho, Option.bind_some]
    rcases hgiven with hrequired | hfallback
    · exact h.required o (List.mem_of_find?_eq_some ho) hrequired
    · rw [Setting.textFrom, Option.isSome_or, Option.isSome_or, hfallback, Bool.or_true,
        Bool.or_true]
  obtain ⟨a, ha⟩ := exists_of_textOf h ho hreader hs
  refine ⟨a, ?_, s, hs, ha⟩
  rw [Reading.get, text?_eq_textOf htext ho, hs]
  exact ha

/-- An option that may be left out is read if it has a text. -/
theorem get?_of_named {α : Type} {r : Reading} {o : Setting} (reader : Reader α) (name : String)
    (h : command.Satisfied env xs)
    (htext : ∀ o ∈ command.options, r.text? o.name = o.textFrom env xs)
    (ho : command.named? name = some o) (hreader : o.check = reader.check) :
    ∃ a, r.get? name reader = .ok a ∧ ((textOf env xs name = none ∧ a = none) ∨
      ∃ s b, textOf env xs name = some s ∧ reader s = .ok b ∧ a = some b) := by
  rw [Reading.get?, text?_eq_textOf htext ho]
  cases hs : textOf env xs name with
  | none => exact ⟨none, rfl, .inl ⟨rfl, rfl⟩⟩
  | some s =>
    obtain ⟨b, hb⟩ := exists_of_textOf h ho hreader hs
    refine ⟨some b, ?_, .inr ⟨s, b, rfl, hb, rfl⟩⟩
    change some <$> reader s = _
    rw [hb]
    rfl

/-- **A command line that satisfies the options is read**, each field from the text that counts for the
option of its name. -/
theorem parse_choices (h : command.Satisfied env xs) :
    ∃ c, parse env (xs.flatMap Choice.arguments) = .ok c ∧ c.ReadFrom (textOf env xs) := by
  obtain ⟨r, hread, htext⟩ := flat_command.read_choices h
  obtain ⟨format, hformat, hformat'⟩ :=
    get_of_named .text "format" h htext rfl rfl (.inr rfl)
  obtain ⟨useCase, huseCase, huseCase'⟩ :=
    get_of_named .useCase "use-case" h htext rfl rfl (.inr rfl)
  obtain ⟨queryType, hqueryType, hqueryType'⟩ :=
    get_of_named .text "query-type" h htext rfl rfl (.inl rfl)
  obtain ⟨scale, hscale, hscale'⟩ :=
    get_of_named .unsigned "scale" h htext rfl rfl (.inr rfl)
  obtain ⟨seed, hseed, hseed'⟩ :=
    get_of_named .signed "seed" h htext rfl rfl (.inr rfl)
  obtain ⟨start, hstart, hstart'⟩ :=
    get_of_named .timestamp "timestamp-start" h htext rfl rfl (.inr rfl)
  obtain ⟨stop, hstop, hstop'⟩ :=
    get_of_named .timestamp "timestamp-end" h htext rfl rfl (.inr rfl)
  obtain ⟨queries, hqueries, hqueries'⟩ :=
    get_of_named .unsigned "queries" h htext rfl rfl (.inr rfl)
  obtain ⟨file, hfile, hfile'⟩ := get?_of_named .path "file" h htext rfl rfl
  refine ⟨⟨format, useCase, queryType, scale, seed, start, stop, queries, file⟩, ?_,
    ⟨hformat', huseCase', hqueryType', hscale', hseed', hstart', hstop', hqueries', hfile'⟩⟩
  rw [parse, hread]
  change ofReading r = _
  rw [ofReading, hformat, huseCase, hqueryType, hscale, hseed, hstart, hstop, hqueries, hfile]
  rfl

end FluxCorpus.Config
