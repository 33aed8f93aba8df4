import FluxCorpus.CommandLine.Scan
import FluxCorpus.Proofs.Text.Reading
import Mathlib.Data.List.Nodup
import Mathlib.Data.List.TakeWhile

/-!
# Options are read one by one

A command that has nothing but options reads them in any order, and in either spelling.  For each
option the text on the command line counts, else that of its variable, else its fallback.

* `Choice` — an option with a text, spelled in one of two ways; `Choice.arguments`.
* `Scan.Settles` — a scan between two options; `Command.Flat.scan_choice` — the step that one option
  makes, and `Command.Flat.scan_choices` — from it, what a whole line does.
* `Setting.textFrom` — the text that counts for an option.
* `Command.Satisfied` — the command line and the environment give what the command needs.
* `Command.Flat.read_choices` — **then they are read, and each option has the text that counts**;
  `Command.Flat.check_textFrom` — which passes its check.
-/

namespace FluxCorpus.CommandLine

/-- Where no two things have the same name, a thing is found by its name. -/
theorem find?_of_nodup {α β : Type} [DecidableEq β] {name : α → β} {l : List α}
    (hnodup : (l.map name).Nodup) {a : α} (ha : a ∈ l) :
    (l.find? fun b => name b = name a) = some a := by
  cases hfind : l.find? fun b => name b = name a with
  | none => simpa using List.find?_eq_none.1 hfind a ha
  | some b =>
    have hname : name b = name a := by simpa using List.find?_some hfind
    rw [List.inj_on_of_nodup_map hnodup (List.mem_of_find?_eq_some hfind) ha hname]

/-- An option that is given with a text, which is an argument of its own or attached to the name. -/
structure Choice where
  setting : Setting
  text : String
  attached : Bool

namespace Choice

/-- What is recorded of an option. -/
def given (x : Choice) : Given := ⟨x.setting.name, .argument, [x.text]⟩

/-- The arguments that give an option: `--name text` or `--name=text`. -/
def arguments (x : Choice) : List String :=
  if x.attached then ["--" ++ x.setting.name ++ "=" ++ x.text]
  else ["--" ++ x.setting.name, x.text]

/-- An option of a command, with a text that passes its check and does not look like an option. -/
structure Accepted (c : Command) (x : Choice) : Prop where
  mem : x.setting ∈ c.options
  kind : x.setting.kind = .value
  check : x.setting.check x.text = none
  plain : ∀ cs, x.text.toList ≠ '-' :: cs

end Choice

/-- The text that counts for an option: that on the command line, else that of its variable, else
its fallback. -/
def Setting.textFrom (env : String → Option String) (xs : List Choice) (o : Setting) :
    Option String :=
  ((xs.find? fun x => x.setting.name = o.name).map Choice.text).or
    ((o.envName.bind env).or o.fallback)

/-- A command that has nothing but options, each with a name of its own. -/
structure Command.Flat (c : Command) : Prop where
  subcommands : c.subcommands = []
  operands : c.operands = []
  subcommandRequired : c.subcommandRequired = false
  nodup : (c.options.map Setting.name).Nodup
  names : ∀ o ∈ c.options, o.name.toList ≠ [] ∧ '=' ∉ o.name.toList

/-- Each option on the command line is accepted and stands there once, the variables of the others
have texts that pass their checks, and what is required has a text. -/
structure Command.Satisfied (c : Command) (env : String → Option String) (xs : List Choice) :
    Prop where
  accepted : ∀ x ∈ xs, x.Accepted c
  nodup : (xs.map fun x => x.setting.name).Nodup
  environment : ∀ o ∈ c.options, (∀ x ∈ xs, x.setting.name ≠ o.name) →
    ∀ text ∈ o.envName.bind env, o.check text = none
  required : ∀ o ∈ c.options, o.required → (o.textFrom env xs).isSome

/-- A scan that goes on to read options, and has settled on what was given so far. -/
def Scan.Settles (s : Scan) (given : List Given) : Prop :=
  s.literal = false ∧ ∃ operands, s.resolve = .ok { given := given, operands := operands }

theorem Scan.settles_start : Scan.start.Settles [] := ⟨rfl, 0, rfl⟩

namespace Command

variable {env : String → Option String} {c : Command} {o : Setting} {s : Scan} {x : Choice}
  {xs : List Choice} {rest : List String} {given : List Given} {os : List Setting}

/-! ## One option -/

theorem splitLong_of_not_mem {name : List Char} (h : '=' ∉ name) :
    splitLong name = (name, none) := by
  have hnil : name.dropWhile (· ≠ '=') = [] := by
    rw [List.dropWhile_eq_nil_iff]
    intro d hd
    rw [decide_eq_true_iff]
    rintro rfl
    exact h hd
  rw [splitLong, hnil]

theorem splitLong_append {name : List Char} (h : '=' ∉ name) (text : List Char) :
    splitLong (name ++ '=' :: text) = (name, some (String.ofList text)) := by
  obtain ⟨htake, hdrop⟩ := Text.takeWhile_dropWhile_append (p := (· ≠ '=')) (a := name)
    (b := '=' :: text) (by
      intro d hd
      rw [decide_eq_true_iff]
      rintro rfl
      exact h hd) (by simp)
  rw [splitLong, hdrop]
  exact congrArg (·, _) htake

/-- A name finds its option. -/
theorem Flat.named? (hc : c.Flat) (ho : o ∈ c.options) : c.named? o.name = some o :=
  find?_of_nodup hc.nodup ho

/-- A command without subcommands reads one argument after the other. -/
theorem Flat.scan_cons (hc : c.Flat) (a : String) :
    c.scan env s (a :: rest) = c.argument s a >>= fun s => c.scan env s rest := by
  have hsub : c.subcommand? a = none := by simp [subcommand?, hc.subcommands]
  rw [scan]
  simp [hc.subcommands, hsub]

/-- An argument that begins with the name of an option uses the option. -/
theorem Flat.argument_long (hc : c.Flat) (ho : o ∈ c.options) (hkind : o.kind = .value)
    (hliteral : s.literal = false) {a : String} (cs : List Char) {attached : Option String}
    (ha : a.toList = '-' :: '-' :: cs) (hcs : cs ≠ [])
    (hsplit : splitLong cs = (o.name.toList, attached)) :
    c.argument s a = s.useValue o attached := by
  obtain ⟨d, ds, rfl⟩ := List.exists_cons_of_ne_nil hcs
  rw [argument, hliteral, if_neg Bool.false_ne_true, ha]
  simp only [long, hsplit, String.ofList_toList, hc.named? ho, hkind, if_true]

/-- A text that does not look like an option is taken for the option before it. -/
theorem argument_text {text : String} (htext : ∀ cs, text.toList ≠ '-' :: cs)
    (hliteral : s.literal = false) (hpending : s.pending = .awaiting o) :
    c.argument s text = .ok { s with pending := .holding o text } := by
  rw [argument, hliteral, if_neg Bool.false_ne_true]
  split
  · next h => exact absurd h (htext _)
  · next h => exact absurd h (htext _)
  · next h => exact absurd h (htext _)
  · rw [plain, hpending, hliteral]
    rfl

/-- **One option is read**, and added to what was given so far. -/
theorem Flat.scan_choice (hc : c.Flat) (env : String → Option String) (rest : List String)
    (hs : s.Settles given) (hx : x.Accepted c)
    (hfresh : ∀ g ∈ given, g.name ≠ x.setting.name) :
    ∃ s' : Scan, s'.Settles (given ++ [x.given])
      ∧ c.scan env s (x.arguments ++ rest) = c.scan env s' rest := by
  obtain ⟨hliteral, operands, hresolve⟩ := hs
  obtain ⟨hne, heq⟩ := hc.names _ hx.mem
  have haccept : Scan.accept ⟨given, .nothing, operands, false⟩ x.setting x.text
      = .ok ⟨given ++ [x.given], .nothing, operands, false⟩ := by
    have hany : (given.any fun g => g.name = x.setting.name) = false := by simpa using hfresh
    rw [Scan.accept, hany, if_neg Bool.false_ne_true, hx.check]
    rfl
  rw [Choice.arguments]
  split
  · -- the text is attached, and settled at once
    have hlong : c.argument s ("--" ++ x.setting.name ++ "=" ++ x.text)
        = s.useValue x.setting (some x.text) := by
      refine hc.argument_long hx.mem hx.kind hliteral (x.setting.name.toList ++ '=' ::
        x.text.toList) ?_ (by simp) ?_
      · simp only [String.toList_append, List.append_assoc]
        rfl
      · rw [splitLong_append heq, String.ofList_toList]
    refine ⟨⟨given ++ [x.given], .nothing, operands, false⟩, ⟨rfl, operands, rfl⟩, ?_⟩
    rw [List.singleton_append, hc.scan_cons, hlong, Scan.useValue, hresolve]
    change (Scan.accept ⟨given, .nothing, operands, false⟩ x.setting x.text >>= _) = _
    rw [haccept]
    rfl
  · -- the text comes next, and is settled later
    have hlong : c.argument s ("--" ++ x.setting.name) = s.useValue x.setting none := by
      refine hc.argument_long hx.mem hx.kind hliteral x.setting.name.toList ?_ hne
        (splitLong_of_not_mem heq)
      rw [String.toList_append]
      rfl
    refine ⟨⟨given, .holding x.setting x.text, operands, false⟩, ⟨rfl, operands, haccept⟩, ?_⟩
    rw [List.cons_append, hc.scan_cons, hlong, Scan.useValue, hresolve]
    change c.scan env ⟨given, .awaiting x.setting, operands, false⟩ (x.text :: rest) = _
    rw [hc.scan_cons, argument_text hx.plain rfl rfl]
    rfl

/-- **Options are read one after the other**, and each of them is given with its text. -/
theorem Flat.scan_choices (hc : c.Flat) (env : String → Option String) (hs : s.Settles given)
    (hxs : ∀ x ∈ xs, x.Accepted c)
    (hfresh : ∀ g ∈ given, ∀ x ∈ xs, g.name ≠ x.setting.name)
    (hnodup : (xs.map fun x => x.setting.name).Nodup) :
    ∃ s' : Scan, s'.Settles (given ++ xs.map Choice.given)
      ∧ c.scan env s (xs.flatMap Choice.arguments) = c.scan env s' [] := by
  induction xs generalizing s given with
  | nil => exact ⟨s, by simpa using hs, rfl⟩
  | cons x xs ih =>
    rw [List.map_cons, List.nodup_cons] at hnodup
    rw [List.forall_mem_cons] at hxs
    obtain ⟨s₁, hs₁, hscan⟩ := hc.scan_choice env (xs.flatMap Choice.arguments) hs
      hxs.1 fun g hg => hfresh g hg x List.mem_cons_self
    have hfresh₁ : ∀ g ∈ given ++ [x.given], ∀ y ∈ xs, g.name ≠ y.setting.name := by
      intro g hg y hy heq
      rcases List.mem_append.1 hg with hg | hg
      · exact hfresh g hg y (List.mem_cons_of_mem _ hy) heq
      · rw [List.mem_singleton] at hg
        subst hg
        exact hnodup.1 (List.mem_map.2 ⟨y, hy, heq.symm⟩)
    obtain ⟨s', hs', hrest⟩ := ih hs₁ hxs.2 hfresh₁ hnodup.2
    refine ⟨s', by simpa using hs', ?_⟩
    rw [List.flatMap_cons, hscan, hrest]

/-! ## The environment and the fallbacks -/

/-- What a second source gives for the options that are not given. -/
def supplied (origin : Origin) (text : Setting → Option String) (os : List Setting)
    (given : List Given) : List Given :=
  os.filterMap fun o =>
    if given.any fun g => g.name = o.name then none
    else (text o).map fun t => ⟨o.name, origin, [t]⟩

/-- What is given for one option does not matter for those of other names. -/
theorem supplied_append {origin : Origin} {text : Setting → Option String} {g : Given}
    (h : ∀ o ∈ os, g.name ≠ o.name) :
    supplied origin text os (given ++ [g]) = supplied origin text os given := by
  apply List.filterMap_congr
  intro o ho
  rw [List.any_append, List.any_cons, List.any_nil, decide_eq_false (h o ho), Bool.or_false,
    Bool.or_false]

/-- What each of some options with different names gives is found by the name of the option. -/
theorem find?_filterMap {f : Setting → Option Given} (hnodup : (os.map Setting.name).Nodup)
    (hf : ∀ o ∈ os, ∀ g ∈ f o, g.name = o.name) (ho : o ∈ os) :
    (os.filterMap f).find? (fun g => g.name = o.name) = f o := by
  rw [List.find?_filterMap]
  cases hfind : os.find? fun o' => (f o').any fun g => g.name = o.name with
  | none =>
    have hnone := List.find?_eq_none.1 hfind o ho
    cases hfo : f o with
    | none => rfl
    | some g => exact absurd (by simpa [hfo] using hf o ho g hfo) (by simpa [hfo] using hnone)
  | some o' =>
    have ho' := List.mem_of_find?_eq_some hfind
    obtain ⟨g, hg, hname⟩ : ∃ g, f o' = some g ∧ g.name = o.name := by
      simpa [Option.any_eq_true] using List.find?_some hfind
    have heq : o' = o := List.inj_on_of_nodup_map hnodup ho' ho ((hf o' ho' g hg).symm.trans hname)
    rw [heq]
    rfl

/-- A second source counts where the first one gives nothing. -/
theorem find?_supplied (origin : Origin) (text : Setting → Option String)
    (hnodup : (os.map Setting.name).Nodup) (ho : o ∈ os) :
    (given ++ supplied origin text os given).find? (fun g => g.name = o.name)
      = (given.find? fun g => g.name = o.name).or
        ((text o).map fun t => ⟨o.name, origin, [t]⟩) := by
  rw [List.find?_append, supplied, find?_filterMap hnodup ?_ ho, ← List.isSome_find?]
  · cases given.find? fun g => g.name = o.name <;> rfl
  · intro o' ho' g hg
    rw [Option.mem_def, Option.ite_none_left_eq_some, Option.map_eq_some_iff] at hg
    obtain ⟨-, t, -, rfl⟩ := hg
    rfl

/-- The environment is such a source, as long as its texts pass the checks. -/
theorem addEnvironment_eq (hnodup : (os.map Setting.name).Nodup)
    (h : ∀ o ∈ os, (∀ g ∈ given, g.name ≠ o.name) →
      ∀ text ∈ o.envName.bind env, o.check text = none) :
    addEnvironment env os given
      = .ok (given ++ supplied .environment (fun o => o.envName.bind env) os given) := by
  induction os generalizing given with
  | nil => exact congrArg Except.ok (List.append_nil given).symm
  | cons o os ih =>
    rw [List.map_cons, List.nodup_cons] at hnodup
    rw [List.forall_mem_cons] at h
    rw [addEnvironment]
    split
    · next hany =>
      rw [ih hnodup.2 h.2, supplied, supplied, List.filterMap_cons_none]
      exact if_pos hany
    · next hany =>
      have hnew : ∀ g ∈ given, g.name ≠ o.name := by simpa using hany
      split
      · next htext =>
        rw [ih hnodup.2 h.2, supplied, supplied, List.filterMap_cons_none]
        rw [if_neg hany, htext]
        rfl
      · next text htext =>
        have hother : ∀ o' ∈ os, o.name ≠ o'.name :=
          fun o' ho' heq => hnodup.1 (List.mem_map.2 ⟨o', ho', heq.symm⟩)
        have hcons : supplied .environment (fun o => o.envName.bind env) (o :: os) given
            = ⟨o.name, .environment, [text]⟩
              :: supplied .environment (fun o => o.envName.bind env) os given := by
          rw [supplied, supplied, List.filterMap_cons_some]
          rw [if_neg hany, htext]
          rfl
        rw [h.1 hnew text htext, hcons]
        simp only []
        rw [ih hnodup.2 fun o' ho' hfree => h.2 o' ho' fun g hg =>
            hfree g (List.mem_append_left _ hg),
          supplied_append (g := ⟨o.name, .environment, [text]⟩) hother, List.append_assoc]
        rfl

/-- What is given on the command line or else by the environment. -/
def chosen (env : String → Option String) (c : Command) (xs : List Choice) : List Given :=
  xs.map Choice.given
    ++ supplied .environment (fun o => o.envName.bind env) c.options (xs.map Choice.given)

/-- All that is given to a command in the end. -/
def completed (env : String → Option String) (c : Command) (xs : List Choice) : List Given :=
  chosen env c xs ++ fallbacks c.options (chosen env c xs)

/-- **Each option ends up with the text that counts for it.** -/
theorem Flat.find?_completed (hc : c.Flat) (xs : List Choice) (ho : o ∈ c.options) :
    ((completed env c xs).find? fun g => g.name = o.name).bind (·.texts.head?)
      = o.textFrom env xs := by
  have hgiven : (xs.map Choice.given).find? (fun g => g.name = o.name)
      = (xs.find? fun x => x.setting.name = o.name).map Choice.given := by
    rw [List.find?_map]
    rfl
  have hfallback : fallbacks c.options (chosen env c xs)
      = supplied .fallback Setting.fallback c.options (chosen env c xs) := rfl
  rw [completed, hfallback, find?_supplied _ _ hc.nodup ho, chosen, find?_supplied _ _ hc.nodup ho,
    hgiven, Setting.textFrom]
  cases xs.find? fun x => x.setting.name = o.name with
  | some x => rfl
  | none =>
    cases o.envName.bind env with
    | some text => rfl
    | none => cases o.fallback <;> rfl

/-! ## The whole command line -/

/-- **A command line that satisfies a command is read**, and each option has the text that counts for
it. -/
theorem Flat.read_choices (hc : c.Flat) (h : c.Satisfied env xs) :
    ∃ r, c.read env (xs.flatMap Choice.arguments) = .ok r
      ∧ ∀ o ∈ c.options, r.text? o.name = o.textFrom env xs := by
  obtain ⟨s, ⟨-, operands, hresolve⟩, hscan⟩ :=
    hc.scan_choices env Scan.settles_start h.accepted nofun h.nodup
  rw [List.nil_append] at hresolve
  have henvironment : addEnvironment env c.options (xs.map Choice.given)
      = .ok (chosen env c xs) := by
    refine addEnvironment_eq hc.nodup fun o ho hfree => h.environment o ho fun x hx => ?_
    exact hfree x.given (List.mem_map_of_mem hx)
  have hrequired : (c.options.any fun o => o.required &&
      !(completed env c xs).any fun g => g.name = o.name) = false := by
    rw [List.any_eq_false]
    intro o ho
    cases hneeded : o.required with
    | false => simp
    | true =>
      have htext := h.required o ho hneeded
      rw [← hc.find?_completed xs ho] at htext
      rw [← List.isSome_find?, Option.isSome_of_isSome_bind htext]
      decide
  have hcomplete : c.complete env false s = .ok (completed env c xs) := by
    rw [complete, hresolve, hc.operands, List.append_nil, hc.subcommandRequired]
    simp only [bind, Except.bind, henvironment]
    change (if (c.options.any fun o => o.required &&
      !(completed env c xs).any fun g => g.name = o.name) = true then _ else _) = _
    rw [hrequired]
    rfl
  refine ⟨⟨[], [completed env c xs]⟩, ?_, fun o ho => ?_⟩
  · rw [read, hscan, scan, hcomplete]
    rfl
  · rw [← hc.find?_completed xs ho]
    rfl

/-- The text that counts for an option passes its check, if the fallback does. -/
theorem Flat.check_textFrom (hc : c.Flat) (h : c.Satisfied env xs) (ho : o ∈ c.options)
    (hfallback : ∀ text ∈ o.fallback, o.check text = none) :
    ∀ text ∈ o.textFrom env xs, o.check text = none := by
  intro text htext
  rw [Setting.textFrom] at htext
  cases hfind : xs.find? fun x => x.setting.name = o.name with
  | some x =>
    have hx := h.accepted x (List.mem_of_find?_eq_some hfind)
    have hname : x.setting.name = o.name := by simpa using List.find?_some hfind
    have hsetting : x.setting = o := List.inj_on_of_nodup_map hc.nodup hx.mem ho hname
    rw [hfind] at htext
    cases htext
    exact hsetting ▸ hx.check
  | none =>
    have hfree : ∀ x ∈ xs, x.setting.name ≠ o.name := by simpa using hfind
    rw [hfind] at htext
    cases henv : o.envName.bind env with
    | some text' =>
      rw [henv] at htext
      cases htext
      exact h.environment o ho hfree text henv
    | none =>
      rw [henv] at htext
      exact hfallback text htext

/-- An option on the command line has the text that it is given there. -/
theorem Satisfied.textFrom_of_mem (h : c.Satisfied env xs) (hx : x ∈ xs) :
    x.setting.textFrom env xs = some x.text := by
  rw [Setting.textFrom, find?_of_nodup h.nodup hx]
  rfl

end Command

end FluxCorpus.CommandLine
