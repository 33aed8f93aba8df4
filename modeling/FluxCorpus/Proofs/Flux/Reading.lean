import FluxCorpus.Flux.Predicate
import FluxCorpus.Flux.Script
import FluxCorpus.Proofs.Random.Subset
import FluxCorpus.Proofs.Text.Reading
import FluxCorpus.Proofs.Time.Timestamp
import FluxCorpus.Workload.Metric
import Mathlib.Data.List.Forall2

/-!
# Reading a script

What a reader finds in the text of a script who only knows what a range and a term look like.

* `ranges` — the arguments of every range.
* `terms` — the values with which a column is compared, in the order of the text.
* `finds_paragraphs` — a script is read line by line; `finds_line` — with one line for a reader.
* `ranges_rangeOf` — the line for a range has the bounds of its interval.
* `terms_oneOf` — the terms of a predicate are its values.
-/

namespace FluxCorpus.Flux

open Text (behind upTo? Clear Finds)

/-! ## The readers -/

/-- What introduces the arguments of a range. -/
def rangeMarker : List Char := ['r', 'a', 'n', 'g', 'e', '(']

/-- The arguments of a range between two times, written out. -/
def writtenRange (startText stopText : String) : String :=
  "start: " ++ startText ++ ", stop: " ++ stopText

/-- The arguments of a range that begins with the first record, written out. -/
def writtenEnd (stopText : String) : String := "start: 0, stop: " ++ stopText

/-- The arguments of every range in a text, if they are closed. -/
def ranges (cs : List Char) : List (Option String) :=
  (behind rangeMarker cs).map fun rest => (upTo? ')' rest).map String.ofList

/-- What introduces a term about a column. -/
def columnMarker (column : String) : List Char := 'r' :: '.' :: column.toList

/-- The value behind a column, if the column is compared with a text in single quotes. -/
def compared? : List Char → Option String
  | ' ' :: '=' :: '=' :: ' ' :: '\'' :: rest => (upTo? '\'' rest).map String.ofList
  | _ => none

/-- The values with which a column is compared, from left to right. -/
def terms (column : String) (cs : List Char) : List (Option String) :=
  (behind (columnMarker column) cs).map compared?

variable {m : List Char} {column : String}

theorem finds_ranges {s : String} (h : Clear rangeMarker s) : Finds ranges s [] := h.finds _

theorem finds_terms {s : String} (h : Clear (columnMarker column) s) : Finds (terms column) s [] :=
  h.finds _

/-! ## Lines -/

/-- A line that holds no term about any column. -/
theorem clear_line {cs : List Char}
    (h : (cs.tails.all fun t =>
      t.isEmpty || !(['r', '.'].isPrefixOf t || t.isPrefixOf ['r', '.'])) = true) :
    Clear (columnMarker column) (String.ofList cs) :=
  Text.clear_lit_of_prefix (m := ['r', '.']) h column.toList

/-- A script is read line by line. -/
theorem finds_paragraphs {β : Type} {f : List Char → List β} (hbreak : Finds f "\n\t" [])
    {ls : List String} {outs : List (List β)} (h : List.Forall₂ (Finds f) ls outs) :
    Finds f (paragraphs [ls]) outs.flatten := by
  rw [paragraphs]
  induction h with
  | nil =>
    intro rest
    rfl
  | cons hl _ ih => exact (hbreak.append hl).append ih

/-- A script with one line for a reader has what this line has. -/
theorem finds_line {β : Type} {f : List Char → List β} (before : List String) {line : String}
    (after : List String) {out : List β} (hbreak : Finds f "\n\t" [])
    (hbefore : ∀ l ∈ before, Finds f l []) (hline : Finds f line out)
    (hafter : ∀ l ∈ after, Finds f l []) :
    Finds f (paragraphs [before ++ line :: after]) out := by
  have hnone : ∀ ls : List String, (∀ l ∈ ls, Finds f l []) →
      List.Forall₂ (Finds f) ls (ls.map fun _ => []) := by
    intro ls h
    rw [List.forall₂_map_right_iff]
    exact List.forall₂_same.2 h
  have h := finds_paragraphs hbreak
    (List.rel_append (hnone before hbefore) (.cons hline (hnone after hafter)))
  have hout : ((before.map fun _ => []) ++ out :: after.map fun _ => []).flatten = out := by simp
  rwa [hout] at h

theorem clear_filter {condition : String} (h : Clear m condition)
    (hstart : Clear m "|> filter(fn: (r) => ") (hclose : Clear m ")") :
    Clear m (filter condition) :=
  (hstart.append h).append hclose

/-! ## Ranges -/

/-- The arguments of a range are read up to the parenthesis. -/
theorem ranges_range {arguments : String} (hclose : ')' ∉ arguments.toList)
    (hclear : Clear rangeMarker arguments) : Finds ranges (range arguments) [some arguments] := by
  intro rest
  have hhead : ("|> range(" : String).toList = ("|> " : String).toList ++ rangeMarker := by decide
  have hstart : Clear rangeMarker "|> " := Text.clear_lit (by decide)
  have hend : Clear rangeMarker ")" := Text.clear_lit (by decide)
  have hfirst : 'r' ∉ ['a', 'n', 'g', 'e', '('] := by decide
  have hbehind : behind rangeMarker ((range arguments).toList ++ rest)
      = (arguments.toList ++ ')' :: rest) :: behind rangeMarker rest := by
    rw [range, String.toList_append, String.toList_append, hhead, List.append_assoc,
      List.append_assoc, List.append_assoc, hstart, rangeMarker, Text.behind_marker hfirst]
    refine congrArg _ ?_
    rw [← rangeMarker, hclear, hend]
  rw [ranges, hbehind, List.map_cons, Text.upTo?_append hclose, Option.map_some,
    String.ofList_toList, ← ranges]
  rfl

/-- The characters at which a reader stops are not in a timestamp. -/
theorem not_mem_timestamp {c : Char} (hdigit : c.isDigit = false)
    (hmark : c ∉ ['-', '+', ':', 'T', 'Z']) (nanos : Int) : c ∉ (timestamp nanos).toList := by
  intro h
  obtain h | h := mem_timestamp h
  · rw [hdigit] at h
    cases h
  · exact hmark h

theorem clear_timestamp (xs : List Char) (nanos : Int) : Clear ('r' :: xs) (timestamp nanos) :=
  Text.clear_of_head_not_mem (not_mem_timestamp (by decide) (by decide) nanos)

/-- The bounds of an interval are read back. -/
theorem ranges_rangeOf (i : Interval) :
    Finds ranges (rangeOf i) [some (writtenRange i.startText i.stopText)] := by
  have hstart : Clear rangeMarker "start: " := Text.clear_lit (by decide)
  have hstop : Clear rangeMarker ", stop: " := Text.clear_lit (by decide)
  apply ranges_range
  · have hlabel : ')' ∉ ("start: " : String).toList := by decide
    have hlabel' : ')' ∉ (", stop: " : String).toList := by decide
    have htime := not_mem_timestamp (c := ')') (by decide) (by decide)
    simp only [boundsOf, Interval.startText, Interval.stopText, String.toList_append,
      List.mem_append, hlabel, hlabel', htime, or_self, not_false_eq_true]
  · exact ((hstart.append (clear_timestamp _ _)).append hstop).append (clear_timestamp _ _)

/-- The bound of a range that only ends is read back. -/
theorem ranges_rangeBefore (nanos : Int) :
    Finds ranges (rangeBefore (timestamp nanos)) [some (writtenEnd (timestamp nanos))] := by
  have hlit : Clear rangeMarker "start: 0, stop: " := Text.clear_lit (by decide)
  apply ranges_range
  · have hlabel : ')' ∉ ("start: 0, stop: " : String).toList := by decide
    have htime := not_mem_timestamp (c := ')') (by decide) (by decide)
    show ')' ∉ ("start: 0, stop: " ++ timestamp nanos).toList
    rw [String.toList_append, List.mem_append, not_or]
    exact ⟨hlabel, htime nanos⟩
  · exact hlit.append (clear_timestamp _ _)

/-! ## Predicates that do not get in the way -/

/-- A value without the characters at which a reader stops. -/
def Plain (s : String) : Prop := ∀ c ∈ s.toList, c ∉ ['.', '(', ')', '\'']

instance (s : String) : Decidable (Plain s) := List.decidableBAll _ s.toList

theorem plain_cpuMetrics : ∀ f ∈ cpuMetrics, Plain f := by decide

theorem plain_fleets : ∀ f ∈ fleets, Plain f := by decide

/-- A character that is not a digit is not in a numeral. -/
theorem not_mem_text {c : Char} (hc : c.isDigit = false) (n : Nat) :
    c ∉ (Text.Decimal.text n).toList := by
  rw [Text.Decimal.text, String.toList_ofList]
  intro h
  have hdigit := List.all_eq_true.1 (Text.Decimal.all_isDigit_digits n) c h
  rw [hc] at hdigit
  cases hdigit

theorem clear_text (xs : List Char) (n : Nat) : Clear ('r' :: xs) (Text.Decimal.text n) :=
  Text.clear_of_head_not_mem (not_mem_text (by decide) n)

theorem plain_member (kind : TagKind) (i : Nat) : Plain (kind.member i) := by
  intro c hc hmark
  rw [TagKind.member, String.toList_append, List.mem_append] at hc
  obtain hc | hc := hc
  · have hnoun : Plain (kind.noun ++ "_") := by cases kind <;> decide
    exact hnoun c hc hmark
  · have hmarks : (['.', '(', ')', '\''].all fun c => !c.isDigit) = true := by decide
    have hdigit : c.isDigit = false := by simpa using List.all_eq_true.1 hmarks c hmark
    exact not_mem_text hdigit i hc

theorem plain_of_tags {kind : TagKind} {n scale : Nat} {s s' : Lagged} {names : List String}
    (h : (Draw.tags kind n scale).outcome s = some (.ok names, s')) : ∀ v ∈ names, Plain v := by
  obtain ⟨-, -, l, -, rfl⟩ := Draw.outcome_tags_ok.1 h
  intro v hv
  obtain ⟨i, -, rfl⟩ := List.mem_map.1 hv
  exact plain_member kind i

/-- Behind a plain value and its quote no occurrence of a marker begins, if the marker has a
character that the value lacks. -/
theorem Plain.clear {v q : String} {c : Char} (h : Plain v) (hm : '.' ∈ m ∨ '(' ∈ m)
    (hq : q.toList = [c]) (hc : c ∉ m) : Clear m (v ++ q) := by
  obtain hdot | hparen := hm
  · exact Text.clear_concat hdot (fun hv => h '.' hv (by decide)) hq hc
  · exact Text.clear_concat hparen (fun hv => h '(' hv (by decide)) hq hc

/-- A marker that does not begin in what joins the terms of a predicate, and that has one of the
characters that plain values lack. -/
structure ClearJoints (m : List Char) : Prop where
  first : Clear m "("
  next : Clear m " or "
  last : Clear m ")"
  quote : '\'' ∉ m
  special : '.' ∈ m ∨ '(' ∈ m

theorem clearJoints_rangeMarker : ClearJoints rangeMarker where
  first := Text.clear_lit (by decide)
  next := Text.clear_lit (by decide)
  last := Text.clear_lit (by decide)
  quote := by decide
  special := by decide

/-- A column whose name does not get in the way of a reader. -/
def PlainColumn (column : String) : Prop := ∀ c ∈ column.toList, c ∉ ['r', '\'', ' ']

instance (column : String) : Decidable (PlainColumn column) := List.decidableBAll _ column.toList

theorem PlainColumn.clearJoints (h : PlainColumn column) : ClearJoints (columnMarker column) where
  first := Text.clear_of_head_not_mem (by decide)
  next := by
    refine Text.clear_concat (x := '.') (s := " or") (t := " ") (c := ' ')
      (List.mem_cons_of_mem _ List.mem_cons_self) (by decide) rfl ?_
    rw [columnMarker, List.mem_cons, List.mem_cons]
    rintro (hc | hc | hc)
    · cases hc
    · cases hc
    · exact h ' ' hc (by decide)
  last := Text.clear_of_head_not_mem (by decide)
  quote := by
    rw [columnMarker, List.mem_cons, List.mem_cons]
    rintro (hc | hc | hc)
    · cases hc
    · cases hc
    · exact h '\'' hc (by decide)
  special := .inl (List.mem_cons_of_mem _ List.mem_cons_self)

/-- A predicate about one column does not hide a term about another one. -/
theorem clear_oneOf {values : List String} (hjoints : ClearJoints m)
    (hname : Clear m ("r." ++ column ++ " == '")) (hvalues : ∀ v ∈ values, Plain v) :
    Clear m (oneOf column values) := by
  have hterm : ∀ v ∈ values, Clear m (term column v) := by
    intro v hv
    have hvalue := (hvalues v hv).clear (q := "'") (c := '\'') hjoints.special rfl hjoints.quote
    rw [term, String.append_assoc]
    exact hname.append hvalue
  refine (hjoints.first.append ?_).append hjoints.last
  clear hvalues
  induction values with
  | nil =>
    intro rest
    rfl
  | cons v vs ih =>
    rw [List.forall_mem_cons] at hterm
    cases vs with
    | nil => exact hterm.1
    | cons w ws => exact (hterm.1.append hjoints.next).append (ih hterm.2)

/-! ## Predicates that are read -/

/-- A term is read back. -/
theorem terms_term {value : String} (hcolumn : PlainColumn column) (hvalue : Plain value) :
    Finds (terms column) (term column value) [some value] := by
  intro rest
  have hjoints := hcolumn.clearJoints
  have hop : Clear (columnMarker column) " == '" := Text.clear_of_head_not_mem (by decide)
  have hend : Clear (columnMarker column) (value ++ "'") :=
    hvalue.clear (c := '\'') hjoints.special rfl hjoints.quote
  have hfirst : 'r' ∉ '.' :: column.toList := by
    rw [List.mem_cons]
    rintro (h | h)
    · cases h
    · exact hcolumn 'r' h (by decide)
  have hplain : '\'' ∉ value.toList := fun h => hvalue '\'' h (by decide)
  have hsplit : (term column value).toList ++ rest
      = columnMarker column ++ ((" == '" : String).toList ++ ((value ++ "'").toList ++ rest)) := by
    have hhead : ("r." : String).toList = ['r', '.'] := by decide
    simp only [term, columnMarker, String.toList_append, List.append_assoc, hhead,
      List.cons_append, List.nil_append]
  have hbehind : behind (columnMarker column) ((term column value).toList ++ rest)
      = (' ' :: '=' :: '=' :: ' ' :: '\'' :: (value.toList ++ '\'' :: rest))
        :: behind (columnMarker column) rest := by
    rw [hsplit, columnMarker, Text.behind_marker hfirst, ← columnMarker, hop, hend,
      String.toList_append, List.append_assoc]
    rfl
  rw [terms, hbehind, List.map_cons, compared?, Text.upTo?_append hplain, Option.map_some,
    String.ofList_toList, ← terms]
  rfl

/-- **The terms of a predicate are its values**, in order and with repetitions. -/
theorem terms_oneOf (hcolumn : PlainColumn column) {values : List String}
    (hvalues : ∀ v ∈ values, Plain v) :
    Finds (terms column) (oneOf column values) (values.map some) := by
  have hjoints := hcolumn.clearJoints
  have halternatives :
      Finds (terms column) (alternatives (values.map (term column))) (values.map some) := by
    induction values with
    | nil =>
      intro rest
      rfl
    | cons v vs ih =>
      rw [List.forall_mem_cons] at hvalues
      have hv := terms_term hcolumn hvalues.1
      cases vs with
      | nil => exact hv
      | cons w ws => exact (hv.append (finds_terms hjoints.next)).append (ih hvalues.2)
  have h := ((finds_terms hjoints.first).append halternatives).append (finds_terms hjoints.last)
  rwa [List.nil_append, List.append_nil] at h

end FluxCorpus.Flux
