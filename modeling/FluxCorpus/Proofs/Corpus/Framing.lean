import FluxCorpus.Corpus
import FluxCorpus.Proofs.Json.Reading
import FluxCorpus.Proofs.Json.Writer
import FluxCorpus.Proofs.Template.Verdict

/-!
# The lines of a corpus are its records

A corpus without failure is one line for each record that its generator has composed, in order, and
every line can be read back.  What a longer run writes starts with what a shorter one writes, and two
runs in a row compose the records of one run.

* `QueryType.Composes` — the records that a generator composes one after the other, each of them on
  an empty record; `composes_append` takes such a sequence apart and puts it together.
* `Corpus.extend_ok`, `Corpus.extendBy_ok`, `Corpus.compose_ok` — what one query adds to a corpus,
  what a run adds to it, and that a corpus without failure is nothing else.
* `Query.decodeObject_numberedJson`, `Corpus.Frames` — a line is read back, and so is a text of lines.
* `Corpus.framed_and_prefix_stable` — **lines, records, shorter runs and further runs.**
-/

namespace FluxCorpus

/-! ## Records in a row -/

namespace QueryType

/-- The generator `g` composes the records `qs`, one after the other and each on an empty record, and
`g'` is what is left of it. -/
inductive Composes (t : QueryType) : Generator → List Query → Generator → Prop
  | done (g : Generator) : Composes t g [] g
  | next {g g₁ g' : Generator} {q : Query} {qs : List Query} :
    t.compose.outcome ⟨g, .empty⟩ = some (.ok (), ⟨g₁, q⟩) → Composes t g₁ qs g' →
      Composes t g (q :: qs) g'

variable {t : QueryType} {g g' : Generator}

theorem composes_append {xs ys : List Query} :
    t.Composes g (xs ++ ys) g' ↔ ∃ g₁, t.Composes g xs g₁ ∧ t.Composes g₁ ys g' := by
  induction xs generalizing g with
  | nil =>
    constructor
    · intro h
      exact ⟨g, .done g, h⟩
    · rintro ⟨g₁, ⟨⟩, h⟩
      exact h
  | cons x xs ih =>
    constructor
    · rintro (_ | ⟨hx, hrest⟩)
      rcases ih.1 hrest with ⟨g₁, hxs, hys⟩
      exact ⟨g₁, .next hx hxs, hys⟩
    · rintro ⟨g₁, _ | ⟨hx, hxs⟩, hys⟩
      exact .next hx (ih.2 ⟨g₁, hxs, hys⟩)

end QueryType

/-! ## Lines and what is read from them -/

namespace Query

/-- The members of the line of a record, with their values. -/
def numberedMembers (q : Query) (id : Nat) : List (String × Json.Scalar) :=
  [("id", .whole id), ("humanLabel", .text q.humanLabel),
    ("humanDescription", .text q.humanDescription), ("method", .text q.method),
    ("path", .text q.path), ("rawQuery", .text q.rawQuery), ("body", .text q.body)]

/-- **A line is read back**, whatever is in the record. -/
theorem decodeObject_numberedJson (q : Query) (id : Nat) :
    Json.decodeObject (q.numberedJson id) = .ok (q.numberedMembers id) :=
  Json.decodeObject_object (q.numberedMembers id)

end Query

namespace Corpus

/-- The lines of records that are numbered from `number` on. -/
def numbered (number : Nat) : List Query → List String
  | [] => []
  | q :: qs => q.numberedJson number :: numbered (number + 1) qs

section Numbered

variable {number : Nat} {xs ys qs : List Query}

theorem length_numbered : (numbered number qs).length = qs.length := by
  induction qs generalizing number with
  | nil => rfl
  | cons q qs ih => simp [numbered, ih]

theorem numbered_append :
    numbered number (xs ++ ys) = numbered number xs ++ numbered (number + xs.length) ys := by
  induction xs generalizing number with
  | nil => rfl
  | cons x xs ih =>
    have hnumber : number + 1 + xs.length = number + (x :: xs).length := by
      rw [List.length_cons]
      omega
    rw [List.cons_append, numbered, numbered, ih, hnumber, List.cons_append]

theorem getElem?_numbered (k : Nat) :
    (numbered number qs)[k]? = (qs[k]?).map fun q => q.numberedJson (number + k) := by
  induction qs generalizing number k with
  | nil => rfl
  | cons q qs ih =>
    cases k with
    | zero => rfl
    | succ k =>
      rw [numbered, List.getElem?_cons_succ, List.getElem?_cons_succ, ih, Nat.add_right_comm,
        Nat.add_assoc]

theorem newline_not_mem_of_mem_numbered {l : String} (h : l ∈ numbered number qs) :
    '\n' ∉ l.toList := by
  induction qs generalizing number with
  | nil => cases h
  | cons q qs ih =>
    rcases List.mem_cons.1 h with rfl | h
    · exact q.newline_not_mem_numberedJson number
    · exact ih h

end Numbered

/-- A text is one line for each record, in order and numbered from 1.  No line has a line break in
it, also not as a byte, and every line is read as the members of its record. -/
def Frames (text : String) (qs : List Query) : Prop :=
  ∃ ls : List String, text = String.join (ls.map fun l => l ++ "\n") ∧ ls.length = qs.length
    ∧ (∀ l ∈ ls, (10 : UInt8) ∉ Text.Utf8.encode l.toList)
    ∧ ∀ (k : Nat) (q : Query), qs[k]? = some q → ∃ l, ls[k]? = some l
      ∧ Json.decodeObject l = .ok (q.numberedMembers (k + 1))

/-! ## Runs -/

/-- The corpus of records that a generator has composed before it became `g`. -/
def ofRecords (qs : List Query) (g : Generator) : Corpus := ⟨(numbered 1 qs).reverse, g, none⟩

theorem text_ofRecords (qs : List Query) (g : Generator) :
    (ofRecords qs g).text = String.join ((numbered 1 qs).map fun l => l ++ "\n") := by
  rw [text, ofRecords, List.reverse_reverse]

theorem frames_ofRecords (qs : List Query) (g : Generator) : Frames (ofRecords qs g).text qs := by
  refine ⟨numbered 1 qs, text_ofRecords qs g, length_numbered, ?_, ?_⟩
  · intro l hl
    exact Text.newline_byte_not_mem_encode (newline_not_mem_of_mem_numbered hl)
  · intro k q hq
    refine ⟨q.numberedJson (k + 1), ?_, q.decodeObject_numberedJson (k + 1)⟩
    rw [getElem?_numbered, hq, Nat.add_comm, Option.map_some]

/-- The text of more records starts with the text of the first ones. -/
theorem text_ofRecords_append (xs ys : List Query) (g g' : Generator) :
    ∃ rest, (ofRecords (xs ++ ys) g').text = (ofRecords xs g).text ++ rest := by
  rw [text_ofRecords, text_ofRecords, numbered_append, List.map_append, String.join_append]
  exact ⟨_, rfl⟩

variable {t : QueryType} {number n : Nat} {c c' : Corpus} {g : Generator}

theorem extend_ok : extend t number c = some c' ∧ c'.failure = none ↔
    ∃ g q, t.compose.outcome ⟨c.generator, .empty⟩ = some (.ok (), ⟨g, q⟩)
      ∧ c' = ⟨q.numberedJson number :: c.lines, g, none⟩ := by
  rw [extend, Option.bind_eq_bind, Option.bind_eq_some_iff]
  constructor
  · rintro ⟨⟨⟨r, d⟩, hcompose, h⟩, hok⟩
    cases r with
    | error e =>
      cases h
      cases hok
    | ok u =>
      cases h
      exact ⟨d.generator, d.record, hcompose, rfl⟩
  · rintro ⟨g, q, hcompose, rfl⟩
    exact ⟨⟨_, hcompose, rfl⟩, rfl⟩

/-- A run without failure is one query without failure, followed by the rest of the run. -/
theorem extendBy_succ_ok : extendBy t number (n + 1) c = some c' ∧ c'.failure = none ↔
    ∃ c₁, (extend t number c = some c₁ ∧ c₁.failure = none)
      ∧ extendBy t (number + 1) n c₁ = some c' ∧ c'.failure = none := by
  rw [extendBy, Option.bind_eq_bind, Option.bind_eq_some_iff]
  constructor
  · rintro ⟨⟨c₁, hstep, hrest⟩, hok⟩
    by_cases hfail : c₁.failure.isSome
    · rw [if_pos hfail] at hrest
      cases hrest
      rw [hok] at hfail
      cases hfail
    · rw [if_neg hfail] at hrest
      exact ⟨c₁, ⟨hstep, Option.not_isSome_iff_eq_none.1 hfail⟩, hrest, hok⟩
  · rintro ⟨c₁, ⟨hstep, hfail⟩, hrest, hok⟩
    refine ⟨⟨c₁, hstep, ?_⟩, hok⟩
    rw [if_neg (by simp [hfail])]
    exact hrest

/-- A run without failure adds the lines of the records that its generator composes. -/
theorem extendBy_ok (hc : c.failure = none) :
    extendBy t number n c = some c' ∧ c'.failure = none ↔
      ∃ qs g', t.Composes c.generator qs g' ∧ qs.length = n
        ∧ c' = ⟨(numbered number qs).reverse ++ c.lines, g', none⟩ := by
  induction n generalizing number c with
  | zero =>
    have hself : c = ⟨c.lines, c.generator, none⟩ := by rw [← hc]
    constructor
    · rintro ⟨⟨⟩, -⟩
      exact ⟨[], _, .done _, rfl, hself⟩
    · rintro ⟨qs, g', hqs, hlen, rfl⟩
      obtain rfl := List.length_eq_zero_iff.1 hlen
      cases hqs
      exact ⟨congrArg some hself, rfl⟩
  | succ n ih =>
    rw [extendBy_succ_ok]
    constructor
    · rintro ⟨c₁, hstep, hrest⟩
      obtain ⟨g₁, q, hq, rfl⟩ := extend_ok.1 hstep
      obtain ⟨qs, g', hqs, hlen, rfl⟩ := (ih rfl).1 hrest
      exact ⟨q :: qs, g', .next hq hqs, by rw [List.length_cons, hlen], by simp [numbered]⟩
    · rintro ⟨_ | ⟨q, qs⟩, g', hqs, hlen, rfl⟩
      · cases hlen
      · obtain _ | ⟨hq, hqs⟩ := hqs
        refine ⟨_, extend_ok.2 ⟨_, q, hq, rfl⟩, (ih rfl).2 ⟨qs, g', hqs, ?_, by simp [numbered]⟩⟩
        exact Nat.succ.inj hlen

/-- **A corpus without failure consists of the records that its generator composes.** -/
theorem compose_ok : compose t n g = some c ∧ c.failure = none ↔
    ∃ qs g', t.Composes g qs g' ∧ qs.length = n ∧ c = ofRecords qs g' := by
  rw [compose, extendBy_ok rfl]
  simp only [empty, List.append_nil, ofRecords]

/-- **Lines and records.**  If a corpus of `n` queries has no failure, its text is one line for each
record that the generator composes, one after the other.  The text of a shorter run by the same
generator is how this text starts; and what the generator composes in a further run is what it would
have composed after these records in a single run. -/
theorem framed_and_prefix_stable (h : compose t n g = some c) (hok : c.failure = none) :
    ∃ qs, qs.length = n ∧ t.Composes g qs c.generator ∧ Frames c.text qs
      ∧ (∀ m ≤ n, ∃ c', compose t m g = some c' ∧ c'.failure = none
        ∧ Frames c'.text (qs.take m) ∧ ∃ rest, c.text = c'.text ++ rest)
      ∧ ∀ m c', compose t m c.generator = some c' → c'.failure = none →
        ∃ qs' c'', qs'.length = m ∧ t.Composes c.generator qs' c'.generator ∧ Frames c'.text qs'
          ∧ compose t (n + m) g = some c'' ∧ c''.failure = none
          ∧ c''.generator = c'.generator ∧ Frames c''.text (qs ++ qs') := by
  obtain ⟨qs, g', hqs, hlen, rfl⟩ := compose_ok.1 ⟨h, hok⟩
  refine ⟨qs, hlen, hqs, frames_ofRecords qs g', ?shorter, ?further⟩
  case shorter =>
    intro m hm
    rw [← List.take_append_drop m qs] at hqs
    obtain ⟨g₁, hfirst, -⟩ := QueryType.composes_append.1 hqs
    have htake : (qs.take m).length = m := by
      rw [List.length_take]
      omega
    obtain ⟨hcompose, hnone⟩ := compose_ok.2 ⟨_, g₁, hfirst, htake, rfl⟩
    refine ⟨_, hcompose, hnone, frames_ofRecords _ g₁, ?_⟩
    have htext := text_ofRecords_append (qs.take m) (qs.drop m) g₁ g'
    rwa [List.take_append_drop] at htext
  case further =>
    intro m c' h' hok'
    obtain ⟨qs', g₂, hqs', hlen', rfl⟩ := compose_ok.1 ⟨h', hok'⟩
    have hboth := QueryType.composes_append.2 ⟨g', hqs, hqs'⟩
    have hsum : (qs ++ qs').length = n + m := by rw [List.length_append, hlen, hlen']
    obtain ⟨hcompose, hnone⟩ := compose_ok.2 ⟨_, g₂, hboth, hsum, rfl⟩
    exact ⟨qs', _, hlen', hqs', frames_ofRecords qs' g₂, hcompose, hnone, rfl,
      frames_ofRecords _ g₂⟩

/-- A generator with one host and room for an hour composes as many records as one likes. -/
theorem composes_narrow (n : Nat) (source : Lagged) :
    ∃ qs source', qs.length = n ∧ (QueryType.devops.head (by decide)).Composes (.narrow source) qs
      (.narrow source') := by
  induction n generalizing source with
  | zero => exact ⟨[], source, rfl, .done _⟩
  | succ n ih =>
    obtain ⟨source₁, q, hq⟩ := Compose.groupByTime_narrow source .empty
    obtain ⟨qs, source', hlen, hqs⟩ := ih source₁
    refine ⟨q :: qs, source', by rw [List.length_cons, hlen], .next ?_ hqs⟩
    rw [QueryType.outcome_compose rfl]
    exact hq

/-- Two queries about one host in one hour, and a text of one query that is how theirs starts. -/
theorem framed_and_prefix_stable_one_host :
    ∃ c qs c', compose (QueryType.devops.head (by decide)) 2 (.narrow (.ofSeed 0)) = some c
      ∧ c.failure = none ∧ qs.length = 2 ∧ Frames c.text qs
      ∧ compose (QueryType.devops.head (by decide)) 1 (.narrow (.ofSeed 0)) = some c'
      ∧ Frames c'.text (qs.take 1) ∧ ∃ rest, c.text = c'.text ++ rest := by
  obtain ⟨qs, source, hlen, hqs⟩ := composes_narrow 2 (.ofSeed 0)
  obtain ⟨h, hok⟩ := compose_ok.2 ⟨qs, _, hqs, hlen, rfl⟩
  obtain ⟨qs, hlen, -, hframes, hshorter, -⟩ := framed_and_prefix_stable h hok
  obtain ⟨c', h', -, hframes', hrest⟩ := hshorter 1 (by decide)
  exact ⟨_, qs, c', h, hok, hlen, hframes, h', hframes', hrest⟩

end Corpus

end FluxCorpus
