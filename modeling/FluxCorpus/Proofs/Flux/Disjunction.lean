import FluxCorpus.Proofs.Compose
import FluxCorpus.Proofs.Text.Reading

/-!
# Predicates can be read back

A reader that goes through a predicate from left to right, and knows nothing but what a term looks
like, finds its column and its values.  So no two predicates are alike in text.

* `term?`, `alternatives?`, `disjunction?` — the reader.
* `term?_eq_some_iff`, `alternatives?_eq_some_iff` — what is read of a term, and of a row of them.
* `disjunction?_eq_some_iff` — **the reader accepts what is written, and nothing else.**
* `length_behind_row` — a predicate has one ` or ` less than it has values.
* `oneOf_invertible` — **what a predicate gives away**, if its names get along with the notation.
-/

namespace FluxCorpus.Flux

open Text (behind Clear split? split?_eq_some_iff dropPrefix?_eq_iff)

/-! ## The reader -/

/-- Reads a term: the column up to a space, and the value up to a quote. -/
def term? (cs : List Char) : Option ((String × String) × List Char) := do
  let cs ← cs.dropPrefix? ['r', '.']
  let (column, cs) ← split? ' ' cs
  let cs ← cs.dropPrefix? ['=', '=', ' ', '\'']
  let (value, cs) ← split? '\'' cs
  return ((String.ofList column, String.ofList value), cs)

theorem toList_term (column value : String) (rest : List Char) :
    (term column value).toList ++ rest = ['r', '.'] ++ (column.toList ++ ' ' ::
      (['=', '=', ' ', '\''] ++ (value.toList ++ '\'' :: rest))) := by
  simp [term]

/-- **A term is read back**, and a text from which a term is read begins with it. -/
theorem term?_eq_some_iff {cs rest : List Char} {column value : String} :
    term? cs = some ((column, value), rest) ↔
      cs = (term column value).toList ++ rest ∧ ' ' ∉ column.toList ∧ '\'' ∉ value.toList := by
  rw [toList_term]
  simp only [term?, bind, Option.bind_eq_some_iff, dropPrefix?_eq_iff]
  constructor
  · rintro ⟨cs₁, rfl, ⟨column', cs₂⟩, hcolumn, cs₃, rfl, ⟨value', cs₄⟩, hvalue, ⟨⟩⟩
    obtain ⟨rfl, hspace⟩ := split?_eq_some_iff.1 hcolumn
    obtain ⟨rfl, hquote⟩ := split?_eq_some_iff.1 hvalue
    rw [String.toList_ofList, String.toList_ofList]
    exact ⟨rfl, hspace, hquote⟩
  · rintro ⟨rfl, hcolumn, hvalue⟩
    refine ⟨_, rfl, (column.toList, _), split?_eq_some_iff.2 ⟨rfl, hcolumn⟩, _, rfl,
      (value.toList, rest), split?_eq_some_iff.2 ⟨rfl, hvalue⟩, ?_⟩
    rw [String.ofList_toList, String.ofList_toList]
    rfl

/-- A term and the ` or ` behind it take a part of the text. -/
theorem length_lt_of_term? {cs rest : List Char} {t : String × String}
    (h : term? cs = some (t, ' ' :: 'o' :: 'r' :: ' ' :: rest)) : rest.length < cs.length := by
  obtain ⟨rfl, -⟩ := term?_eq_some_iff.1 h
  rw [List.length_append]
  simp only [List.length_cons]
  omega

/-- Reads terms with ` or ` between them, up to a parenthesis that ends the text. -/
def alternatives? (cs : List Char) : Option (List (String × String)) :=
  match h : term? cs with
  | some (t, [')']) => some [t]
  | some (t, ' ' :: 'o' :: 'r' :: ' ' :: rest) =>
    have := length_lt_of_term? h
    (alternatives? rest).map (t :: ·)
  | _ => none
termination_by cs.length

/-- A term that a parenthesis ends is the last one. -/
theorem alternatives?_last {cs : List Char} {t : String × String}
    (h : term? cs = some (t, [')'])) : alternatives? cs = some [t] := by
  rw [alternatives?]
  split <;> simp_all

/-- Behind ` or ` the row goes on with the rest of the text. -/
theorem alternatives?_more {cs rest : List Char} {t : String × String}
    (h : term? cs = some (t, ' ' :: 'o' :: 'r' :: ' ' :: rest)) :
    alternatives? cs = (alternatives? rest).map (t :: ·) := by
  rw [alternatives?]
  split <;> simp_all

/-- The text of a row of terms. -/
def row (ts : List (String × String)) : String := alternatives (ts.map fun t => term t.1 t.2)

theorem toList_row_cons (t : String × String) {ts : List (String × String)} (hne : ts ≠ [])
    (rest : List Char) : (row (t :: ts)).toList ++ rest
      = (term t.1 t.2).toList ++ ' ' :: 'o' :: 'r' :: ' ' :: ((row ts).toList ++ rest) := by
  obtain ⟨u, us, rfl⟩ := List.exists_cons_of_ne_nil hne
  have hrow : row (t :: u :: us) = term t.1 t.2 ++ " or " ++ row (u :: us) := rfl
  have hor : (" or " : String).toList = [' ', 'o', 'r', ' '] := by decide
  rw [hrow, String.toList_append, String.toList_append, hor, List.append_assoc, List.append_assoc]
  rfl

/-- **A row of terms is read back**, and a text from which one is read is made up of them. -/
theorem alternatives?_eq_some_iff {cs : List Char} {ts : List (String × String)} :
    alternatives? cs = some ts ↔
      cs = (row ts).toList ++ [')'] ∧ ts ≠ [] ∧ ∀ t ∈ ts, ' ' ∉ t.1.toList ∧ '\'' ∉ t.2.toList := by
  constructor
  · intro h
    fun_induction alternatives? cs generalizing ts with
    | case1 cs t hterm =>
      cases h
      obtain ⟨rfl, hclean⟩ := term?_eq_some_iff.1 hterm
      exact ⟨rfl, List.cons_ne_nil _ _, List.forall_mem_singleton.2 hclean⟩
    | case2 cs t rest hterm hlt ih =>
      obtain ⟨ts', hts, rfl⟩ := Option.map_eq_some_iff.1 h
      obtain ⟨rfl, hne, hclean'⟩ := ih hts
      obtain ⟨rfl, hclean⟩ := term?_eq_some_iff.1 hterm
      exact ⟨(toList_row_cons t hne _).symm, List.cons_ne_nil _ _,
        List.forall_mem_cons.2 ⟨hclean, hclean'⟩⟩
    | case3 => cases h
  · rintro ⟨rfl, hne, hclean⟩
    induction ts with
    | nil => exact absurd rfl hne
    | cons t ts ih =>
      rw [List.forall_mem_cons] at hclean
      by_cases hts : ts = []
      · subst hts
        exact alternatives?_last (term?_eq_some_iff.2 ⟨rfl, hclean.1⟩)
      · rw [toList_row_cons t hts, alternatives?_more (term?_eq_some_iff.2 ⟨rfl, hclean.1⟩),
          ih hts hclean.2]
        rfl

/-- Reads a predicate: its terms in parentheses, which all have the same column. -/
def disjunction? (s : String) : Option (String × List String) := do
  let cs ← s.toList.dropPrefix? ['(']
  let ts ← alternatives? cs
  let column ← ts.head?.map Prod.fst
  if ts.all fun t => t.1 = column then some (column, ts.map Prod.snd) else none

theorem oneOf_eq (column : String) (values : List String) :
    oneOf column values = "(" ++ row (values.map (column, ·)) ++ ")" := by
  rw [row, List.map_map]
  rfl

theorem toList_oneOf (column : String) (values : List String) :
    (oneOf column values).toList = ['('] ++ ((row (values.map (column, ·))).toList ++ [')']) := by
  have hopen : ("(" : String).toList = ['('] := by decide
  have hclose : (")" : String).toList = [')'] := by decide
  rw [oneOf_eq, String.toList_append, String.toList_append, hopen, hclose, List.append_assoc]

/-- **The reader accepts what is written, and nothing else**: it finds a column and some values in a
text just if the text is the predicate of these, as long as there is a value, no space in the column
and no quote in a value. -/
theorem disjunction?_eq_some_iff {s column : String} {values : List String} :
    disjunction? s = some (column, values) ↔
      s = oneOf column values ∧ values ≠ [] ∧ ' ' ∉ column.toList
        ∧ ∀ v ∈ values, '\'' ∉ v.toList := by
  rw [← String.toList_inj, toList_oneOf]
  simp only [disjunction?, bind, Option.bind_eq_some_iff, dropPrefix?_eq_iff,
    alternatives?_eq_some_iff]
  constructor
  · rintro ⟨cs, hs, ts, ⟨rfl, hne, hclean⟩, column', hhead, hsame⟩
    obtain ⟨hall, heq⟩ := Option.ite_none_right_eq_some.1 hsame
    cases heq
    have hall : ∀ t ∈ ts, t.1 = column := by simpa using hall
    have hts : (ts.map Prod.snd).map (column, ·) = ts :=
      calc (ts.map Prod.snd).map (column, ·) = ts.map fun t => (column, t.2) := List.map_map
        _ = ts.map id := List.map_congr_left fun t ht => Prod.ext (hall t ht).symm rfl
        _ = ts := List.map_id ts
    obtain ⟨t, ht⟩ := List.exists_mem_of_ne_nil ts hne
    refine ⟨by rw [hts, hs], by simpa using hne, hall t ht ▸ (hclean t ht).1, ?_⟩
    intro v hv
    obtain ⟨u, hu, rfl⟩ := List.mem_map.1 hv
    exact (hclean u hu).2
  · rintro ⟨hs, hne, hcolumn, hvalues⟩
    refine ⟨_, hs, values.map (column, ·), ⟨rfl, by simpa using hne, ?_⟩, column, ?_, ?_⟩
    · intro t ht
      obtain ⟨v, hv, rfl⟩ := List.mem_map.1 ht
      exact ⟨hcolumn, hvalues v hv⟩
    · obtain ⟨v, vs, rfl⟩ := List.exists_cons_of_ne_nil hne
      rfl
    · simp [Function.comp_def]

/-! ## Separators -/

/-- A name without the characters of the notation. -/
def Bare (s : String) : Prop := ∀ c ∈ s.toList, c ∉ ['\'', ' ', '(', ')']

instance (s : String) : Decidable (Bare s) := List.decidableBAll _ s.toList

/-- What stands between two terms. -/
def orMarker : List Char := [' ', 'o', 'r', ' ']

/-- In a term about bare names no separator begins. -/
theorem clear_or_term {column value : String} (hcolumn : Bare column) (hvalue : Bare value) :
    Clear orMarker (term column value) := by
  have hbare {s : String} (h : Bare s) : Clear orMarker s :=
    Text.clear_of_head_not_mem fun hs => h ' ' hs (by decide)
  have hlit : Clear orMarker "r." := Text.clear_of_head_not_mem (by decide)
  have hop : Clear orMarker " == '" := Text.clear_lit (by decide)
  have hend : Clear orMarker "'" := Text.clear_of_head_not_mem (by decide)
  exact (((hlit.append (hbare hcolumn)).append hop).append (hbare hvalue)).append hend

/-- A separator in front of a term is found, and no other one overlaps it. -/
theorem behind_or (cs : List Char) :
    behind orMarker (' ' :: 'o' :: 'r' :: ' ' :: 'r' :: cs)
      = ('r' :: cs) :: behind orMarker ('r' :: cs) := by
  simp [behind, orMarker]

theorem exists_row_cons (t : String × String) (ts : List (String × String)) :
    ∃ cs, (row (t :: ts)).toList = 'r' :: cs := by
  rw [← List.append_nil (row _).toList]
  cases ts with
  | nil => exact ⟨_, toList_term t.1 t.2 []⟩
  | cons u us =>
    rw [toList_row_cons t (List.cons_ne_nil u us)]
    exact ⟨_, toList_term t.1 t.2 _⟩

/-- A row of terms has a separator between any two neighbours, and no other one. -/
theorem length_behind_row {ts : List (String × String)} (hne : ts ≠ [])
    (hbare : ∀ t ∈ ts, Bare t.1 ∧ Bare t.2) :
    (behind orMarker ((row ts).toList ++ [')'])).length + 1 = ts.length := by
  induction ts with
  | nil => exact absurd rfl hne
  | cons t ts ih =>
    rw [List.forall_mem_cons] at hbare
    have hclear := clear_or_term hbare.1.1 hbare.1.2
    cases ts with
    | nil =>
      have hrow : row [t] = term t.1 t.2 := rfl
      rw [hrow, hclear]
      rfl
    | cons u us =>
      have hrest := ih (List.cons_ne_nil u us) hbare.2
      obtain ⟨cs, hcs⟩ := exists_row_cons u us
      rw [hcs] at hrest
      rw [toList_row_cons t (List.cons_ne_nil u us), hclear, hcs, List.cons_append, behind_or,
        List.length_cons, List.length_cons, ← List.cons_append, hrest]

/-- A row of terms has no parenthesis. -/
theorem not_mem_row {ts : List (String × String)} (hbare : ∀ t ∈ ts, Bare t.1 ∧ Bare t.2) {c : Char}
    (hc : c = '(' ∨ c = ')') : c ∉ (row ts).toList := by
  have hname {s : String} (h : Bare s) : c ∉ s.toList := fun hs => h c hs (by
    rcases hc with rfl | rfl <;> decide)
  have hmark : c ∉ ['r', '.', ' ', '=', '\'', 'o'] := by
    rcases hc with rfl | rfl <;> decide
  simp only [List.mem_cons, List.not_mem_nil, not_or, or_false] at hmark
  have hterm {t : String × String} (h : Bare t.1 ∧ Bare t.2) {rest : List Char} (hrest : c ∉ rest) :
      c ∉ (term t.1 t.2).toList ++ rest := by
    rw [toList_term]
    simp [hmark, hname h.1, hname h.2, hrest]
  induction ts with
  | nil => exact List.not_mem_nil
  | cons t ts ih =>
    rw [List.forall_mem_cons] at hbare
    rw [← List.append_nil (row _).toList]
    by_cases hts : ts = []
    · subst hts
      exact hterm hbare.1 List.not_mem_nil
    · rw [toList_row_cons t hts]
      apply hterm hbare.1
      simp [hmark, ih hbare.2]

/-- **What a predicate gives away.**  About bare names, and at least one value, a predicate is built
without any effect.  It is one disjunction in parentheses, from which a reader gets back the column
and the values, so that another column or other values never have the same text; and it has one
` or ` less than it has values, that is none for one value. -/
theorem oneOf_invertible (column : String) (values : List String) (hne : values ≠ [])
    (hcolumn : Bare column) (hvalues : ∀ v ∈ values, Bare v) :
    (∀ d, (Compose.oneOf column values).outcome d = some (.ok (oneOf column values), d))
      ∧ (∃ inner : String, oneOf column values = "(" ++ inner ++ ")"
        ∧ '(' ∉ inner.toList ∧ ')' ∉ inner.toList)
      ∧ disjunction? (oneOf column values) = some (column, values)
      ∧ (∀ column' values', values' ≠ [] → Bare column' → (∀ v ∈ values', Bare v) →
        oneOf column' values' = oneOf column values → column' = column ∧ values' = values)
      ∧ (behind orMarker (oneOf column values).toList).length + 1 = values.length := by
  have hread {column : String} {values : List String} (hne : values ≠ []) (hcolumn : Bare column)
      (hvalues : ∀ v ∈ values, Bare v) :
      disjunction? (oneOf column values) = some (column, values) :=
    disjunction?_eq_some_iff.2 ⟨rfl, hne, fun h => hcolumn _ h (by decide),
      fun v hv h => hvalues v hv _ h (by decide)⟩
  have hrow : ∀ t ∈ values.map (column, ·), Bare t.1 ∧ Bare t.2 := by
    intro t ht
    obtain ⟨v, hv, rfl⟩ := List.mem_map.1 ht
    exact ⟨hcolumn, hvalues v hv⟩
  refine ⟨fun d => ?_, ?_, hread hne hcolumn hvalues, ?_, ?_⟩
  · exact Compose.oneOf_ok.2 ⟨hne, rfl, rfl⟩
  · exact ⟨_, oneOf_eq column values, not_mem_row hrow (.inl rfl), not_mem_row hrow (.inr rfl)⟩
  · intro column' values' hne' hcolumn' hvalues' heq
    have h := hread hne' hcolumn' hvalues'
    rw [heq, hread hne hcolumn hvalues] at h
    cases h
    exact ⟨rfl, rfl⟩
  · have hopen : Clear orMarker "(" := Text.clear_of_head_not_mem (by decide)
    have hparen : ['('] = ("(" : String).toList := by decide
    rw [toList_oneOf, hparen, hopen, length_behind_row (by simpa using hne) hrow, List.length_map]

/-- Two hosts are read back, and the text about two others is another one. -/
theorem oneOf_invertible_two_hosts :
    disjunction? "(r.hostname == 'host_1' or r.hostname == 'host_20')"
        = some ("hostname", ["host_1", "host_20"])
      ∧ oneOf "hostname" ["host_1", "host_2"] ≠ oneOf "hostname" ["host_1", "host_20"] := by
  obtain ⟨-, -, hread, hinjective, -⟩ :=
    oneOf_invertible "hostname" ["host_1", "host_20"] (by decide) (by decide) (by decide)
  refine ⟨hread, fun h => ?_⟩
  have hvalues := (hinjective "hostname" ["host_1", "host_2"] (by decide) (by decide) (by decide) h).2
  exact absurd hvalues (by decide)

end FluxCorpus.Flux
