import FluxCorpus.Text.Decimal
import FluxCorpus.Text.Pieces
import Mathlib.Data.List.Basic
import Mathlib.Data.List.Infix

/-!
# Finding things in a text

A reader that knows nothing of how a text was made looks for a marker from left to right, and reads
on behind each place where it stands.

* `behind` — what stands behind each occurrence of a marker.
* `upTo?` — what stands before the next occurrence of a character; `takeWhile_dropWhile_append` — and
  before the end of a run.
* `split?` — both sides of a separator; `dropPrefix?_eq_iff` — what is left behind a known beginning.
* `Clear` — a piece of text in which no occurrence of a marker begins, whatever stands behind it;
  a reader can skip it (`Clear.append`, `clear_lit`, `clear_of_head_not_mem`, `clear_concat`).
* `behind_marker` — where the marker stands, the reader finds it.
* `Finds` — what a reader finds in a piece of text, whatever stands behind it; kept when pieces are
  put together (`Finds.append`).
-/

namespace FluxCorpus.Text

/-- What stands behind each occurrence of a marker in a text, from left to right. -/
def behind (marker : List Char) : List Char → List (List Char)
  | [] => []
  | c :: cs =>
    if marker <+: c :: cs then (c :: cs).drop marker.length :: behind marker cs
    else behind marker cs

/-- The part of a text before the first `c`, if there is one. -/
def upTo? (c : Char) (cs : List Char) : Option (List Char) :=
  if c ∈ cs then some (cs.takeWhile (· ≠ c)) else none

theorem upTo?_append {c : Char} {a : List Char} (h : c ∉ a) (b : List Char) :
    upTo? c (a ++ c :: b) = some a := by
  rw [upTo?, if_pos (List.mem_append_right a List.mem_cons_self), List.takeWhile_append_of_pos]
  · simp
  · intro d hd
    rw [decide_eq_true_iff]
    rintro rfl
    exact h hd

/-- A run of characters of a class ends where a text goes on with others. -/
theorem takeWhile_dropWhile_append {p : Char → Bool} {a b : List Char} (ha : ∀ c ∈ a, p c)
    (hb : ∀ c ∈ b.head?, p c = false) :
    (a ++ b).takeWhile p = a ∧ (a ++ b).dropWhile p = b := by
  rw [List.takeWhile_append_of_pos ha, List.dropWhile_append_of_pos ha]
  cases b with
  | nil => simp
  | cons c cs => simp [hb c rfl]

/-! ## What stands behind -/

/-- The text before the first separator and the text behind it, if there is one. -/
def split? (separator : Char) (cs : List Char) : Option (List Char × List Char) :=
  match cut separator cs with
  | (before, some rest) => some (before, rest)
  | (_, none) => none

/-- A text is cut at its first separator. -/
theorem cut_eq_iff {c : Char} {cs before rest : List Char} :
    cut c cs = (before, some rest) ↔ cs = before ++ c :: rest ∧ c ∉ before := by
  induction cs generalizing before with
  | nil => simp [cut]
  | cons d cs ih =>
    rw [cut]
    by_cases hd : d = c
    · subst hd
      cases before with
      | nil => simp
      | cons e es => simp +contextual
    · cases before with
      | nil => simp [hd]
      | cons e es =>
        have hhead : d :: cs = e :: es ++ c :: rest ∧ c ∉ e :: es ↔
            d = e ∧ cs = es ++ c :: rest ∧ c ∉ es := by
          simp only [List.cons_append, List.cons.injEq, List.mem_cons, not_or]
          constructor
          · rintro ⟨⟨rfl, hcs⟩, -, hmem⟩
            exact ⟨rfl, hcs, hmem⟩
          · rintro ⟨rfl, hcs, hmem⟩
            exact ⟨⟨rfl, hcs⟩, Ne.symm hd, hmem⟩
        rw [if_neg hd, hhead, ← ih]
        simp only [Prod.ext_iff, List.cons.injEq, and_assoc]

theorem split?_eq_some_iff {c : Char} {cs before rest : List Char} :
    split? c cs = some (before, rest) ↔ cs = before ++ c :: rest ∧ c ∉ before := by
  rw [← cut_eq_iff, split?]
  split <;> simp_all

/-- What is left behind a known beginning. -/
theorem dropPrefix?_eq_iff {cs p rest : List Char} :
    cs.dropPrefix? p = some rest ↔ cs = p ++ rest := by
  rw [List.dropPrefix?_eq_some_iff]
  constructor
  · rintro ⟨p', rfl, hp⟩
    rw [eq_of_beq hp]
  · rintro rfl
    exact ⟨p, rfl, BEq.rfl⟩

/-! ## Pieces without a marker -/

/-- No occurrence of the marker begins in a piece of text, whatever stands behind it. -/
def Clear (marker : List Char) (s : String) : Prop :=
  ∀ rest, behind marker (s.toList ++ rest) = behind marker rest

theorem Clear.append {m : List Char} {s t : String} (hs : Clear m s) (ht : Clear m t) :
    Clear m (s ++ t) := by
  intro rest
  rw [String.toList_append, List.append_assoc, hs, ht]

/-- A marker begins in a piece of text if it agrees with an end of it as far as both go. -/
theorem clear_of_suffixes {m cs : List Char}
    (h : ∀ t ∈ cs.tails, t ≠ [] → ¬ m <+: t ∧ ¬ t <+: m) : Clear m (String.ofList cs) := by
  intro rest
  rw [String.toList_ofList]
  induction cs with
  | nil => rfl
  | cons c cs ih =>
    have htail : ∀ t ∈ cs.tails, t ≠ [] → ¬ m <+: t ∧ ¬ t <+: m := by
      intro t ht
      apply h t
      rw [List.tails_cons]
      exact List.mem_cons_of_mem _ ht
    obtain ⟨hlong, hshort⟩ := h (c :: cs) (by rw [List.tails_cons]; exact List.mem_cons_self)
      (List.cons_ne_nil c cs)
    have hnot : ¬ m <+: c :: (cs ++ rest) := by
      intro hm
      rcases List.prefix_or_prefix_of_prefix hm (List.prefix_append (c :: cs) rest) with h | h
      · exact hlong h
      · exact hshort h
    rw [List.cons_append, behind, if_neg hnot, ih htail]

/-- The criterion for a piece of text that is known, for all markers that begin in the same way. -/
theorem clear_lit_of_prefix {m cs : List Char}
    (h : (cs.tails.all fun t => t.isEmpty || !(m.isPrefixOf t || t.isPrefixOf m)) = true)
    (xs : List Char) : Clear (m ++ xs) (String.ofList cs) := by
  apply clear_of_suffixes
  intro t ht hne
  have hcrit := List.all_eq_true.1 h t ht
  rw [Bool.or_eq_true, List.isEmpty_iff, Bool.not_eq_true', Bool.or_eq_false_iff] at hcrit
  obtain ⟨hm, ht⟩ := hcrit.resolve_left hne
  have hm : ¬ m <+: t := by rw [← List.isPrefixOf_iff_prefix, hm]; exact Bool.false_ne_true
  have ht : ¬ t <+: m := by rw [← List.isPrefixOf_iff_prefix, ht]; exact Bool.false_ne_true
  constructor
  · intro hlong
    exact hm ((List.prefix_append m xs).trans hlong)
  · intro hshort
    rcases List.prefix_or_prefix_of_prefix hshort (List.prefix_append m xs) with h | h
    · exact ht h
    · exact hm h

/-- The criterion for a piece of text that is known. -/
theorem clear_lit {m cs : List Char}
    (h : (cs.tails.all fun t => t.isEmpty || !(m.isPrefixOf t || t.isPrefixOf m)) = true) :
    Clear m (String.ofList cs) := by
  have hm := clear_lit_of_prefix h []
  rwa [List.append_nil] at hm

/-- The same criterion for a piece that is put together from others. -/
theorem clear_of_tails {m : List Char} {s : String}
    (h : (s.toList.tails.all fun t => t.isEmpty || !(m.isPrefixOf t || t.isPrefixOf m)) = true) :
    Clear m s := by
  have hs := clear_lit h
  rwa [String.ofList_toList] at hs

/-- A marker does not begin where its first character does not stand. -/
theorem clear_of_head_not_mem {x : Char} {xs : List Char} {s : String} (h : x ∉ s.toList) :
    Clear (x :: xs) s := by
  rw [← String.ofList_toList (s := s)]
  apply clear_of_suffixes
  intro t ht hne
  obtain ⟨d, ds, rfl⟩ := List.exists_cons_of_ne_nil hne
  have hd : d ∈ s.toList := ((List.mem_tails _ _).1 ht).subset List.mem_cons_self
  constructor
  · rintro ⟨r, hr⟩
    cases hr
    exact h hd
  · rintro ⟨r, hr⟩
    cases hr
    exact h hd

/-- A marker does not begin in a piece that lacks one of its characters and ends with a character
that the marker does not have. -/
theorem clear_concat {m : List Char} {x : Char} {s t : String} {c : Char} (hx : x ∈ m)
    (hs : x ∉ s.toList) (ht : t.toList = [c]) (hc : c ∉ m) : Clear m (s ++ t) := by
  rw [← String.ofList_toList (s := s ++ t), String.toList_append, ht]
  apply clear_of_suffixes
  intro u hu hne
  have hsuffix := (List.mem_tails _ _).1 hu
  constructor
  · intro hm
    have hmem : x ∈ s.toList ++ [c] := hsuffix.subset (hm.subset hx)
    rw [List.mem_append, List.mem_singleton] at hmem
    obtain hmem | rfl := hmem
    · exact hs hmem
    · exact hc hx
  · intro hm
    obtain ⟨v, d, rfl⟩ := (List.eq_nil_or_concat u).resolve_left hne
    have hlast : d = c := by
      obtain ⟨r, hr⟩ := hsuffix
      rw [List.concat_eq_append, ← List.append_assoc] at hr
      have := List.append_inj_right' hr rfl
      simpa using this
    subst hlast
    rw [List.concat_eq_append] at hm
    exact hc (hm.subset (List.mem_append_right _ (List.mem_singleton_self _)))

/-! ## The marker itself -/

/-- Where a marker stands, the reader finds it, if its first character does not come again in it. -/
theorem behind_marker {x : Char} {xs : List Char} (h : x ∉ xs) (rest : List Char) :
    behind (x :: xs) (x :: xs ++ rest) = rest :: behind (x :: xs) rest := by
  have hskip : behind (x :: xs) (xs ++ rest) = behind (x :: xs) rest := by
    have hclear : Clear (x :: xs) (String.ofList xs) := by
      apply clear_of_head_not_mem
      rw [String.toList_ofList]
      exact h
    have hrest := hclear rest
    rwa [String.toList_ofList] at hrest
  have hprefix : x :: xs <+: x :: (xs ++ rest) := List.prefix_append (x :: xs) rest
  rw [List.cons_append, behind, if_pos hprefix, hskip]
  simp

/-! ## What a reader finds in a piece -/

variable {β : Type} {f : List Char → List β} {s t : String} {out out' : List β}

/-- A reader finds the same things in a piece of text whatever stands behind it. -/
def Finds (f : List Char → List β) (s : String) (out : List β) : Prop :=
  ∀ rest, f (s.toList ++ rest) = out ++ f rest

theorem Finds.append (hs : Finds f s out) (ht : Finds f t out') : Finds f (s ++ t) (out ++ out') := by
  intro rest
  rw [String.toList_append, List.append_assoc, hs, ht, List.append_assoc]

/-- In a whole text the reader finds what it finds in the text as a piece. -/
theorem Finds.all (hs : Finds f s out) (hnil : f [] = []) : f s.toList = out := by
  rw [← List.append_nil s.toList, hs, hnil, List.append_nil]

/-- A reader finds nothing where its marker does not begin. -/
theorem Clear.finds {m : List Char} (hs : Clear m s) (g : List Char → β) :
    Finds (fun cs => (behind m cs).map g) s [] := by
  intro rest
  exact congrArg (List.map g) (hs rest)

end FluxCorpus.Text
