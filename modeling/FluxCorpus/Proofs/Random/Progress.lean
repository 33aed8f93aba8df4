import FluxCorpus.Proofs.Random.Selection

/-!
# A sample can always be finished

Drawing a sample has no bound on the number of words that it takes, for an index may come up again
and a value may be rejected.  But it cannot get stuck: whatever words it has taken so far, some more
words finish it, no more of them than indices are asked for.  And nothing is left out: every list of
different indices is the sample that some words spell, one word for each index.

A sample that no memory could hold is refused before a word is taken, so it is never drawn.

* `Draw.spells_row` — indices in a row are spelled by as many words.
* `Draw.spells_collect` — the loop can be finished from every sample that has not enough.
* `Draw.collect_script` — on a script the loop ends or runs out of words, and then it can be
  finished.
* `Draw.subset_progress` — **every sample can be drawn, and every unfinished one can be finished**;
  `Draw.oversized_sample_refused`, one that cannot be drawn.
-/

namespace FluxCorpus.Draw

open WordSource (Gives)
open Process (Yields)

variable {σ : Type} [WordSource σ] {s s' t : σ} {n total k : Nat} {c : Sample}
  {ws xs : List UInt64} {x : UInt64}

/-! ## Words that are admitted or rejected -/

/-- The value of a word is admitted for an index below `total`. -/
def Admitted (total : Nat) (x : UInt64) : Prop :=
  (indexWidth total).Admits total ((indexWidth total).read x)

/-- A script has a first word that is admitted, or all of its words are rejected. -/
theorem exists_admitted (total : Nat) (ws : List UInt64) :
    (∃ xs x rest, ws = xs ++ x :: rest ∧ (∀ y ∈ xs, ¬ Admitted total y) ∧ Admitted total x)
      ∨ ∀ y ∈ ws, ¬ Admitted total y := by
  induction ws with
  | nil => simp
  | cons x ws ih =>
    by_cases hx : Admitted total x
    · exact .inl ⟨[], x, ws, rfl, by simp, hx⟩
    · rcases ih with ⟨xs, y, rest, rfl, hreject, hy⟩ | hreject
      · exact .inl ⟨x :: xs, y, rest, rfl, List.forall_mem_cons.2 ⟨hx, hreject⟩, hy⟩
      · exact .inr (List.forall_mem_cons.2 ⟨hx, hreject⟩)

/-- Some words that are rejected and one that is admitted spell an index. -/
theorem spells_of_admitted (hpos : 0 < total) (hlt : total < Width.long.range)
    (hreject : ∀ y ∈ xs, ¬ Admitted total y) (hx : Admitted total x) :
    Spells (fun _ => index total) (xs ++ [x]) ((indexWidth total).read x % total) := by
  intro σ _ s s' hgives
  show (index total).outcome s = _
  rw [index_eq_below hpos hlt]
  exact (below_ok hpos (lt_range_indexWidth hlt)).2 ⟨xs, x, hgives, hreject, hx, rfl⟩

/-- Words that are rejected make no difference to a draw but that they are gone. -/
theorem outcome_index_of_rejected (hpos : 0 < total) (hlt : total < Width.long.range)
    (hreject : ∀ y ∈ xs, ¬ Admitted total y) (hgives : Gives s xs t) :
    (index total).outcome s = (index total).outcome t := by
  have hrange := lt_range_indexWidth hlt
  have hredraw := outcome_redraw_of_gives hgives fun y hy =>
    Width.lt_limit_iff.not.2 (hreject y hy)
  rw [index_eq_below hpos hlt, outcome_below hpos hrange, outcome_below hpos hrange,
    Process.outcome_bind, Process.outcome_bind, hredraw]

/-- Without a word there is no draw. -/
theorem outcome_index_of_none (hpos : 0 < total) (hlt : total < Width.long.range)
    (hnone : WordSource.next? s = none) :
    (index total).outcome s = some (.error .exhausted, s) := by
  rw [index_eq_below hpos hlt, outcome_below hpos (lt_range_indexWidth hlt), Process.outcome_bind,
    outcome_redraw, hnone]

/-! ## Indices in a row -/

/-- Indices in a row are spelled by as many words. -/
theorem spells_row (hlt : total < Width.long.range) {ks : List Nat} (hks : ∀ k ∈ ks, k < total) :
    ∃ ws : List UInt64, ws.length = ks.length ∧
      ∀ {σ : Type} [WordSource σ] (s s' : σ), Gives s ws s' → Yields (index total) s ks s' := by
  induction ks with
  | nil => exact ⟨[], rfl, fun _ _ hgives => hgives⟩
  | cons k ks ih =>
    obtain ⟨hk, hks⟩ := List.forall_mem_cons.1 hks
    obtain ⟨x, hx⟩ := spells_index hlt hk
    obtain ⟨ws, hlength, hws⟩ := ih hks
    refine ⟨x :: ws, by rw [List.length_cons, List.length_cons, hlength], ?_⟩
    rintro σ _ s s' ⟨t, hnext, hgives⟩
    exact ⟨t, hx _ s t (WordSource.gives_singleton.2 hnext), hws t s' hgives⟩

/-! ## The loop -/

/-- While too little is picked, words that spell an index add it. -/
theorem outcome_collect_of_spells (hmore : c.picked.size < n)
    (hxs : Spells (fun _ => index total) xs k) (hgives : Gives s xs t) :
    (collect n total c).outcome s = (collect n total (c.add k)).outcome t := by
  have hindex : (index total).outcome s = some (.ok k, t) := hxs _ s t hgives
  rw [outcome_collect, if_neg (by omega), hindex]

/-- While too little is picked, words that are rejected make no difference. -/
theorem outcome_collect_of_rejected (hpos : 0 < total) (hlt : total < Width.long.range)
    (hmore : c.picked.size < n) (hreject : ∀ y ∈ xs, ¬ Admitted total y) (hgives : Gives s xs t) :
    (collect n total c).outcome s = (collect n total c).outcome t := by
  have henough : ¬ n ≤ c.picked.size := by omega
  rw [outcome_collect, if_neg henough, outcome_index_of_rejected hpos hlt hreject hgives,
    outcome_collect n total c t, if_neg henough]

/-- While less is picked than there is, something is not picked. -/
theorem Sample.exists_fresh (hsize : c.picked.size < total) : ∃ k < total, k ∉ c.picked.toList := by
  by_contra! hall
  have hsubperm := List.nodup_range.subperm fun k hk => hall k (List.mem_range.1 hk)
  have hle := hsubperm.length_le
  rw [List.length_range, Array.length_toList] at hle
  omega

/-- From every sample that has not enough the loop can be finished, with a word for each index that
is missing. -/
theorem spells_collect (hlt : total < Width.long.range) (hle : n ≤ total) (hc : c.Sound total) :
    ∃ ys c', ys.length = n - c.picked.size ∧ Spells (fun _ => collect n total c) ys c' := by
  induction hmissing : n - c.picked.size generalizing c with
  | zero =>
    refine ⟨[], c, rfl, fun σ _ s s' hgives => ?_⟩
    cases hgives
    show (collect n total c).outcome s = _
    rw [outcome_collect, if_pos (by omega)]
  | succ m ih =>
    have hfewer : c.picked.size < total := by omega
    obtain ⟨k, hk, hfresh⟩ := Sample.exists_fresh hfewer
    have hsize : (c.add k).picked.size = c.picked.size + 1 := by
      rw [Sample.add_of_not_mem ((hc.seen k).not.2 hfresh), Array.size_push]
    obtain ⟨x, hx⟩ := spells_index hlt hk
    obtain ⟨ys, c', hlength, hys⟩ := ih (hc.add hk) (by omega)
    refine ⟨[x] ++ ys, c', by rw [List.length_append, hlength, List.length_singleton, Nat.add_comm],
      fun σ _ s s' hgives => ?_⟩
    obtain ⟨t, hfirst, hrest⟩ := WordSource.gives_append.1 hgives
    show (collect n total c).outcome s = _
    rw [outcome_collect_of_spells (by omega) hx hfirst]
    exact hys _ t s' hrest

/-- **On a script the loop ends or runs out of words**, and then it can be finished. -/
theorem collect_script (hpos : 0 < total) (hlt : total < Width.long.range) (hle : n ≤ total)
    (hc : c.Sound total) (ws : List UInt64) :
    (∃ c' rest, (collect n total c).outcome ws = some (.ok c', rest))
      ∨ (collect n total c).outcome ws = some (.error .exhausted, [])
        ∧ ∃ ys c', ys.length ≤ n ∧ Spells (fun _ => collect n total c) (ws ++ ys) c' := by
  induction hlength : ws.length using Nat.strong_induction_on generalizing ws c with
  | _ length ih =>
    by_cases henough : n ≤ c.picked.size
    · exact .inl ⟨c, ws, by rw [outcome_collect, if_pos henough]⟩
    have hmore : c.picked.size < n := by omega
    rcases exists_admitted total ws with ⟨xs, x, rest, rfl, hreject, hx⟩ | hreject
    · -- an index is drawn, and the script behind it is shorter
      have hxs := spells_of_admitted hpos hlt hreject hx
      have hshorter : rest.length < length := by
        rw [← hlength, List.length_append, List.length_cons]
        omega
      have hgives : Gives (xs ++ x :: rest) (xs ++ [x]) rest :=
        WordSource.gives_script.2 (List.append_cons xs x rest)
      rw [outcome_collect_of_spells hmore hxs hgives]
      rcases ih rest.length hshorter (hc.add (Nat.mod_lt _ hpos)) rest rfl with
        hdone | ⟨hstop, ys, c', hys, hspells⟩
      · exact .inl hdone
      · refine .inr ⟨hstop, ys, c', hys, fun σ _ s s' hgives => ?_⟩
        rw [List.append_cons, List.append_assoc, WordSource.gives_append] at hgives
        obtain ⟨t, hfirst, hrest⟩ := hgives
        show (collect n total c).outcome s = _
        rw [outcome_collect_of_spells hmore hxs hfirst]
        exact hspells _ t s' hrest
    · -- no further index is drawn, and all that is missing can be drawn behind the script
      obtain ⟨ys, c', hmissing, hspells⟩ := spells_collect hlt hle hc
      refine .inr ⟨?_, ys, c', by omega, fun σ _ s s' hgives => ?_⟩
      · have hend : Gives ws ws ([] : List UInt64) :=
          WordSource.gives_script.2 (List.append_nil ws).symm
        rw [outcome_collect_of_rejected hpos hlt hmore hreject hend, outcome_collect,
          if_neg henough, outcome_index_of_none hpos hlt rfl]
      · obtain ⟨t, hfirst, hrest⟩ := WordSource.gives_append.1 hgives
        show (collect n total c).outcome s = _
        rw [outcome_collect_of_rejected hpos hlt hmore hreject hfirst]
        exact hspells _ t s' hrest

/-! ## Samples -/

theorem spells_subset_of_collect {c : Sample} (hroom : n ≤ greatestSample)
    (h : Spells (fun _ => collect n total .empty) ws c) :
    Spells (fun _ => subset n total) ws c.picked.toList :=
  fun _ _ s s' hgives => outcome_subset_ok.2 ⟨hroom, c, h _ s s' hgives, rfl⟩

/-- **Every sample can be drawn, and every unfinished one can be finished.**  If there is room for a
sample, every list of as many different indices is what some words spell, one for each index.  Words
that do not make a sample yet leave the draw without a next word, and behind any such words there are
others with which they spell one. -/
theorem subset_progress (hpos : 0 < n) (hle : n ≤ total) (hlt : total < 9223372036854775808)
    (hroom : n ≤ greatestSample) :
    (∀ l : List Nat, l.Nodup → l.length = n → (∀ k ∈ l, k < total) →
      ∃ ws, ws.length = n ∧ Spells (fun _ => subset n total) ws l)
      ∧ ∀ ws : List UInt64,
        (∀ l rest, (subset n total).outcome ws ≠ some (.ok l, rest)) →
          (subset n total).outcome ws = some (.error .exhausted, [])
            ∧ ∃ ys l, ys.length ≤ n ∧ Spells (fun _ => subset n total) (ws ++ ys) l := by
  refine ⟨?drawn, ?finished⟩
  case drawn =>
    intro l hnodup hlength hl
    obtain ⟨ws, hwords, hws⟩ := spells_row hlt hl
    refine ⟨ws, by rw [hwords, hlength], fun σ _ s s' hgives => ?_⟩
    rcases List.eq_nil_or_concat' l with rfl | ⟨ks, k, rfl⟩
    · simp at hlength
      omega
    · have hfresh : k ∉ ks := fun hk => List.disjoint_of_nodup_append hnodup hk (by simp)
      refine (subset_ok_iff hpos).2 ⟨hroom, ks, k, hws s s' hgives, hfresh, ?_, ?_⟩
      · rw [eraseDups_of_nodup hnodup.of_append_left, ← hlength, List.length_append,
          List.length_singleton]
      · rw [eraseDups_of_nodup hnodup]
  case finished =>
    intro ws hunfinished
    rcases collect_script (by omega) hlt hle (Sample.sound_empty total) ws with
      ⟨c, rest, hc⟩ | ⟨hstop, ys, c, hys, hspells⟩
    · exact absurd (outcome_subset_ok.2 ⟨hroom, c, hc, rfl⟩) (hunfinished _ _)
    · exact ⟨(outcome_subset_error hroom).2 hstop, ys, _, hys,
        spells_subset_of_collect hroom hspells⟩

/-- Two indices of three, and a script that ends in the middle of a redraw: it picks the index 1, and
the value of its second word is rejected. -/
theorem subset_progress_two :
    0 < 2 ∧ 2 ≤ 3 ∧ 3 < 9223372036854775808 ∧ 2 ≤ greatestSample
      ∧ (∃ ws, ws.length = 2 ∧ Spells (fun _ => subset 2 3) ws [2, 0])
      ∧ (subset 2 3).outcome ([4294967296, 9223372032559808512] : List UInt64)
        = some (.error .exhausted, [])
      ∧ ∃ ys l, ys.length ≤ 2
        ∧ Spells (fun _ => subset 2 3) ([4294967296, 9223372032559808512] ++ ys) l := by
  have hpos : 0 < 2 := by decide
  have hle : 2 ≤ 3 := by decide
  have hlt : 3 < 9223372036854775808 := by decide
  have hroom : 2 ≤ greatestSample := by decide
  obtain ⟨hdrawn, hfinished⟩ := subset_progress hpos hle hlt hroom
  have hadmits : Admitted 3 4294967296 := by
    unfold Admitted
    decide
  have hreject : ∀ y ∈ [9223372032559808512], ¬ Admitted 3 y := by
    rw [List.forall_mem_singleton]
    unfold Admitted
    decide
  have hnone : ∀ y ∈ ([] : List UInt64), ¬ Admitted 3 y := by simp
  have hfirst : Spells (fun _ => index 3) [4294967296] 1 :=
    spells_of_admitted (by decide) hlt hnone hadmits
  have hcollect : (collect 2 3 .empty).outcome ([4294967296, 9223372032559808512] : List UInt64)
      = some (.error .exhausted, []) := by
    have hgives : Gives ([4294967296, 9223372032559808512] : List UInt64) [4294967296]
        [9223372032559808512] := WordSource.gives_script.2 rfl
    have hgives' : Gives ([9223372032559808512] : List UInt64) [9223372032559808512] [] :=
      WordSource.gives_script.2 rfl
    have hmore : (Sample.empty.add 1).picked.size < 2 := by
      rw [Sample.picked_empty_add]
      decide
    rw [outcome_collect_of_spells (Nat.zero_lt_two) hfirst hgives,
      outcome_collect_of_rejected (by decide) hlt hmore hreject hgives', outcome_collect,
      if_neg (Nat.not_le.2 hmore), outcome_index_of_none (by decide) hlt rfl]
  have hunfinished : ∀ l rest, (subset 2 3).outcome
      ([4294967296, 9223372032559808512] : List UInt64) ≠ some (.ok l, rest) := by
    intro l rest h
    obtain ⟨-, c, hc, -⟩ := outcome_subset_ok.1 h
    rw [hcollect] at hc
    cases hc
  obtain ⟨hstop, hys⟩ := hfinished _ hunfinished
  exact ⟨hpos, hle, hlt, hroom, hdrawn [2, 0] (by decide) rfl (by decide), hstop, hys⟩

/-- A sample for which there is no room is refused, whatever the words are: none of these indices is
ever drawn in it. -/
theorem oversized_sample_refused :
    (List.range 504403158265495553).Nodup
      ∧ (List.range 504403158265495553).length = 504403158265495553
      ∧ (∀ k ∈ List.range 504403158265495553, k < 504403158265495553)
      ∧ 504403158265495553 < 9223372036854775808
      ∧ ∀ {σ : Type} [WordSource σ] (s : σ),
        (subset 504403158265495553 504403158265495553).outcome s
          = some (.error (.breach .setSize), s) := by
  refine ⟨List.nodup_range, List.length_range, fun k => List.mem_range.1, by decide, ?_⟩
  intro σ _ s
  rw [subset_oversized (by decide)]
  rfl

end FluxCorpus.Draw
