import FluxCorpus.Proofs.Random.Index
import FluxCorpus.Proofs.Random.Subset
import FluxCorpus.Proofs.Workload.Names

/-!
# A sample is a selection of first occurrences

A sample is drawn with a loop that keeps a set and a list of what it has picked.  Seen from outside it
is simpler: the index draws that it makes are made one after the other, as if there were no loop, and
the sample consists of their different values in the order in which they first came up.  The loop
ends with the draw that makes them as many as were asked for.

* `Draw.Sample.foldl_add_empty` — adding values one by one keeps their first occurrences.
* `Draw.subset_ok_iff` — a sample consists of the first occurrences in a row of index draws.
* `Draw.tags_of_first_occurrences` — **sampled names are a selection of first occurrences**, and what
  is refused takes no word.
-/

namespace FluxCorpus.Draw

open Process (Yields)

variable {σ : Type} [WordSource σ] {s s' : σ} {n total k : Nat} {ks l : List Nat}

/-! ## First occurrences -/

/-- One more value occurs for the first time, or it adds nothing. -/
theorem eraseDups_concat (ks : List Nat) (k : Nat) :
    (ks ++ [k]).eraseDups = if k ∈ ks then ks.eraseDups else ks.eraseDups ++ [k] := by
  rw [List.eraseDups_append, List.removeAll]
  by_cases hk : k ∈ ks
  · simp [hk]
  · simp [hk, List.eraseDups_cons]

theorem eraseDups_of_nodup (h : l.Nodup) : l.eraseDups = l := by
  induction l using List.reverseRecOn with
  | nil => rfl
  | append_singleton l k ih =>
    have hfresh : k ∉ l := fun hk => (List.disjoint_of_nodup_append h) hk (List.mem_singleton_self k)
    rw [eraseDups_concat, if_neg hfresh, ih h.of_append_left]

theorem length_eraseDups_le_of_prefix (h : l <+: ks) :
    l.eraseDups.length ≤ ks.eraseDups.length := by
  obtain ⟨rest, rfl⟩ := h
  rw [List.eraseDups_append, List.length_append]
  exact Nat.le_add_right _ _

namespace Sample

/-- The sample after some draws: the set holds all values, the list those that occurred first. -/
theorem foldl_add_empty (ks : List Nat) :
    (∀ k, k ∈ (ks.foldl add empty).seen ↔ k ∈ ks)
      ∧ (ks.foldl add empty).picked.toList = ks.eraseDups := by
  induction ks using List.reverseRecOn with
  | nil => simp [empty]
  | append_singleton ks k ih =>
    obtain ⟨hseen, hpicked⟩ := ih
    rw [List.foldl_concat, eraseDups_concat]
    by_cases hk : k ∈ ks
    · rw [add_of_mem ((hseen k).2 hk), if_pos hk]
      refine ⟨fun j => ?_, hpicked⟩
      rw [hseen, List.mem_append, List.mem_singleton]
      exact ⟨.inl, fun hj => hj.elim id fun heq => heq ▸ hk⟩
    · rw [add_of_not_mem ((hseen k).not.2 hk), if_neg hk]
      refine ⟨fun j => ?_, by rw [Array.toList_push, hpicked]⟩
      rw [Std.HashSet.mem_insert, hseen, List.mem_append, List.mem_singleton, beq_iff_eq, or_comm,
        eq_comm]

theorem size_foldl_add_empty (ks : List Nat) :
    (ks.foldl add empty).picked.size = ks.eraseDups.length := by
  rw [← Array.length_toList, (foldl_add_empty ks).2]

end Sample

/-! ## Samples -/

/-- **A sample is a selection of first occurrences.**  It consists of the different values of index
draws in a row, in the order in which they first came up, and the last draw is the one that made them
as many as were asked for. -/
theorem subset_ok_iff (hn : 0 < n) :
    (subset n total).outcome s = some (.ok l, s') ↔
      n ≤ greatestSample ∧ ∃ ks k, Yields (index total) s (ks ++ [k]) s' ∧ k ∉ ks
        ∧ ks.eraseDups.length + 1 = n ∧ l = (ks ++ [k]).eraseDups := by
  rw [outcome_subset_ok]
  refine and_congr_right fun _ => ?_
  constructor
  · rintro ⟨c, hc, rfl⟩
    obtain ⟨ks, hks, rfl, henough, hbefore⟩ := collect_ok_iff.1 hc
    rw [Sample.size_foldl_add_empty] at henough
    rcases List.eq_nil_or_concat' ks with rfl | ⟨ks, k, rfl⟩
    · simp at henough
      omega
    · have hlast := hbefore ks (List.prefix_append ks [k]) (by simp)
      rw [Sample.size_foldl_add_empty] at hlast
      rw [eraseDups_concat] at henough
      have hfresh : k ∉ ks := by
        intro hk
        rw [if_pos hk] at henough
        omega
      rw [if_neg hfresh, List.length_append, List.length_singleton] at henough
      exact ⟨ks, k, hks, hfresh, by omega, (Sample.foldl_add_empty _).2⟩
  · rintro ⟨ks, k, hks, hfresh, hlength, rfl⟩
    refine ⟨_, collect_ok_iff.2 ⟨ks ++ [k], hks, rfl, ?_, ?_⟩, (Sample.foldl_add_empty _).2⟩
    · rw [Sample.size_foldl_add_empty, eraseDups_concat, if_neg hfresh, List.length_append,
        List.length_singleton, hlength]
    · intro ks₀ hprefix hne
      have hprefix' := (List.prefix_concat_iff.1 hprefix).resolve_left hne
      have hle := length_eraseDups_le_of_prefix hprefix'
      rw [Sample.size_foldl_add_empty]
      omega

/-- **Sampled names are a selection of first occurrences.**  Without any, or with more than there are,
they are refused before a word is taken.  Otherwise they are returned if and only if index draws in a
row have as many different values as were asked for, and not before the last of these draws; they are
the names of these values in the order in which they first came up.  Names that are returned are all
different, and belong to indices below the scale. -/
theorem tags_of_first_occurrences (kind : TagKind) (n scale : Nat) (s : σ) :
    (n = 0 → (tags kind n scale).outcome s = some (.error (.fault (.tooFewTags kind n)), s))
      ∧ (0 < n → scale < n →
        (tags kind n scale).outcome s = some (.error (.fault (.tooManyTags kind n scale)), s))
      ∧ (0 < n → n ≤ scale → ∀ (names : List String) (s' : σ),
        (tags kind n scale).outcome s = some (.ok names, s') ↔
          n ≤ greatestSample ∧ ∃ ks k, Yields (index scale) s (ks ++ [k]) s' ∧ k ∉ ks
            ∧ ks.eraseDups.length + 1 = n ∧ names = (ks ++ [k]).eraseDups.map kind.writtenName)
      ∧ (∀ (names : List String) (s' : σ), (tags kind n scale).outcome s = some (.ok names, s') →
        names.Nodup ∧ names.length = n)
      ∧ ∀ (ks : List Nat) (s' : σ), Yields (index scale) s ks s' → ∀ k ∈ ks, k < scale := by
  rw [← kind.member_eq]
  refine ⟨?few, ?many, ?selected, ?different, fun ks s' => lt_of_yields_index⟩
  case few =>
    intro hn
    rw [tags, if_pos (by omega)]
    rfl
  case many =>
    intro hpos hmany
    rw [tags, if_neg (by omega), if_pos hmany]
    rfl
  case selected =>
    intro hpos hle names s'
    rw [outcome_tags_ok]
    constructor
    · rintro ⟨-, -, l, hl, rfl⟩
      obtain ⟨hroom, ks, k, hks, hfresh, hlength, rfl⟩ := (subset_ok_iff hpos).1 hl
      exact ⟨hroom, ks, k, hks, hfresh, hlength, rfl⟩
    · rintro ⟨hroom, ks, k, hks, hfresh, hlength, rfl⟩
      exact ⟨hpos, hle, _, (subset_ok_iff hpos).2 ⟨hroom, ks, k, hks, hfresh, hlength, rfl⟩, rfl⟩
  case different =>
    intro names s' h
    obtain ⟨-, -, l, hl, rfl⟩ := outcome_tags_ok.1 h
    obtain ⟨hnodup, hlength, -⟩ := subset_sound hl
    exact ⟨hnodup.map kind.member_injective, by rw [List.length_map, hlength]⟩

/-- Two trucks of ten: the second draw repeats the first one, and the word behind the third one is
left. -/
theorem tags_of_first_occurrences_two :
    0 < 2 ∧ 2 ≤ 10
      ∧ (tags .truck 2 10).outcome ([21474836480, 21474836480, 12884901888, 7] : List UInt64)
        = some (.ok ["truck_5", "truck_3"], [7])
      ∧ ["truck_5", "truck_3"].Nodup := by
  have hpos : 0 < 2 := by decide
  have hle : 2 ≤ 10 := by decide
  obtain ⟨-, -, hselected, hdifferent, -⟩ :=
    tags_of_first_occurrences .truck 2 10 ([21474836480, 21474836480, 12884901888, 7] : List UInt64)
  have hdraw : ∀ (x : UInt64) (xs : List UInt64), Width.short.read x < 10 →
      (index 10).outcome (x :: xs) = some (.ok (Width.short.read x), xs) := by
    intro x xs hx
    rw [index_eq_below (by decide) (by decide)]
    exact below_of_read (by decide) hx rfl
  have hreturned := (hselected hpos hle ["truck_5", "truck_3"] [7]).2
    ⟨by decide, [5, 5], 3, ⟨_, hdraw _ _ (by decide), _, hdraw _ _ (by decide), _,
      hdraw _ _ (by decide), rfl⟩, by decide, by decide, rfl⟩
  exact ⟨hpos, hle, hreturned, (hdifferent _ _ hreturned).1⟩

end FluxCorpus.Draw
