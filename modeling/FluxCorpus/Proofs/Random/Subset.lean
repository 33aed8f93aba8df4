import FluxCorpus.Proofs.Random.Unbiased
import FluxCorpus.Random.Subset
import FluxCorpus.Workload.Tag
import Mathlib.Data.List.Nodup

/-!
# Samples have no repetitions

A sample that is drawn consists of as many different indices as were asked for, all of them below
the total.

* `Sample.Sound` — the set is the set of the picked indices, which are different and below the
  total: what every step of the loop keeps.
* `collect_ok_iff` — what the loop collects, from any sample on.
* `subset_sound` — a sample that is returned has these properties, and the right size.
* `neverStops_subset` — on an endless source nothing but the counts can stop a sample.
* `outcome_tags_ok` — the names of a sample are made of its indices, in draw order.
* `outcome_fleet` — a fleet takes exactly one word.
-/

namespace FluxCorpus

namespace Draw

open Process (Yields)

variable {σ : Type} [WordSource σ] {s s' : σ} {n total : Nat} {ks : List Nat}

/-! ## The loop -/

/-- What holds of the picked indices at every step. -/
structure Sample.Sound (total : Nat) (c : Sample) : Prop where
  seen (k : Nat) : k ∈ c.seen ↔ k ∈ c.picked.toList
  nodup : c.picked.toList.Nodup
  lt : ∀ k ∈ c.picked.toList, k < total

namespace Sample

theorem sound_empty (total : Nat) : Sound total empty where
  seen k := by simp [empty]
  nodup := by simp [empty]
  lt := by simp [empty]

theorem add_of_mem {c : Sample} {k : Nat} (hk : k ∈ c.seen) : c.add k = c := by
  rw [add, if_pos (Std.HashSet.mem_iff_contains.1 hk)]

theorem add_of_not_mem {c : Sample} {k : Nat} (hk : k ∉ c.seen) :
    c.add k = ⟨c.seen.insert k, c.picked.push k⟩ := by
  rw [add, if_neg (Std.HashSet.mem_iff_contains.not.1 hk)]

theorem Sound.add {c : Sample} (h : c.Sound total) {k : Nat} (hk : k < total) :
    (c.add k).Sound total := by
  by_cases hseen : k ∈ c.seen
  · rw [add_of_mem hseen]
    exact h
  · have hfresh : k ∉ c.picked.toList := (h.seen k).not.1 hseen
    rw [add_of_not_mem hseen]
    constructor
    · intro j
      rw [Std.HashSet.mem_insert, h.seen j, Array.toList_push, List.mem_append, List.mem_singleton,
        beq_iff_eq, or_comm, eq_comm]
    · rw [Array.toList_push, List.nodup_append]
      refine ⟨h.nodup, List.nodup_singleton k, ?_⟩
      rintro i hi j hj rfl
      rw [List.mem_singleton] at hj
      subst hj
      exact hfresh hi
    · intro j hj
      rw [Array.toList_push, List.mem_append, List.mem_singleton] at hj
      obtain hj | rfl := hj
      · exact h.lt j hj
      · exact hk

theorem Sound.foldl_add {c : Sample} (h : c.Sound total) (hks : ∀ k ∈ ks, k < total) :
    (ks.foldl Sample.add c).Sound total := by
  induction ks generalizing c with
  | nil => exact h
  | cons k ks ih =>
    obtain ⟨hk, hks⟩ := List.forall_mem_cons.1 hks
    exact ih (h.add hk) hks

theorem picked_empty_add (k : Nat) : (empty.add k).picked = #[k] := by
  simp [Sample.add, empty]

theorem size_add_le (c : Sample) (k : Nat) : (c.add k).picked.size ≤ c.picked.size + 1 := by
  rw [Sample.add]
  split
  · exact Nat.le_succ _
  · rw [Array.size_push]

end Sample

/-- Collecting ends when enough is picked, and else goes on with one more index. -/
theorem outcome_collect (n total : Nat) (c : Sample) (s : σ) :
    (collect n total c).outcome s =
      if n ≤ c.picked.size then some (.ok c, s)
      else match (index total).outcome s with
        | some (.ok k, t) => (collect n total (c.add k)).outcome t
        | some (.error e, t) => some (.error e, t)
        | none => none := by
  unfold collect
  rw [Process.outcome_loop]
  by_cases henough : n ≤ c.picked.size
  · rw [if_pos henough, if_pos henough]
    rfl
  · rw [if_neg henough, if_neg henough, Process.outcome_bind]
    cases (index total).outcome s with
    | none => rfl
    | some r => obtain ⟨e | k, t⟩ := r <;> rfl

/-- Index draws in a row stay below the total. -/
theorem lt_of_yields_index (h : Yields (index total) s ks s') : ∀ k ∈ ks, k < total := by
  induction ks generalizing s with
  | nil => simp
  | cons k ks ih =>
    obtain ⟨t, hk, hks⟩ := h
    intro j hj
    rcases List.mem_cons.1 hj with rfl | hj
    · exact lt_of_index hk
    · exact ih hks j hj

/-- **What the loop collects.**  It adds the values of index draws in a row, up to the first one with
which enough is picked. -/
theorem collect_ok_iff {c c' : Sample} :
    (collect n total c).outcome s = some (.ok c', s') ↔
      ∃ ks, Yields (index total) s ks s' ∧ c' = ks.foldl Sample.add c ∧ n ≤ c'.picked.size
        ∧ ∀ ks₀, ks₀ <+: ks → ks₀ ≠ ks → (ks₀.foldl Sample.add c).picked.size < n := by
  constructor
  · -- the invariant: the draws so far, each of which was made with too little picked
    intro h
    refine Process.outcome_loop_of_invariant
      (I := fun c₁ t => ∃ ks, Yields (index total) s ks t ∧ c₁ = ks.foldl Sample.add c
        ∧ ∀ ks₀, ks₀ <+: ks → ks₀ ≠ ks → (ks₀.foldl Sample.add c).picked.size < n)
      (Q := fun r s' => ∀ c', r = .ok c' → ∃ ks, Yields (index total) s ks s'
        ∧ c' = ks.foldl Sample.add c ∧ n ≤ c'.picked.size
        ∧ ∀ ks₀, ks₀ <+: ks → ks₀ ≠ ks → (ks₀.foldl Sample.add c).picked.size < n)
      ?next ?done ?stop ⟨[], rfl, rfl, by simp⟩ h c' rfl
    case next =>
      rintro _ t _ t' ⟨ks, hks, rfl, hbefore⟩ hstep
      split at hstep
      · cases hstep
      · next hmore =>
        obtain ⟨k, t₁, hk, hc⟩ := Process.outcome_bind_ok.1 hstep
        cases hc
        refine ⟨ks ++ [k], Process.yields_append.2 ⟨t, hks, by simpa using hk⟩, by simp, ?_⟩
        intro ks₀ hprefix hne
        have hprefix' := (List.prefix_concat_iff.1 hprefix).resolve_left hne
        by_cases heq : ks₀ = ks
        · rw [heq]
          exact Nat.not_le.1 hmore
        · exact hbefore ks₀ hprefix' heq
    case done =>
      rintro _ t _ t' ⟨ks, hks, rfl, hbefore⟩ hstep
      split at hstep
      · next henough =>
        cases hstep
        rintro _ ⟨⟩
        exact ⟨ks, hks, rfl, henough, hbefore⟩
      · obtain ⟨k, t₁, -, hc⟩ := Process.outcome_bind_ok.1 hstep
        cases hc
    case stop =>
      rintro _ _ _ _ _ _ _ ⟨⟩
  · rintro ⟨ks, hks, rfl, henough, hbefore⟩
    induction ks generalizing c s with
    | nil =>
      cases hks
      rw [outcome_collect, if_pos (by exact henough)]
      rfl
    | cons k ks ih =>
      obtain ⟨t, hk, hks⟩ := hks
      have hmore : c.picked.size < n := hbefore [] List.nil_prefix (by simp)
      rw [outcome_collect, if_neg (Nat.not_le.2 hmore), hk]
      refine ih hks henough fun ks₀ hprefix hne => ?_
      exact hbefore (k :: ks₀) (List.prefix_cons_inj k |>.2 hprefix) (by simpa using hne)

/-- When the loop ends it has picked as many indices as were asked for. -/
theorem collect_sound {c : Sample}
    (h : (collect n total .empty).outcome s = some (.ok c, s')) :
    c.Sound total ∧ c.picked.size = n := by
  obtain ⟨ks, hks, rfl, henough, hbefore⟩ := collect_ok_iff.1 h
  refine ⟨(Sample.sound_empty total).foldl_add (lt_of_yields_index hks), ?_⟩
  rcases List.eq_nil_or_concat' ks with rfl | ⟨ks, k, rfl⟩
  · exact Nat.le_antisymm (Nat.zero_le n) henough
  · -- the last draw was made with too little picked, and adds no more than one index
    have hlast := hbefore ks (List.prefix_append ks [k]) (by simp)
    have hadd := (ks.foldl Sample.add .empty).size_add_le k
    rw [List.foldl_concat] at henough ⊢
    omega

/-- Collecting stops only with one of its index draws. -/
theorem collect_error {c : Sample} {e : Stop}
    (h : (collect n total c).outcome s = some (.error e, s')) :
    ∃ t, (index total).outcome t = some (.error e, s') := by
  refine Process.outcome_loop_of_invariant (I := fun _ _ => True)
    (Q := fun r s' => ∀ e, r = .error e → ∃ t, (index total).outcome t = some (.error e, s'))
    ?next ?done ?stop trivial h e rfl
  case next =>
    intro _ _ _ _ _ _
    trivial
  case done =>
    rintro _ _ _ _ _ _ _ ⟨⟩
  case stop =>
    rintro c t e t' - hstep _ ⟨⟩
    split at hstep
    · cases hstep
    · obtain hindex | ⟨k, t₁, -, hc⟩ := Process.outcome_bind_error.1 hstep
      · exact ⟨t, hindex⟩
      · cases hc

/-! ## Samples -/

/-- A sample for which there is no room is refused. -/
theorem subset_oversized (hbig : greatestSample < n) :
    (subset n total : Draw σ (List Nat)) = throw (.breach .setSize) := by
  rw [subset, if_pos hbig]
  rfl

theorem outcome_subset_ok {l : List Nat} :
    (subset n total).outcome s = some (.ok l, s') ↔
      n ≤ greatestSample ∧
        ∃ c, (collect n total .empty).outcome s = some (.ok c, s') ∧ c.picked.toList = l := by
  by_cases hbig : greatestSample < n
  · rw [subset_oversized hbig]
    constructor
    · intro h
      cases h
    · rintro ⟨hroom, -⟩
      omega
  · rw [subset, if_neg hbig]
    dsimp only
    rw [Process.outcome_bind_ok]
    constructor
    · rintro ⟨c, t, hc, hl⟩
      cases hl
      exact ⟨by omega, c, hc, rfl⟩
    · rintro ⟨-, c, hc, rfl⟩
      exact ⟨c, s', hc, rfl⟩

/-- A sample for which there is room stops where the loop does. -/
theorem outcome_subset_error {e : Stop} (hroom : n ≤ greatestSample) :
    (subset n total).outcome s = some (.error e, s')
      ↔ (collect n total .empty).outcome s = some (.error e, s') := by
  rw [subset, if_neg (by omega)]
  dsimp only
  rw [Process.outcome_bind_error]
  constructor
  · rintro (hstop | ⟨c, t, -, hpure⟩)
    · exact hstop
    · cases hpure
  · exact .inl

/-- **A sample has no repetitions**, the right size, and indices below the total. -/
theorem subset_sound {l : List Nat} (h : (subset n total).outcome s = some (.ok l, s')) :
    l.Nodup ∧ l.length = n ∧ ∀ k ∈ l, k < total := by
  obtain ⟨-, c, hc, rfl⟩ := outcome_subset_ok.1 h
  obtain ⟨hsound, hsize⟩ := collect_sound hc
  exact ⟨hsound.nodup, by rw [Array.length_toList, hsize], hsound.lt⟩

/-- On an endless source a sample never stops, if there is room for it and the total is a positive
number of 63 bits. -/
theorem neverStops_subset [WordSource.Endless σ] (hn : n ≤ greatestSample) (hpos : 0 < total)
    (hlt : total < Width.long.range) : (subset n total : Draw σ (List Nat)).NeverStops := by
  intro s e s' h
  obtain ⟨t, hindex⟩ := collect_error ((outcome_subset_error hn).1 h)
  exact neverStops_index hpos hlt t e s' hindex

/-! ## Names -/

/-- Names are returned if the count fits and the sample is. -/
theorem outcome_tags_ok {kind : TagKind} {scale : Nat} {names : List String} :
    (tags kind n scale).outcome s = some (.ok names, s') ↔
      1 ≤ n ∧ n ≤ scale ∧
        ∃ l, (subset n scale).outcome s = some (.ok l, s') ∧ names = l.map kind.member := by
  rw [tags]
  split
  · next hfew =>
    constructor
    · intro h
      cases h
    · rintro ⟨hn, -⟩
      omega
  split
  · next hmany =>
    constructor
    · intro h
      cases h
    · rintro ⟨-, hn, -⟩
      omega
  · rw [Process.outcome_bind_ok]
    constructor
    · rintro ⟨l, t, hl, hnames⟩
      cases hnames
      exact ⟨by omega, by omega, l, hl, rfl⟩
    · rintro ⟨-, -, l, hl, rfl⟩
      exact ⟨l, s', hl, rfl⟩

/-- Names are never returned without any. -/
theorem tags_ne_nil {kind : TagKind} {scale : Nat} {names : List String}
    (h : (tags kind n scale).outcome s = some (.ok names, s')) : names ≠ [] := by
  obtain ⟨hpos, -, l, hl, rfl⟩ := outcome_tags_ok.1 h
  obtain ⟨-, hlength, -⟩ := subset_sound hl
  rw [ne_eq, List.map_eq_nil_iff, ← List.length_eq_zero_iff, hlength]
  exact Nat.one_le_iff_ne_zero.1 hpos

/-! ## Why a draw stops -/

/-- On an endless source names are refused for their number only: there are none asked for, or more
than there are, or more than a set can hold. -/
theorem outcome_tags_error [WordSource.Endless σ] {kind : TagKind} {scale : Nat} {e : Stop}
    (hpos : 0 < scale) (hlt : scale < Width.long.range)
    (h : (tags kind n scale).outcome s = some (.error e, s')) :
    n < 1 ∧ e = .fault (.tooFewTags kind n)
      ∨ 1 ≤ n ∧ scale < n ∧ e = .fault (.tooManyTags kind n scale)
      ∨ 1 ≤ n ∧ n ≤ scale ∧ greatestSample < n ∧ e = .breach .setSize := by
  rw [tags] at h
  split at h
  · next hfew =>
    cases h
    exact .inl ⟨hfew, rfl⟩
  split at h
  · next hmany =>
    cases h
    exact .inr (.inl ⟨by omega, hmany, rfl⟩)
  by_cases hbig : greatestSample < n
  · rw [subset_oversized hbig] at h
    cases h
    exact .inr (.inr ⟨by omega, by omega, hbig, rfl⟩)
  · have hsubset : (subset n scale : Draw σ (List Nat)).NeverStops :=
      neverStops_subset (by omega) hpos hlt
    exact absurd h ((hsubset.bind fun _ => Process.neverStops_pure _) s e s')

/-- On an endless source there always is a fleet. -/
theorem neverStops_fleet [WordSource.Endless σ] : (fleet : Draw σ String).NeverStops := by
  intro s e s' h
  rw [fleet, Process.outcome_bind_error] at h
  obtain h | ⟨k, t, hk, h⟩ := h
  · exact neverStops_index (by decide) (by decide) s e s' h
  · have hlt := lt_of_index hk
    rw [List.getElem?_eq_getElem hlt] at h
    cases h

/-- A fleet takes exactly one word, since there is a power of two of them. -/
theorem outcome_fleet (g : Lagged) :
    ∃ f, (fleet : Draw Lagged String).outcome g = some (.ok f, g.step.2) := by
  have hindex : (index fleets.length).outcome g
      = some (.ok (Width.short.read g.step.1 &&& 3), g.step.2) :=
    outcome_below_of_and_eq_zero .short (n := 4) (by decide) g
  have hlt := lt_of_index hindex
  refine ⟨fleets[Width.short.read g.step.1 &&& 3], ?_⟩
  rw [fleet, Process.outcome_bind, hindex]
  dsimp only
  rw [List.getElem?_eq_getElem hlt]
  rfl

/-- The sample of all there is, if there is just one. -/
theorem outcome_tags_one (kind : TagKind) (g : Lagged) :
    (tags kind 1 1).outcome g = some (.ok [kind.member 0], g.step.2) := by
  have hcollect : (collect 1 1 .empty).outcome g
      = some (.ok (Sample.empty.add 0), g.step.2) := by
    rw [collect, Process.outcome_loop, if_neg (by decide), Process.outcome_bind,
      outcome_index_one]
    dsimp only
    rw [Process.outcome_pure]
    dsimp only
    have hsize : 1 ≤ (Sample.empty.add 0).picked.size := by rw [Sample.picked_empty_add]; decide
    rw [Process.outcome_loop, if_pos hsize, Process.outcome_pure]
  refine outcome_tags_ok.2 ⟨le_rfl, le_rfl, [0], ?_, rfl⟩
  exact outcome_subset_ok.2 ⟨by decide, _, hcollect, by rw [Sample.picked_empty_add]⟩

end Draw

end FluxCorpus
