import FluxCorpus.Proofs.Random.Unbiased

/-!
# What an index draw promises

An index draw is asked for an index below its bound.  It can be stopped only by a source that has no
more words, it returns an index below the bound, and each of these indices is the one that some word
spells: so much holds for every bound of up to 63 bits.

Of a bound of 64 bits only the low 32 count, read with their sign.  If these are not positive the
draw is a breach, and else it never returns an index beyond them.

* `Draw.Spells` — some words on which a draw returns a value, whatever source hands them out.
* `Draw.index_eq_below` — an index draw is a draw of one width.
* `Draw.spells_index` — every index below the bound is spelled by a word.
* `Draw.KeepsPromise`, `Draw.keepsPromise_iff` — **exactly the bounds of up to 63 bits are safe**, and
  `Draw.promise_broken`, one that is not.
-/

namespace FluxCorpus.Draw

open WordSource (Gives)

variable {σ : Type} [WordSource σ] {s s' : σ} {w : Width} {n k : Nat}

/-! ## Words that spell a value -/

/-- Some words spell a value, if a draw returns it on every source that hands out these words, and
takes no word behind them. -/
def Spells {α : Type} (x : (σ : Type) → [WordSource σ] → Draw σ α) (ws : List UInt64) (a : α) :
    Prop :=
  ∀ (σ : Type) [WordSource σ] (s s' : σ), Gives s ws s' → (x σ).outcome s = some (.ok a, s')

/-- What some words spell is drawn from a script that begins with them. -/
theorem Spells.script {α : Type} {x : (σ : Type) → [WordSource σ] → Draw σ α} {ws : List UInt64}
    {a : α} (h : Spells x ws a) (rest : List UInt64) :
    (x (List UInt64)).outcome (ws ++ rest) = some (.ok a, rest) :=
  h _ _ _ (WordSource.gives_script.2 rfl)

/-! ## The width of an index -/

/-- The width of the values that are taken for an index below a bound of up to 63 bits. -/
def indexWidth (n : Nat) : Width := if n < Width.short.range then .short else .long

theorem lt_range_indexWidth (hlt : n < Width.long.range) : n < (indexWidth n).range := by
  unfold indexWidth
  split
  · next hshort => exact hshort
  · exact hlt

theorem index_eq_below (hn : 0 < n) (hlt : n < Width.long.range) :
    (index n : Draw σ Nat) = below (indexWidth n) n := by
  rw [index, if_neg hn.ne', if_pos hlt, indexWidth]
  split
  · exact bounded_eq_below .short hn
  · exact bounded_eq_below .long hn

/-- Every index below the bound is spelled by a word. -/
theorem spells_index (hlt : n < Width.long.range) (hk : k < n) :
    ∃ x, Spells (fun _ => index n) [x] k := by
  obtain ⟨x, rfl⟩ := Width.exists_read (hk.trans (lt_range_indexWidth hlt))
  refine ⟨x, fun σ _ s s' hgives => ?_⟩
  show (index n : Draw σ Nat).outcome s = _
  rw [index_eq_below (by omega) hlt]
  exact below_of_read (lt_range_indexWidth hlt) hk (WordSource.gives_singleton.1 hgives)

/-! ## The promise -/

/-- What an index draw is expected to do with a bound: nothing but the end of its words stops it, an
index that it returns is below the bound, and every such index is spelled by some word. -/
structure KeepsPromise (n : Nat) : Prop where
  stops : ∀ {σ : Type} [WordSource σ] (s s' : σ) (e : Stop),
    (index n).outcome s = some (.error e, s') → e = .exhausted
  lt : ∀ {σ : Type} [WordSource σ] (s s' : σ) (k : Nat),
    (index n).outcome s = some (.ok k, s') → k < n
  reaches : ∀ k < n, ∃ x, Spells (fun _ => index n) [x] k

theorem keepsPromise_of_lt (hn : 0 < n) (hlt : n < Width.long.range) : KeepsPromise n where
  stops s s' e h := by
    rw [index_eq_below hn hlt] at h
    exact eq_exhausted_of_below hn (lt_range_indexWidth hlt) h
  lt _ _ _ h := lt_of_index h
  reaches _ hk := spells_index hlt hk

theorem lt_of_index_vast (hn : Width.long.range ≤ n)
    (h : (index n).outcome s = some (.ok k, s')) : (k : Int) < Int.bmod n 4294967296 := by
  rw [index_of_vast hn] at h
  exact lt_of_shortBelow h

/-- No bound of 64 bits is safe: the draw is a breach, or the last index is out of its reach. -/
theorem not_keepsPromise_of_vast (hn : Width.long.range ≤ n) : ¬ KeepsPromise n := by
  intro h
  by_cases hbound : Int.bmod n 4294967296 ≤ 0
  · have hstop := h.stops _ _ _ (outcome_index_of_vast hn hbound ([] : List UInt64))
    cases hstop
  · simp only [Width.range] at hn
    obtain ⟨x, hx⟩ := h.reaches (n - 1) (by omega)
    have hlast := lt_of_index_vast hn (hx.script [])
    have hhalf := bmod_lt_half n
    omega

/-- If the low half of a bound of 64 bits is positive, it is the bound of the draw. -/
theorem index_of_vast_pos (hn : Width.long.range ≤ n) (hbound : 0 < Int.bmod n 4294967296) :
    (index n : Draw σ Nat) = index (Int.bmod n 4294967296).toNat := by
  have hhalf := bmod_lt_half n
  rw [index_of_vast hn, index, if_neg (by omega), if_pos (by simp only [Width.range]; omega),
    Int.toNat_of_nonneg hbound.le]

/-- **Which bounds are safe.**  An index draw keeps its promise for the bounds of 1 to 63 bits and for
no others.  An index that it returns is always below the bound.  But a bound of 64 bits is cut to its
low 32 bits, read with their sign: if these are not positive, the draw is a breach whatever the words
are, and else it is the draw below them, which leaves out all greater indices. -/
theorem keepsPromise_iff (n : Nat) :
    (KeepsPromise n ↔ 0 < n ∧ n < 9223372036854775808)
      ∧ (∀ {σ : Type} [WordSource σ] (s s' : σ) (k : Nat),
        (index n).outcome s = some (.ok k, s') → k < n)
      ∧ (9223372036854775808 ≤ n →
        (Int.bmod n 4294967296 ≤ 0 → ∀ {σ : Type} [WordSource σ] (s : σ),
          (index n).outcome s
            = some (.error (.breach (.shortBound (Int.bmod n 4294967296))), s))
        ∧ (0 < Int.bmod n 4294967296 → Int.bmod n 4294967296 < 2147483648
          ∧ KeepsPromise (Int.bmod n 4294967296).toNat
          ∧ ∀ (σ : Type) [WordSource σ],
            (index n : Draw σ Nat) = index (Int.bmod n 4294967296).toNat)) := by
  refine ⟨⟨?safe, ?sound⟩, ?below, ?vast⟩
  case safe =>
    intro h
    have hpos : 0 < n := by
      rcases Nat.eq_zero_or_pos n with rfl | hpos
      · have hzero : (index 0).outcome ([] : List UInt64) = some (.error (.breach .indexBound), []) :=
          rfl
        have hstop := h.stops _ _ _ hzero
        cases hstop
      · exact hpos
    exact ⟨hpos, not_le.1 fun hn => not_keepsPromise_of_vast hn h⟩
  case sound =>
    rintro ⟨hpos, hlt⟩
    exact keepsPromise_of_lt hpos hlt
  case below =>
    intro σ _ s s' k h
    exact lt_of_index h
  case vast =>
    intro hn
    refine ⟨?_, ?_⟩
    · intro hbound σ _ s
      exact outcome_index_of_vast hn hbound s
    · intro hbound
      have hhalf := bmod_lt_half n
      refine ⟨hhalf, keepsPromise_of_lt (by omega) (by simp only [Width.range]; omega), ?_⟩
      intro σ _
      exact index_of_vast_pos hn hbound

/-- The least bound of 64 bits ends in 32 zeros, and a draw below it is a breach. -/
theorem promise_broken :
    ¬ KeepsPromise 9223372036854775808
      ∧ (index 9223372036854775808).outcome ([0] : List UInt64)
        = some (.error (.breach (.shortBound 0)), [0]) := by
  have hn : Width.long.range ≤ 9223372036854775808 := by decide
  exact ⟨not_keepsPromise_of_vast hn, outcome_index_of_vast hn (by decide) _⟩

end FluxCorpus.Draw
