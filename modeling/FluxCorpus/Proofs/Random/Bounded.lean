import FluxCorpus.Random.Bounded
import FluxCorpus.Random.Lagged

/-!
# What bounded draws return

A bounded draw that returns a value returns one below its bound.  It stops for two reasons only: its
source has no more words, or its bound admits no value.

* `lt_of_longBelow`, `lt_of_index` — the value is below the bound.
* `Process.NeverStops` — a computation that ends with a value or not at all; kept by sequences and
  loops.
* `WordSource.Endless` — a source that does not run out, such as the lagged one.
* `neverStops_longBelow`, `neverStops_index` — on an endless source, only the bound can stop a draw.
* `outcome_below_of_and_eq_zero` — a bound that divides the range takes exactly one word.
-/

namespace FluxCorpus

/-! ## Computations that never stop -/

namespace Process

variable {σ α β : Type}

/-- A computation that ends with a value, or goes on for ever. -/
def NeverStops (x : Process σ α) : Prop := ∀ s e s', x.outcome s ≠ some (.error e, s')

theorem neverStops_pure (a : α) : (pure a : Process σ α).NeverStops := by
  intro s e s' h
  rw [outcome_pure] at h
  cases h

theorem NeverStops.bind {x : Process σ α} {f : α → Process σ β} (hx : x.NeverStops)
    (hf : ∀ a, (f a).NeverStops) : (x >>= f).NeverStops := by
  intro s e s' h
  rw [outcome_bind_error] at h
  obtain h | ⟨a, t, -, h⟩ := h
  · exact hx s e s' h
  · exact hf a t e s' h

theorem NeverStops.loop {step : α → Process σ (α ⊕ β)} (h : ∀ a, (step a).NeverStops) (a : α) :
    (loop step a).NeverStops := by
  intro s e s' hloop
  refine outcome_loop_of_invariant (I := fun _ _ => True) (Q := fun r _ => ∀ e, r ≠ .error e)
    ?_ ?_ ?_ trivial hloop e rfl
  · intro _ _ _ _ _ _
    trivial
  · intro _ _ _ _ _ _ e he
    cases he
  · intro a s e s' _ hstop
    exact absurd hstop (h a s e s')

end Process

/-! ## Sources that never run out -/

/-- A source that always has another word. -/
class WordSource.Endless (σ : Type) [WordSource σ] : Prop where
  next?_ne_none (s : σ) : WordSource.next? s ≠ none

instance : WordSource.Endless Lagged where
  next?_ne_none _ := Option.some_ne_none _

namespace Draw

variable {σ : Type} [WordSource σ]

section Endless

variable [WordSource.Endless σ]

theorem neverStops_word : (word : Draw σ UInt64).NeverStops := by
  intro s e s' h
  rw [outcome_word] at h
  cases hnext : WordSource.next? s with
  | none => exact WordSource.Endless.next?_ne_none s hnext
  | some r =>
    rw [hnext] at h
    cases h

theorem neverStops_value (w : Width) : (value w : Draw σ Nat).NeverStops :=
  neverStops_word.bind fun _ => Process.neverStops_pure _

theorem neverStops_redraw (w : Width) (limit : Nat) : (redraw w limit : Draw σ Nat).NeverStops :=
  Process.NeverStops.loop (fun _ => (neverStops_value w).bind fun _ => Process.neverStops_pure _) ()

theorem neverStops_below (w : Width) (n : Nat) : (below w n : Draw σ Nat).NeverStops := by
  rw [below]
  split
  · exact (neverStops_value w).bind fun _ => Process.neverStops_pure _
  · exact (neverStops_redraw w _).bind fun _ => Process.neverStops_pure _

/-- On an endless source a long draw always returns, if its bound admits a value. -/
theorem neverStops_longBelow {n : Int} (hn : 0 < n) : (longBelow n : Draw σ Nat).NeverStops := by
  rw [longBelow, if_neg (by omega)]
  exact neverStops_below _ _

theorem neverStops_shortBelow {n : Int} (hn : 0 < n) : (shortBelow n : Draw σ Nat).NeverStops := by
  rw [shortBelow, if_neg (by omega)]
  exact neverStops_below _ _

/-- On an endless source an index draw always returns, if its bound is a positive number of 63
bits. -/
theorem neverStops_index {n : Nat} (hn : 0 < n) (hlt : n < Width.long.range) :
    (index n : Draw σ Nat).NeverStops := by
  rw [index, if_neg (by omega), if_pos hlt]
  split
  · exact neverStops_shortBelow (by omega)
  · exact neverStops_longBelow (by omega)

end Endless

/-! ## Values and bounds -/

variable {s s' : σ} {k : Nat}

theorem lt_of_below {w : Width} {n : Nat} (hn : 0 < n)
    (h : (below w n).outcome s = some (.ok k, s')) : k < n := by
  rw [below] at h
  split at h
  · obtain ⟨v, t, -, hk⟩ := Process.outcome_bind_ok.1 h
    cases hk
    have hle : v &&& (n - 1) ≤ n - 1 := Nat.and_le_right
    omega
  · obtain ⟨v, t, -, hk⟩ := Process.outcome_bind_ok.1 h
    cases hk
    exact Nat.mod_lt v hn

/-- A long draw returns a value below its bound. -/
theorem lt_of_longBelow {n : Int} (h : (longBelow n).outcome s = some (.ok k, s')) :
    (k : Int) < n := by
  rw [longBelow] at h
  split at h
  · cases h
  · have := lt_of_below (by omega) h
    omega

/-- A short draw returns a value below its bound. -/
theorem lt_of_shortBelow {n : Int} (h : (shortBelow n).outcome s = some (.ok k, s')) :
    (k : Int) < n := by
  rw [shortBelow] at h
  split at h
  · cases h
  · have := lt_of_below (by omega) h
    omega

/-- The low 32 bits of a number, read with their sign, are a number of 31 bits. -/
theorem bmod_lt_half (n : Nat) : Int.bmod n 4294967296 < 2147483648 := by
  simpa using Int.bmod_lt (x := n) (m := 4294967296) (by decide)

/-- A bound of 64 bits makes a short draw below the number in its low half. -/
theorem index_of_vast {n : Nat} (hn : Width.long.range ≤ n) :
    (index n : Draw σ Nat) = shortBelow (Int.bmod n 4294967296) := by
  simp only [Width.range] at hn
  rw [index, if_neg (by omega), if_neg (by simp only [Width.range]; omega),
    if_neg (by simp only [Width.range]; omega)]

/-- A draw whose bound is cut to a number that is not positive is a breach before any word. -/
theorem outcome_index_of_vast {n : Nat} (hn : Width.long.range ≤ n) (hbound : Int.bmod n 4294967296 ≤ 0)
    (s : σ) :
    (index n).outcome s = some (.error (.breach (.shortBound (Int.bmod n 4294967296))), s) := by
  rw [index_of_vast hn, shortBelow, if_pos hbound]
  rfl

/-- An index draw returns a value below its bound.  This holds for a bound of 64 bits as well, of
which only the low half counts: that is smaller, or it is negative and refused. -/
theorem lt_of_index {n : Nat} (h : (index n).outcome s = some (.ok k, s')) : k < n := by
  by_cases hvast : Width.long.range ≤ n
  · rw [index_of_vast hvast] at h
    have hk := lt_of_shortBelow h
    have hhalf := bmod_lt_half n
    simp only [Width.range] at hvast
    omega
  · rw [index, if_pos (Nat.not_le.1 hvast)] at h
    split at h
    · cases h
    split at h
    · exact_mod_cast lt_of_shortBelow h
    · exact_mod_cast lt_of_longBelow h

/-! ## Bounds that divide the range

Such a draw takes exactly one word, since no value is rejected. -/

theorem outcome_below_of_and_eq_zero (w : Width) {n : Nat} (hn : n &&& (n - 1) = 0) (g : Lagged) :
    (below w n).outcome g = some (.ok (w.read g.step.1 &&& (n - 1)), g.step.2) := by
  have hvalue : (value w).outcome g = some (.ok (w.read g.step.1), g.step.2) := rfl
  rw [below, if_pos hn, Process.outcome_bind, hvalue]
  rfl

/-- A bound of one takes a word for the sake of it: the value is 0 whatever the word is. -/
theorem outcome_below_one (w : Width) (g : Lagged) :
    (below w 1).outcome g = some (.ok 0, g.step.2) := by
  have hmask : w.read g.step.1 &&& (1 - 1) = 0 := Nat.and_zero _
  rw [outcome_below_of_and_eq_zero w (by decide) g, hmask]

theorem outcome_longBelow_one (g : Lagged) :
    (longBelow 1).outcome g = some (.ok 0, g.step.2) :=
  outcome_below_one .long g

theorem outcome_index_one (g : Lagged) : (index 1).outcome g = some (.ok 0, g.step.2) :=
  outcome_below_one .short g

end Draw

end FluxCorpus
