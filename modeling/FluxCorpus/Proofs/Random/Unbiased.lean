import FluxCorpus.Proofs.Random.Bounded
import Mathlib.Data.Int.CardIntervalMod

/-!
# Bounded draws are unbiased

A bounded draw takes words until the value of one of them is admitted, and returns the residue of
that value.  Admitted are the values below the greatest multiple of the bound, so all residues have
equally many of them, and less than half of all values are rejected.  A bound that is a power of two
divides the range: then nothing is rejected, and a mask is the residue.

* `Process.Yields` — the values of a computation that is run again and again.
* `WordSource.Gives` — a source hands out some words one after the other.
* `Width.Admits` — the values that are admitted; `Width.count_residue` and
  `Width.count_rejected_lt` count them.
* `Draw.outcome_below` — the two paths of a bounded draw are one.
* `Draw.outcome_redraw_iff`, `Draw.below_ok` — a draw takes all words up to the first one that is
  admitted.
* `Draw.bounded_unbiased` — **every residue is equally likely, on both paths and in both widths.**
-/

namespace FluxCorpus

/-! ## Words in a row -/

namespace Process

variable {σ α : Type} {x : Process σ α} {s s' : σ} {a : α} {as bs : List α}

/-- Running `x` again and again from `s` on returns `as`, one value after the other, and leaves
`s'`. -/
def Yields (x : Process σ α) : σ → List α → σ → Prop
  | s, [], s' => s' = s
  | s, a :: as, s' => ∃ t, x.outcome s = some (.ok a, t) ∧ Yields x t as s'

@[simp] theorem yields_nil : Yields x s [] s' ↔ s' = s := Iff.rfl

theorem yields_cons :
    Yields x s (a :: as) s' ↔ ∃ t, x.outcome s = some (.ok a, t) ∧ Yields x t as s' := Iff.rfl

@[simp] theorem yields_singleton : Yields x s [a] s' ↔ x.outcome s = some (.ok a, s') := by
  simp [yields_cons]

theorem yields_append : Yields x s (as ++ bs) s' ↔ ∃ t, Yields x s as t ∧ Yields x t bs s' := by
  induction as generalizing s with
  | nil => simp
  | cons a as ih =>
    simp only [List.cons_append, yields_cons, ih]
    constructor
    · rintro ⟨t, ha, t', has, hbs⟩
      exact ⟨t', ⟨t, ha, has⟩, hbs⟩
    · rintro ⟨t', ⟨t, ha, has⟩, hbs⟩
      exact ⟨t, ha, t', has, hbs⟩

end Process

namespace WordSource

variable {σ : Type} [WordSource σ] {s s' t : σ} {x : UInt64} {xs ys : List UInt64}

/-- A source hands out the words `xs`, one after the other, and `s'` is left of it. -/
def Gives (s : σ) : List UInt64 → σ → Prop
  | [], s' => s' = s
  | x :: xs, s' => ∃ t, next? s = some (x, t) ∧ Gives t xs s'

@[simp] theorem gives_nil : Gives s [] s' ↔ s' = s := Iff.rfl

theorem gives_cons : Gives s (x :: xs) s' ↔ ∃ t, next? s = some (x, t) ∧ Gives t xs s' := Iff.rfl

@[simp] theorem gives_singleton : Gives s [x] s' ↔ next? s = some (x, s') := by
  simp [gives_cons]

theorem word_ok : (Draw.word : Draw σ UInt64).outcome s = some (.ok x, t) ↔ next? s = some (x, t) := by
  rw [Draw.outcome_word]
  cases next? s with
  | none => simp
  | some r => simp [Prod.ext_iff]

/-- The words that are handed out are those that are taken one by one. -/
theorem gives_iff_yields : Gives s xs s' ↔ Process.Yields (Draw.word : Draw σ UInt64) s xs s' := by
  induction xs generalizing s with
  | nil => exact Iff.rfl
  | cons x xs ih => simp only [gives_cons, Process.yields_cons, word_ok, ih]

theorem gives_append : Gives s (xs ++ ys) s' ↔ ∃ t, Gives s xs t ∧ Gives t ys s' := by
  simp only [gives_iff_yields, Process.yields_append]

/-- A script hands out the words that it begins with. -/
theorem gives_script {ws xs rest : List UInt64} :
    Gives ws xs rest ↔ ws = xs ++ rest := by
  induction xs generalizing ws with
  | nil => exact eq_comm
  | cons x xs ih =>
    cases ws with
    | nil => simp [gives_cons, next?]
    | cons w ws => simp [gives_cons, next?, ih]

end WordSource

/-! ## Values that are admitted -/

namespace Width

variable {w : Width} {n v : Nat}

/-- A value is admitted if it is below the greatest multiple of the bound in the range. -/
def Admits (w : Width) (n v : Nat) : Prop := v < n * (w.range / n)

instance (w : Width) (n : Nat) : DecidablePred (w.Admits n) :=
  fun v => inferInstanceAs (Decidable (v < n * (w.range / n)))

theorem limit_eq (w : Width) (n : Nat) : w.limit n = n * (w.range / n) := by
  have hdiv := Nat.div_add_mod w.range n
  unfold limit
  omega

theorem lt_limit_iff : v < w.limit n ↔ w.Admits n v := by
  rw [limit_eq, Admits]

theorem read_long (x : UInt64) : long.read x = x.toNat % 9223372036854775808 := by
  simp [read, range]

/-- A short value consists of the bits 32 to 62 of a word. -/
theorem read_short (x : UInt64) : short.read x = x.toNat / 4294967296 % 2147483648 := by
  simp only [read, range]
  omega

theorem read_lt (w : Width) (x : UInt64) : w.read x < w.range := by
  cases w
  · rw [read_short]
    exact Nat.mod_lt _ (by decide)
  · rw [read_long]
    exact Nat.mod_lt _ (by decide)

/-- Every value of a width is read off some word. -/
theorem exists_read (hv : v < w.range) : ∃ x, w.read x = v := by
  cases w with
  | short =>
    simp only [range] at hv
    refine ⟨UInt64.ofNat (v * 4294967296), ?_⟩
    rw [read_short, UInt64.toNat_ofNat_of_lt' (by unfold UInt64.size; omega)]
    omega
  | long =>
    simp only [range] at hv
    refine ⟨UInt64.ofNat v, ?_⟩
    rw [read_long, UInt64.toNat_ofNat_of_lt' (by unfold UInt64.size; omega)]
    omega

/-- All residues have equally many values that are admitted. -/
theorem count_residue (w : Width) {r : Nat} (hr : r < n) :
    ((Finset.range w.range).filter fun v => w.Admits n v ∧ v % n = r).card = w.range / n := by
  have hn : 0 < n := by omega
  have hmultiple : n * (w.range / n) ≤ w.range := Nat.mul_div_le _ _
  have hfilter : ((Finset.range w.range).filter fun v => w.Admits n v ∧ v % n = r)
      = (Finset.range (n * (w.range / n))).filter fun v => v ≡ r [MOD n] := by
    ext v
    simp only [Finset.mem_filter, Finset.mem_range, Nat.ModEq, Nat.mod_eq_of_lt hr]
    unfold Admits
    constructor
    · rintro ⟨-, hv, hres⟩
      exact ⟨hv, hres⟩
    · rintro ⟨hv, hres⟩
      exact ⟨by omega, hv, hres⟩
  rw [hfilter, ← Nat.count_eq_card_filter_range, Nat.count_modEq_card _ hn]
  simp [Nat.mul_div_cancel_left _ hn]

/-- Less than half of all values are rejected. -/
theorem count_rejected_lt (hn : 0 < n) (hle : n ≤ w.range) :
    2 * ((Finset.range w.range).filter fun v => ¬ w.Admits n v).card < w.range := by
  have hmultiple := Nat.div_add_mod w.range n
  have hmod := Nat.mod_lt w.range hn
  have hquotient : n ≤ n * (w.range / n) :=
    Nat.le_mul_of_pos_right n (Nat.div_pos hle hn)
  have hfilter : ((Finset.range w.range).filter fun v => ¬ w.Admits n v)
      = Finset.Ico (n * (w.range / n)) w.range := by
    ext v
    simp only [Finset.mem_filter, Finset.mem_range, Finset.mem_Ico]
    unfold Admits
    omega
  rw [hfilter, Nat.card_Ico]
  omega

/-! ### Bounds that are powers of two -/

/-- A power of two that is smaller than the range divides it. -/
theorem mul_range_div {k : Nat} (hlt : 2 ^ k < w.range) : 2 ^ k * (w.range / 2 ^ k) = w.range := by
  have hpow : ∃ m, w.range = 2 ^ m := by
    cases w
    · exact ⟨31, rfl⟩
    · exact ⟨63, rfl⟩
  obtain ⟨m, hm⟩ := hpow
  rw [hm] at hlt ⊢
  have hle : k ≤ m := (Nat.pow_lt_pow_iff_right (by decide)).1 hlt |>.le
  exact Nat.mul_div_cancel' (Nat.pow_dvd_pow 2 hle)

/-- If a bound is a power of two, nothing is rejected and the mask is the residue. -/
theorem admits_of_and_eq_zero (hn : 0 < n) (hlt : n < w.range) (hand : n &&& (n - 1) = 0)
    (hv : v < w.range) : w.Admits n v ∧ v &&& (n - 1) = v % n := by
  obtain ⟨k, rfl⟩ := (Nat.and_sub_one_eq_zero_iff_isPowerOfTwo (by omega)).1 hand
  refine ⟨?_, Nat.and_two_pow_sub_one_eq_mod v k⟩
  rw [Admits, mul_range_div hlt]
  exact hv

end Width

/-! ## Draws -/

namespace Draw

open WordSource (Gives)

variable {σ : Type} [WordSource σ] {s s' t : σ} {w : Width} {n limit v k : Nat}

theorem outcome_value (w : Width) (s : σ) :
    (value w).outcome s = match WordSource.next? s with
      | some (x, t) => some (.ok (w.read x), t)
      | none => some (.error .exhausted, s) := by
  rw [value, Process.outcome_bind, outcome_word]
  cases WordSource.next? s <;> rfl

theorem value_ok :
    (value w).outcome s = some (.ok v, s') ↔ ∃ x, WordSource.next? s = some (x, s') ∧ v = w.read x := by
  rw [outcome_value]
  cases WordSource.next? s with
  | none => simp
  | some r => simp [Prod.ext_iff, eq_comm, and_comm]

theorem value_error {e : Stop} :
    (value w).outcome s = some (.error e, s')
      ↔ WordSource.next? s = none ∧ s' = s ∧ e = .exhausted := by
  rw [outcome_value]
  cases WordSource.next? s with
  | none => simp [eq_comm, and_comm]
  | some r => simp

/-- Redrawing looks at one word, and starts over with the next one if its value is too large. -/
theorem outcome_redraw (w : Width) (limit : Nat) (s : σ) :
    (redraw w limit).outcome s = match WordSource.next? s with
      | some (x, t) =>
        if w.read x < limit then some (.ok (w.read x), t) else (redraw w limit).outcome t
      | none => some (.error .exhausted, s) := by
  unfold redraw
  rw [Process.outcome_loop, Process.outcome_bind, outcome_value]
  cases WordSource.next? s with
  | none => rfl
  | some r => by_cases hlt : w.read r.1 < limit <;> simp [hlt]

/-- Words whose values are too large make no difference but that they are gone. -/
theorem outcome_redraw_of_gives {xs : List UInt64} (hgives : Gives s xs t)
    (hreject : ∀ y ∈ xs, ¬ w.read y < limit) :
    (redraw w limit).outcome s = (redraw w limit).outcome t := by
  induction xs generalizing s with
  | nil => rw [WordSource.gives_nil.1 hgives]
  | cons x xs ih =>
    obtain ⟨s₁, hnext, hrest⟩ := hgives
    have hx : ¬ w.read x < limit := hreject x (by simp)
    rw [outcome_redraw, hnext]
    simp only [hx, if_false]
    exact ih hrest fun y hy => hreject y (by simp [hy])

/-- How redrawing ends, after some words whose values are too large: with the value of the next word
or because there is no further word. -/
theorem outcome_redraw_iff {r : Except Stop Nat} :
    (redraw w limit).outcome s = some (r, s') ↔
      ∃ xs t, Gives s xs t ∧ (∀ y ∈ xs, ¬ w.read y < limit)
        ∧ ((∃ x, WordSource.next? t = some (x, s') ∧ w.read x < limit ∧ r = .ok (w.read x))
          ∨ WordSource.next? t = none ∧ s' = t ∧ r = .error .exhausted) := by
  constructor
  · -- the invariant: so far the source has handed out words that were all rejected
    intro h
    refine Process.outcome_loop_of_invariant
      (I := fun _ t => ∃ xs, Gives s xs t ∧ ∀ y ∈ xs, ¬ w.read y < limit)
      (Q := fun r s' => ∃ xs t, Gives s xs t ∧ (∀ y ∈ xs, ¬ w.read y < limit)
        ∧ ((∃ x, WordSource.next? t = some (x, s') ∧ w.read x < limit ∧ r = .ok (w.read x))
          ∨ WordSource.next? t = none ∧ s' = t ∧ r = .error .exhausted))
      ?next ?done ?stop ⟨[], rfl, by simp⟩ h
    case next =>
      rintro _ t _ t' ⟨xs, hxs, hreject⟩ hstep
      obtain ⟨_, t₁, hvalue, hstep⟩ := Process.outcome_bind_ok.1 hstep
      obtain ⟨x, hnext, rfl⟩ := value_ok.1 hvalue
      by_cases hlt : w.read x < limit <;> simp [hlt] at hstep
      subst hstep
      refine ⟨xs ++ [x], WordSource.gives_append.2 ⟨t, hxs, by simpa using hnext⟩, ?_⟩
      intro y hy
      rcases List.mem_append.1 hy with hy | hy
      · exact hreject y hy
      · rwa [List.mem_singleton.1 hy]
    case done =>
      rintro _ t v t' ⟨xs, hxs, hreject⟩ hstep
      obtain ⟨_, t₁, hvalue, hstep⟩ := Process.outcome_bind_ok.1 hstep
      obtain ⟨x, hnext, rfl⟩ := value_ok.1 hvalue
      by_cases hlt : w.read x < limit <;> simp [hlt] at hstep
      obtain ⟨rfl, rfl⟩ := hstep
      exact ⟨xs, t, hxs, hreject, .inl ⟨x, hnext, hlt, rfl⟩⟩
    case stop =>
      rintro _ t e t' ⟨xs, hxs, hreject⟩ hstep
      rcases Process.outcome_bind_error.1 hstep with hvalue | ⟨v, t₁, -, hstep⟩
      · obtain ⟨hnone, rfl, rfl⟩ := value_error.1 hvalue
        exact ⟨xs, _, hxs, hreject, .inr ⟨hnone, rfl, rfl⟩⟩
      · cases hstep
  · rintro ⟨xs, t, hxs, hreject, hlast⟩
    rw [outcome_redraw_of_gives hxs hreject, outcome_redraw]
    rcases hlast with ⟨x, hnext, hlt, rfl⟩ | ⟨hnone, rfl, rfl⟩
    · simp [hnext, hlt]
    · simp [hnone]

/-- **The two paths are one.**  A mask has the outcome that redrawing would have. -/
theorem outcome_below (hn : 0 < n) (hlt : n < w.range) (s : σ) :
    (below w n).outcome s = (do return (← redraw w (w.limit n)) % n).outcome s := by
  unfold below
  by_cases hand : n &&& (n - 1) = 0
  · rw [if_pos hand, Process.outcome_bind, Process.outcome_bind, outcome_redraw, outcome_value]
    cases WordSource.next? s with
    | none => rfl
    | some r =>
      obtain ⟨hadmits, hmask⟩ := Width.admits_of_and_eq_zero hn hlt hand (w.read_lt r.1)
      simp [Width.lt_limit_iff.2 hadmits, hmask]
  · rw [if_neg hand]

/-- A draw takes all words up to the first one that is admitted, and returns its residue. -/
theorem below_ok (hn : 0 < n) (hlt : n < w.range) :
    (below w n).outcome s = some (.ok k, s') ↔
      ∃ xs x, Gives s (xs ++ [x]) s' ∧ (∀ y ∈ xs, ¬ w.Admits n (w.read y))
        ∧ w.Admits n (w.read x) ∧ k = w.read x % n := by
  rw [outcome_below hn hlt, Process.outcome_bind_ok]
  simp only [outcome_redraw_iff, Width.lt_limit_iff, WordSource.gives_append,
    WordSource.gives_singleton]
  constructor
  · rintro ⟨v, s₁, ⟨xs, t, hxs, hreject, ⟨x, hnext, hx, hv⟩ | ⟨-, -, hv⟩⟩, hk⟩
    · cases hv
      cases hk
      exact ⟨xs, x, ⟨t, hxs, hnext⟩, hreject, hx, rfl⟩
    · cases hv
  · rintro ⟨xs, x, ⟨t, hxs, hnext⟩, hreject, hx, rfl⟩
    exact ⟨_, s', ⟨xs, t, hxs, hreject, .inl ⟨x, hnext, hx, rfl⟩⟩, rfl⟩

/-- A value that is itself below the bound is drawn as it is. -/
theorem below_of_read {x : UInt64} (hlt : n < w.range) (hx : w.read x < n)
    (hnext : WordSource.next? s = some (x, s')) :
    (below w n).outcome s = some (.ok (w.read x), s') := by
  have hn : 0 < n := by omega
  refine (below_ok hn hlt).2 ⟨[], x, by simpa using hnext, by simp, ?_, ?_⟩
  · exact hx.trans_le (Nat.le_mul_of_pos_right _ (Nat.div_pos hlt.le hn))
  · rw [Nat.mod_eq_of_lt hx]

/-- With a bound that admits a value, a draw can only stop for want of words. -/
theorem eq_exhausted_of_below {e : Stop} (hn : 0 < n) (hlt : n < w.range)
    (h : (below w n).outcome s = some (.error e, s')) : e = .exhausted := by
  rw [outcome_below hn hlt] at h
  rcases Process.outcome_bind_error.1 h with h | ⟨v, s₁, -, h⟩
  · obtain ⟨-, t, -, -, ⟨x, -, -, hr⟩ | ⟨-, -, hr⟩⟩ := outcome_redraw_iff.1 h
    · cases hr
    · exact Except.error.inj hr
  · cases h

/-- The bounded draw of a width. -/
def bounded : Width → Int → Draw σ Nat
  | .short, n => shortBelow n
  | .long, n => longBelow n

theorem bounded_eq_below (w : Width) (hn : 0 < n) : (bounded w n : Draw σ Nat) = below w n := by
  have hne : n ≠ 0 := by omega
  cases w
  · simp [bounded, shortBelow, hne]
  · simp [bounded, longBelow, hne]

/-- **Every residue is equally likely.**  With a bound in the range of its width, a bounded draw
returns if and only if the source hands out some words that are rejected and then one that is
admitted.  It returns the residue of this word, and takes no word behind it.  Every residue belongs
to as many values that are admitted as any other, and less than half of all values are rejected;
with a power of two nothing is rejected, and the mask of a value is its residue.  The values are the
low 63 bits of a word, or the upper 31 of these. -/
theorem bounded_unbiased (w : Width) (hn : 0 < n) (hlt : n < w.range) :
    (∀ {σ : Type} [WordSource σ] (s s' : σ) (k : Nat),
      (bounded w n).outcome s = some (.ok k, s') ↔
        ∃ xs x, Gives s (xs ++ [x]) s'
          ∧ (∀ y ∈ xs, ¬ w.read y < n * (w.range / n))
          ∧ w.read x < n * (w.range / n) ∧ k = w.read x % n)
      ∧ (∀ r < n, ((Finset.range w.range).filter fun v =>
        v < n * (w.range / n) ∧ v % n = r).card = w.range / n)
      ∧ 2 * ((Finset.range w.range).filter fun v => ¬ v < n * (w.range / n)).card < w.range
      ∧ (n &&& (n - 1) = 0 → ∀ v < w.range, v < n * (w.range / n) ∧ v &&& (n - 1) = v % n)
      ∧ (∀ x : UInt64, Width.long.read x = x.toNat % 9223372036854775808)
      ∧ ∀ x : UInt64, Width.short.read x = x.toNat / 4294967296 % 2147483648 := by
  refine ⟨?returns, ?residues, ?rejected, ?mask, Width.read_long, Width.read_short⟩
  case returns =>
    intro σ _ s s' k
    rw [bounded_eq_below w hn]
    exact below_ok hn hlt
  case residues =>
    intro r hr
    exact w.count_residue hr
  case rejected => exact Width.count_rejected_lt hn hlt.le
  case mask =>
    intro hand v hv
    exact Width.admits_of_and_eq_zero hn hlt hand hv

/-- With a bound of 3 the two greatest values are rejected: a long draw takes three words here. -/
theorem bounded_unbiased_three :
    0 < 3 ∧ 3 < Width.long.range
      ∧ (bounded .long 3).outcome
          ([9223372036854775807, 9223372036854775806, 5, 7] : List UInt64)
        = some (.ok 2, [7])
      ∧ ((Finset.range Width.long.range).filter fun v =>
        v < 3 * (Width.long.range / 3) ∧ v % 3 = 2).card = 3074457345618258602 := by
  have hn : 0 < 3 := by decide
  have hlt : 3 < Width.long.range := by decide
  obtain ⟨hreturns, hresidues, -⟩ := bounded_unbiased .long hn hlt
  refine ⟨hn, hlt, (hreturns _ _ 2).2 ?_, hresidues 2 (by decide)⟩
  refine ⟨[9223372036854775807, 9223372036854775806], 5, ?_, ?_, ?_, ?_⟩
  · exact ⟨_, rfl, _, rfl, _, rfl, rfl⟩
  · simp [Width.read_long, Width.range]
  · simp [Width.read_long, Width.range]
  · simp [Width.read_long]

end Draw

end FluxCorpus
