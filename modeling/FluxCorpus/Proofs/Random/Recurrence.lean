import FluxCorpus.Random.Draw
import FluxCorpus.Random.Lagged
import Mathlib.Data.Fin.Basic
import Mathlib.Data.Vector.Basic
import Mathlib.Tactic.Ring

/-!
# The ring buffer computes a recurrence

The source keeps 607 words in a ring and writes over one of them at every step.  Seen from outside
it is a sequence: the words that were in the ring at the start, followed by the words that it hands
out, each the sum of the words 607 and 273 places before it.

* `history` — the sequence, with the places before 0 for the words of the first ring.
* `slot` — the place of the ring at which a word of the sequence stands.
* `Holds` — the ring holds the last 607 words of the sequence: what every step keeps.
* `history_recurrence` — **the recurrence**, with the cursors at every step.
-/

namespace FluxCorpus.Lagged

/-- The source after it has handed out `k` words. -/
def after (g : Lagged) : Nat → Lagged
  | 0 => g
  | k + 1 => (g.after k).step.2

/-- The word that comes after the first `k` ones. -/
def output (g : Lagged) (k : Nat) : UInt64 := (g.after k).step.1

/-- The words of a source as one sequence: from 0 on those that it hands out, and before 0 those of
its first ring, read upwards from the place below the `feed` cursor. -/
def history (g : Lagged) : Int → UInt64
  | .ofNat k => g.output k
  | .negSucc j => g.words[(⟨(334 + j) % 607, Nat.mod_lt _ (by decide)⟩ : Fin 607)]

/-! ## The places of the ring -/

/-- The place of the ring at which the `m`-th word stands: places are given out downwards. -/
def slot (m : Int) : Fin 607 := ⟨((333 - m) % 607).toNat, by omega⟩

theorem slot_sub_one (m : Int) : slot m - 1 = slot (m + 1) := by
  apply Fin.ext
  rw [Fin.sub_def]
  simp only [slot, Fin.val_one]
  omega

/-- A word stands where the one 607 places before it stood. -/
theorem slot_sub_length (m : Int) : slot (m - 607) = slot m := by
  apply Fin.ext
  simp only [slot]
  omega

/-- Words that are less than 607 places apart stand at different places. -/
theorem slot_ne {m k : Int} (hlt : m < k) (hle : k < m + 607) : slot m ≠ slot k := by
  intro h
  have hval := congrArg Fin.val h
  simp only [slot] at hval
  omega

/-- The words before 0 are those of the first ring. -/
theorem history_of_neg (g : Lagged) {m : Int} (hlow : -607 ≤ m) (hneg : m < 0) :
    g.history m = g.words[slot m] := by
  obtain ⟨j, rfl⟩ : ∃ j : Nat, m = .negSucc j := Int.eq_negSucc_of_lt_zero hneg
  simp only [history, Fin.getElem_fin, slot]
  congr 1
  omega

/-! ## What every step keeps -/

/-- The state after `k` words: both cursors are where the count says, and the ring holds the last
607 words of the sequence. -/
structure Holds (g : Lagged) (k : Nat) (s : Lagged) : Prop where
  tap : s.tap = slot (k - 274)
  feed : s.feed = slot (k - 1)
  words : ∀ m : Int, k - 607 ≤ m → m < k → s.words[slot m] = g.history m

namespace Holds

variable {g s : Lagged} {k : Nat}

/-- A source with its cursors at the start holds its own first ring. -/
theorem start (htap : g.tap = 0) (hfeed : g.feed = 334) : Holds g 0 g where
  tap := by rw [htap]; decide
  feed := by rw [hfeed]; decide
  words := by
    intro m hlow hhigh
    exact (history_of_neg g (by omega) (by omega)).symm

/-- The word that is handed out is the sum of the words 607 and 273 places before it. -/
theorem step_fst (h : Holds g k s) : s.step.1 = g.history (k - 607) + g.history (k - 273) := by
  have hfeed : s.feed - 1 = slot (k - 607) := by
    rw [h.feed, slot_sub_one, slot_sub_length]
    congr 1
    ring
  have htap : s.tap - 1 = slot (k - 273) := by
    rw [h.tap, slot_sub_one]
    congr 1
    ring
  calc s.step.1 = s.words[s.feed - 1] + s.words[s.tap - 1] := rfl
    _ = s.words[slot (k - 607)] + s.words[slot (k - 273)] := by
      simp only [hfeed, htap]
    _ = g.history (k - 607) + g.history (k - 273) := by
      rw [h.words (k - 607) (by omega) (by omega), h.words (k - 273) (by omega) (by omega)]

/-- A step writes the new word over the oldest one and leaves the others where they are. -/
theorem step_snd (h : Holds g k s) (hout : s.step.1 = g.history k) : Holds g (k + 1) s.step.2 where
  tap := by
    change s.tap - 1 = _
    rw [h.tap, slot_sub_one]
    congr 1
    push_cast
    ring
  feed := by
    change s.feed - 1 = _
    rw [h.feed, slot_sub_one]
    congr 1
    push_cast
    ring
  words := by
    intro m hlow hhigh
    have hfeed : s.feed - 1 = slot k := by
      rw [h.feed, slot_sub_one]
      congr 1
      ring
    have hwords : s.step.2.words = s.words.set (slot k) s.step.1 := by
      simp only [← hfeed]
      rfl
    simp only [hwords, Fin.getElem_fin]
    push_cast at hlow hhigh
    by_cases hm : m = k
    · subst hm
      rw [Vector.getElem_set_self, hout]
    · have hne : slot k ≠ slot m := (slot_ne (by omega) (by omega)).symm
      rw [Vector.getElem_set_ne _ _ (Fin.val_ne_of_ne hne)]
      exact h.words m (by omega) (by omega)

end Holds

/-- Every state of a source that starts with its cursors at the start holds the last words. -/
theorem holds_after {g : Lagged} (htap : g.tap = 0) (hfeed : g.feed = 334) (k : Nat) :
    Holds g k (g.after k) := by
  induction k with
  | zero => exact Holds.start htap hfeed
  | succ k ih => exact ih.step_snd rfl

/-! ## The recurrence -/

/-- **The ring buffer computes the recurrence.**  From every seed, each word that is drawn is the
sum, modulo 2^64, of the words 607 and 273 places before it, and the number of words drawn so far
says where both cursors stand; they never meet. -/
theorem history_recurrence (seed : Int) (k : Nat) :
    Draw.word.outcome ((ofSeed seed).after k)
        = some (.ok ((ofSeed seed).history k), (ofSeed seed).after (k + 1))
      ∧ ((ofSeed seed).history k).toNat
        = (((ofSeed seed).history (k - 607)).toNat + ((ofSeed seed).history (k - 273)).toNat)
          % 18446744073709551616
      ∧ (((ofSeed seed).after k).tap.val : Int) = -k % 607
      ∧ (((ofSeed seed).after k).feed.val : Int) = (334 - k) % 607
      ∧ ((ofSeed seed).after k).tap ≠ ((ofSeed seed).after k).feed := by
  have h : Holds (ofSeed seed) k ((ofSeed seed).after k) := holds_after rfl rfl k
  refine ⟨?_, ?_, ?_, ?_, ?_⟩
  · rw [Draw.outcome_word]
    rfl
  · have hsum : (ofSeed seed).history k
        = (ofSeed seed).history (k - 607) + (ofSeed seed).history (k - 273) := h.step_fst
    rw [hsum, UInt64.toNat_add]
  · rw [h.tap]
    simp only [slot]
    omega
  · rw [h.feed]
    simp only [slot]
    omega
  · rw [h.tap, h.feed]
    exact slot_ne (by omega) (by omega)

end FluxCorpus.Lagged
