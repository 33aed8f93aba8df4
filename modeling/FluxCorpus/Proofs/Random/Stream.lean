import FluxCorpus.Proofs.Random.Recurrence
import FluxCorpus.Proofs.Random.Seeding
import Mathlib.Data.Nat.Digits.Lemmas
import Mathlib.Tactic.TFAE

/-!
# Streams and seeds

Two sources that start with their cursors in the same place are equal as soon as they agree on as
many words as the ring is long: the recurrence can be read backwards, from the words that are handed
out to those of the first ring.  And those words give away the normal form of the seed.

* `history_sub`, `history_eq_of_output_eq` — the recurrence backwards.
* `eq_of_output_eq` — **607 words determine the source.**
* `reseed_eq`, `ofSeed_eq_iff` — the state after seeding is a matter of the normal form of the seed.
* `toNat_ofLittleEndian` — eight bytes as a number.
* `same_stream_iff_normalSeed_eq` — **which seeds give the same stream.**
-/

namespace FluxCorpus.Lagged

open FluxCorpus.Random (seedWord fillFrom_eq getElem_fillFrom start_eq_of_words)
open FluxCorpus.Random.Congruential (normalSeed start_eq_normalSeed)

/-! ## From the words back to the ring -/

variable {g h : Lagged}

/-- The recurrence, solved for the oldest word. -/
theorem history_sub (htap : g.tap = 0) (hfeed : g.feed = 334) (k : Nat) :
    g.history (k - 607) = g.output k - g.history (k - 273) := by
  have hsum : g.output k = g.history (k - 607) + g.history (k - 273) :=
    (holds_after htap hfeed k).step_fst
  rw [hsum, UInt64.add_sub_cancel]

/-- Sources that agree on their first 607 words agree on the words of their first ring as well: the
334 newest of these are differences of words that are handed out, and the others come from them. -/
theorem history_eq_of_output_eq (htap : g.tap = 0) (hfeed : g.feed = 334) (htap' : h.tap = 0)
    (hfeed' : h.feed = 334) (hout : ∀ k < 607, g.output k = h.output k) {m : Int}
    (hlow : -607 ≤ m) (hneg : m < 0) : g.history m = h.history m := by
  have hback (k : Nat) (hk : k < 607) (hprev : g.history (k - 273) = h.history (k - 273)) :
      g.history (k - 607) = h.history (k - 607) := by
    rw [history_sub htap hfeed, history_sub htap' hfeed', hout k hk, hprev]
  have hnew (k : Nat) (hk : k < 607) (hge : 273 ≤ k) :
      g.history (k - 607) = h.history (k - 607) := by
    have hpast : (k : Int) - 273 = ((k - 273 : Nat) : Int) := by omega
    apply hback k hk
    rw [hpast]
    exact hout (k - 273) (by omega)
  obtain ⟨k, rfl⟩ : ∃ k : Nat, m = k - 607 := ⟨(m + 607).toNat, by omega⟩
  rcases Nat.lt_or_ge k 273 with hlt | hge
  · have hpast : (k : Int) - 273 = ((k + 334 : Nat) : Int) - 607 := by omega
    apply hback k (by omega)
    rw [hpast]
    exact hnew (k + 334) (by omega) (by omega)
  · exact hnew k (by omega) hge

/-- **607 words determine the source**, if its cursors are at the start. -/
theorem eq_of_output_eq (htap : g.tap = 0) (hfeed : g.feed = 334) (htap' : h.tap = 0)
    (hfeed' : h.feed = 334) (hout : ∀ k < 607, g.output k = h.output k) : g = h := by
  have hwords : g.words = h.words := by
    apply Vector.ext
    intro i hi
    obtain ⟨m, hlow, hneg, hslot⟩ : ∃ m : Int, -607 ≤ m ∧ m < 0 ∧ (slot m).val = i := by
      rcases Nat.lt_or_ge 333 i with hlt | hge
      · exact ⟨333 - i, by omega, by omega, by simp only [slot]; omega⟩
      · exact ⟨-274 - i, by omega, by omega, by simp only [slot]; omega⟩
    have hm := history_eq_of_output_eq htap hfeed htap' hfeed' hout hlow hneg
    rw [history_of_neg g hlow hneg, history_of_neg h hlow hneg] at hm
    subst hslot
    exact hm
  cases g
  cases h
  simp_all

/-! ## Seeding -/

/-- **Seeding forgets**: a source that is started over is the same as a new one. -/
theorem reseed_eq (g : Lagged) (seed : Int) : g.reseed seed = ofSeed seed := by
  rw [ofSeed, reseed, reseed, fillFrom_eq]

theorem words_ofSeed (seed : Int) (i : Fin 607) : (ofSeed seed).words.get i = seedWord seed i :=
  getElem_fillFrom seed _ i.isLt

/-- The state after seeding is a matter of the normal form of the seed. -/
theorem ofSeed_eq_iff {s t : Int} : ofSeed s = ofSeed t ↔ normalSeed s = normalSeed t := by
  rw [← start_eq_normalSeed, ← start_eq_normalSeed]
  constructor
  · intro h
    have hword (i : Fin 607) : seedWord s i = seedWord t i := by
      rw [← words_ofSeed, ← words_ofSeed, h]
    exact start_eq_of_words (hword 0) (hword 1)
  · intro h
    simp only [ofSeed, reseed, Random.fillFrom, h]

/-! ## Seeds as bytes -/

theorem toNat_shiftLeft_or (w : UInt64) (b : UInt8) (hw : w.toNat < 256 ^ 7) :
    (w <<< 8 ||| b.toUInt64).toNat = b.toNat + 256 * w.toNat := by
  have hb : b.toNat < 2 ^ 8 := b.toNat_lt
  have hshift : (w <<< 8).toNat = w.toNat <<< 8 := by
    simp [UInt64.toNat_shiftLeft, Nat.shiftLeft_eq]
    omega
  rw [UInt64.toNat_or, hshift, UInt8.toNat_toUInt64, ← Nat.shiftLeft_add_eq_or_of_lt hb,
    Nat.shiftLeft_eq]
  omega

/-- Eight bytes, least significant first, are a number in base 256. -/
theorem toNat_ofLittleEndian {bs : List UInt8} (h : bs.length ≤ 8) :
    (ofLittleEndian bs).toNat = Nat.ofDigits 256 (bs.map UInt8.toNat) := by
  rw [ofLittleEndian, List.take_of_length_le h]
  induction bs with
  | nil => rfl
  | cons b bs ih =>
    rw [List.length_cons] at h
    have htail := ih (by omega)
    have hlt : Nat.ofDigits 256 (bs.map UInt8.toNat) < 256 ^ 7 := by
      have hpow : 256 ^ (bs.map UInt8.toNat).length ≤ 256 ^ 7 :=
        Nat.pow_le_pow_right (by decide) (by rw [List.length_map]; omega)
      refine Nat.lt_of_lt_of_le (Nat.ofDigits_lt_base_pow_length (by decide) ?_) hpow
      intro d hd
      obtain ⟨c, -, rfl⟩ := List.mem_map.1 hd
      exact c.toNat_lt
    rw [List.foldr_cons, toNat_shiftLeft_or _ _ (by rwa [htail]), htail, List.map_cons,
      Nat.ofDigits_cons]

/-! ## Equal streams -/

/-- **Which seeds give the same stream.**  For two seeds it comes to the same whether their normal
forms are equal, or the states of their sources, or all words that these hand out, or the first 607
of them.  Starting over from a seed, or from a word or eight bytes that are read as a signed number,
leads to the state of that seed. -/
theorem same_stream_iff_normalSeed_eq (s t : Int) :
    [normalSeed s = normalSeed t,
      ofSeed s = ofSeed t,
      ∀ k, (ofSeed s).output k = (ofSeed t).output k,
      ∀ k < 607, (ofSeed s).output k = (ofSeed t).output k].TFAE
    ∧ (∀ g : Lagged, g.reseed s = ofSeed s)
    ∧ (∀ w : UInt64, ofWord w = ofSeed w.toInt64.toInt)
    ∧ ∀ bs : Vector UInt8 8, ofBytes bs.toList
        = ofSeed (UInt64.ofNat (Nat.ofDigits 256 (bs.toList.map UInt8.toNat))).toInt64.toInt := by
  have hword (w : UInt64) : ofWord w = ofSeed w.toInt64.toInt := by
    have hsigned : w.toInt64.toInt = Int.bmod w.toNat 18446744073709551616 :=
      BitVec.toInt_eq_toNat_bmod w.toBitVec
    rw [ofWord, hsigned]
  refine ⟨?_, fun g => reseed_eq g s, hword, ?_⟩
  · tfae_have 1 ↔ 2 := ofSeed_eq_iff.symm
    tfae_have 2 → 3 := by
      intro h k
      rw [h]
    tfae_have 3 → 4 := fun h k _ => h k
    tfae_have 4 → 2 := eq_of_output_eq rfl rfl rfl rfl
    tfae_finish
  · intro bs
    have hlength : bs.toList.length ≤ 8 := by simp
    rw [ofBytes, hword, ← toNat_ofLittleEndian hlength, UInt64.ofNat_toNat]

end FluxCorpus.Lagged
