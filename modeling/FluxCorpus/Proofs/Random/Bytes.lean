import FluxCorpus.Proofs.Random.Recurrence
import FluxCorpus.Proofs.Random.Unbiased

/-!
# Bytes are the words of the source

A run of bytes is taken word by word, and what is left over of the last word is thrown away.  So it
is a beginning of the bytes of all words that follow, and two runs make up one run as soon as the
first of them ends where a word ends.

* `littleEndian_eq_map` — the bytes of a word are its digits to the base 256, the lowest first.
* `Draw.outcome_bytes` — the bytes that a source gives which hands out certain words.
* `Draw.bytes_add` — whole words can be split off a run of bytes, on every source.
* `Lagged.gives_output` — the words of the lagged source.
* `Lagged.bytes_of_words` — **which bytes it gives, and where it stands afterwards.**
-/

namespace FluxCorpus

open WordSource (Gives)

/-! ## The bytes of a word -/

theorem length_littleEndian (w : UInt64) : (littleEndian w).length = 8 := by
  rw [littleEndian, List.length_map, List.length_range]

/-- The bytes of a word are its digits to the base 256, the lowest first. -/
theorem littleEndian_eq_map (w : UInt64) :
    littleEndian w = (List.range 8).map fun i => UInt8.ofNat (w.toNat / 256 ^ i) := by
  apply List.map_congr_left
  intro i hi
  have hi : i < 8 := List.mem_range.1 hi
  apply UInt8.toNat_inj.1
  have hshift : (8 * i).toUInt64.toNat = 8 * i := UInt64.toNat_ofNat_of_lt' (by
    simp only [UInt64.size]
    omega)
  rw [UInt64.toNat_toUInt8, UInt64.toNat_shiftRight, hshift, UInt8.toNat_ofNat',
    Nat.shiftRight_eq_div_pow, Nat.mod_eq_of_lt (show 8 * i < 64 by omega), Nat.pow_mul]

/-- The byte at a place of the bytes of some words in a row. -/
theorem getElem?_flatMap_littleEndian (ws : List UInt64) (i : Nat) :
    (ws.flatMap littleEndian)[i]? = ws[i / 8]?.map fun w => UInt8.ofNat (w.toNat / 256 ^ (i % 8)) := by
  induction ws generalizing i with
  | nil => rfl
  | cons w ws ih =>
    rw [List.flatMap_cons]
    rcases Nat.lt_or_ge i 8 with hlt | hge
    · rw [List.getElem?_append_left (by rwa [length_littleEndian]), littleEndian_eq_map,
        Nat.div_eq_of_lt hlt, Nat.mod_eq_of_lt hlt]
      simp [hlt]
    · obtain ⟨k, rfl⟩ : ∃ k, i = k + 8 := ⟨i - 8, by omega⟩
      rw [List.getElem?_append_right (by rwa [length_littleEndian]), length_littleEndian, ih,
        Nat.add_sub_cancel, Nat.add_div_right k (by decide), Nat.add_mod_right,
        List.getElem?_cons_succ]

namespace Draw

variable {σ ε : Type} [WordSource σ] {s s' : σ} {len : Nat} {ws : List UInt64}

theorem bytes_zero : (bytes 0 : Draw σ (List UInt8)) = pure [] := by
  rw [bytes, if_pos rfl]

/-- Less than one word is cut from it; of longer runs the first word is a part. -/
theorem bytes_of_pos (h : 0 < len) : (bytes len : Draw σ (List UInt8)) = do
    let w ← word
    let rest ← bytes (len - 8)
    return (littleEndian w).take len ++ rest := by
  rw [bytes, if_neg (Nat.ne_of_gt h)]

/-- **The bytes of some words in a row**: as many words are taken as the bytes need, and what they
do not need of the last one is lost. -/
theorem outcome_bytes (hlen : ws.length = (len + 7) / 8) (hgives : Gives s ws s') :
    (bytes len).outcome s = some (.ok ((ws.flatMap littleEndian).take len), s') := by
  induction ws generalizing len s with
  | nil =>
    have hzero : len = 0 := by
      rw [List.length_nil] at hlen
      omega
    rw [WordSource.gives_nil] at hgives
    rw [hgives, hzero, bytes_zero, List.take_zero]
    rfl
  | cons w ws ih =>
    rw [List.length_cons] at hlen
    obtain ⟨t, hnext, hrest⟩ := WordSource.gives_cons.1 hgives
    have hbytes := ih (show ws.length = (len - 8 + 7) / 8 by omega) hrest
    rw [bytes_of_pos (by omega)]
    simp only [Process.outcome_bind, WordSource.word_ok.2 hnext, hbytes, Process.outcome_pure]
    rw [List.flatMap_cons, List.take_append, length_littleEndian]

/-- Ten bytes use up two words; the last six bytes of the second one are lost. -/
example : (bytes 10).outcome ([1, 513, 7] : List UInt64)
    = some (.ok [1, 0, 0, 0, 0, 0, 0, 0, 1, 2], [7]) := by
  cbv

/-- The caller who is prepared for a failure gets the same bytes. -/
theorem outcome_tryBytes {bs : List UInt8} (h : (bytes len).outcome s = some (.ok bs, s')) :
    (tryBytes len : Draw σ (Except ε (List UInt8))).outcome s = some (.ok (.ok bs), s') := by
  rw [tryBytes, Process.outcome_bind, h]
  rfl

/-- **Whole words can be split off**: a run of bytes is one of whole words and then the rest. -/
theorem bytes_add (n len : Nat) : (bytes (8 * n + len) : Draw σ (List UInt8)) = do
    let front ← bytes (8 * n)
    let back ← bytes len
    return front ++ back := by
  induction n with
  | zero => simp [bytes_zero]
  | succ n ih =>
    have hall : 8 * (n + 1) + len - 8 = 8 * n + len := by omega
    have hfront : 8 * (n + 1) - 8 = 8 * n := by omega
    have hword (w : UInt64) (k : Nat) (hk : 8 ≤ k) : (littleEndian w).take k = littleEndian w :=
      List.take_of_length_le (by rwa [length_littleEndian])
    rw [bytes_of_pos (by omega), bytes_of_pos (show 0 < 8 * (n + 1) by omega), hall, hfront, ih]
    simp only [hword _ (8 * (n + 1) + len) (by omega), hword _ (8 * (n + 1)) (by omega), bind_assoc,
      pure_bind, List.append_assoc]

end Draw

namespace Lagged

/-- The source hands out its output, one word after the other. -/
theorem gives_output (g : Lagged) (k : Nat) :
    Gives g ((List.range k).map g.output) (g.after k) := by
  induction k with
  | zero => rfl
  | succ k ih =>
    rw [List.range_succ, List.map_append, WordSource.gives_append]
    exact ⟨g.after k, ih, WordSource.gives_singleton.2 rfl⟩

/-- The bytes of the next `k` words of a source. -/
def wordBytes (g : Lagged) (k : Nat) : List UInt8 :=
  ((List.range k).map g.output).flatMap littleEndian

/-- The first bytes of enough words, one by one. -/
theorem take_wordBytes (g : Lagged) (len : Nat) : (g.wordBytes ((len + 7) / 8)).take len
    = (List.range len).map fun i => UInt8.ofNat ((g.output (i / 8)).toNat / 256 ^ (i % 8)) := by
  apply List.ext_getElem?
  intro i
  rw [List.getElem?_take, wordBytes, getElem?_flatMap_littleEndian, List.getElem?_map,
    List.getElem?_map]
  split
  · rw [List.getElem?_range (by omega), List.getElem?_range (by omega)]
    rfl
  · rw [List.getElem?_eq_none (by rw [List.length_range]; omega)]
    rfl

/-- **The bytes of the source.**  In every state a run of `len` bytes is the beginning of the bytes of
the words to come, and the source is as many words further as these bytes need; the byte at place
`i` is the digit of place `i % 8` of word `i / 8` to the base 256.  A caller who is prepared for a
failure never sees one, and the bytes behind some whole words are what is taken after these. -/
theorem bytes_of_words (g : Lagged) (len : Nat) :
    (Draw.bytes len).outcome g
        = some (.ok ((g.wordBytes ((len + 7) / 8)).take len), g.after ((len + 7) / 8))
      ∧ (∀ ε : Type, (Draw.tryBytes len : Draw Lagged (Except ε (List UInt8))).outcome g
        = some (.ok (.ok ((g.wordBytes ((len + 7) / 8)).take len)), g.after ((len + 7) / 8)))
      ∧ (g.wordBytes ((len + 7) / 8)).take len
        = (List.range len).map (fun i => UInt8.ofNat ((g.output (i / 8)).toNat / 256 ^ (i % 8)))
      ∧ ∀ n, (Draw.bytes (8 * n + len)).outcome g
        = (do
            let front ← Draw.bytes (8 * n)
            let back ← Draw.bytes len
            return front ++ back : Draw Lagged (List UInt8)).outcome g := by
  have hcount : ((List.range ((len + 7) / 8)).map g.output).length = (len + 7) / 8 := by simp
  have hbytes := Draw.outcome_bytes hcount (g.gives_output ((len + 7) / 8))
  refine ⟨hbytes, fun ε => Draw.outcome_tryBytes hbytes, g.take_wordBytes len, fun n => ?_⟩
  rw [Draw.bytes_add]

end Lagged

end FluxCorpus
