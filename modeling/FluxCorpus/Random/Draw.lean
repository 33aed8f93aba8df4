import FluxCorpus.Process

/-!
# Drawing words

Everything random in this library is computed from a stream of 64-bit words.  A `WordSource` hands
them out one by one; a `Draw` is a computation that takes words from a source.  The source that is
left is part of its outcome, so a draw that fails still says how many words it used.
-/

namespace FluxCorpus

/-- A supply of 64-bit words. -/
class WordSource (σ : Type) where
  /-- The next word and the source after it, or nothing when the supply has run out. -/
  next? : σ → Option (UInt64 × σ)

/-- A script is a source that hands out its words in order and then has no more. -/
instance : WordSource (List UInt64) where
  next?
    | [] => none
    | w :: ws => some (w, ws)

/-- A computation on a source of words. -/
abbrev Draw (σ : Type) := Process σ

namespace Draw

variable {σ : Type} [WordSource σ]

/-- Takes one word. -/
def word : Draw σ UInt64 := do
  match WordSource.next? (← get) with
  | some (w, s) =>
    set s
    return w
  | none => throw .exhausted

theorem outcome_word (s : σ) :
    (word : Draw σ UInt64).outcome s = match WordSource.next? s with
      | some (w, s') => some (.ok w, s')
      | none => some (.error .exhausted, s) := by
  simp only [word, Process.outcome_bind, Process.outcome_get]
  cases WordSource.next? s with
  | none => rfl
  | some r => rfl

end Draw

end FluxCorpus
