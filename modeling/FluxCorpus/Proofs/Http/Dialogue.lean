import FluxCorpus.Http.Dialogue

/-!
# The transcript of a dialogue

A dialogue that consists of two parts is played part by part: the second part meets the replies that
the first one has left.

* `play_bind` — the transcript of a sequence, and `play_run_bind` the same for parts that may fail.
* `reply_of_exchanges` — every exchange has the reply at its place.
-/

namespace FluxCorpus.Http.Dialogue

variable {α β ε : Type} (otherwise : Reply)

/-- The exchanges of the first part come first, and its result opens the second part. -/
theorem play_bind (d : Dialogue α) (f : α → Dialogue β) (replies : List Reply) :
    (d >>= f).play otherwise replies =
      let t := d.play otherwise replies
      let t' := (f t.result).play otherwise t.unused
      { t' with exchanges := t.exchanges ++ t'.exchanges } := by
  change (d.andThen f).play otherwise replies = _
  induction d generalizing replies with
  | done a => rfl
  | ask r next ih =>
    simp only [andThen, play, ih, List.cons_append]

/-- A part that may fail is followed by the next one if it has not failed. -/
theorem play_run_bind (x : ExceptT ε Dialogue α) (f : α → ExceptT ε Dialogue β)
    (replies : List Reply) : (x >>= f).run.play otherwise replies =
      let t := x.run.play otherwise replies
      match t.result with
      | .ok a =>
        let t' := (f a).run.play otherwise t.unused
        { t' with exchanges := t.exchanges ++ t'.exchanges }
      | .error e => ⟨.error e, t.exchanges, t.unused⟩ := by
  rw [ExceptT.run_bind, play_bind]
  dsimp only
  cases (x.run.play otherwise replies).result with
  | ok a => rfl
  | error e => simp [pure, play]

/-- The exchange at a place has the reply at this place. -/
theorem reply_of_exchanges (d : Dialogue α) (replies : List Reply) (i : Nat) (e : Exchange)
    (h : (d.play otherwise replies).exchanges[i]? = some e) :
    e.reply = replies.getD i otherwise := by
  induction d generalizing replies i with
  | done a => simp [play] at h
  | ask r next ih =>
    rw [play] at h
    cases i with
    | zero =>
      cases h
      cases replies <;> rfl
    | succ i =>
      have hrest := ih _ replies.tail i h
      rw [hrest]
      cases replies <;> rfl

end FluxCorpus.Http.Dialogue
