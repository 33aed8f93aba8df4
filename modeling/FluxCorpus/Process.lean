import FluxCorpus.Fault

/-!
# Computations that end, stop or go on for ever

A `Process` is a computation on a state.  It may end with a value, it may stop for a reason of its
own (`Stop`), and a loop in it may go on for ever.  `Process.outcome` says which: the value or the
reason together with the state that is left, or nothing at all.

* `outcome_bind` says how two computations follow one another.
* `outcome_bind_ok` and `outcome_bind_error` take the outcome of such a sequence apart.
* `outcome_loop` unrolls a loop once; `outcome_loop_of_invariant` is the rule for whole loops.
-/

namespace FluxCorpus

/-- A step that its caller should never have asked for: a bound that admits no value, an index
beyond the end of a list, a set beyond the size of memory, a predicate without terms, a sum that is
not representable, or a time that the calendar does not have. -/
inductive Breach
  | longBound (n : Int)
  | shortBound (n : Int)
  | indexBound
  | indexRange (length index : Nat)
  | setSize
  | emptyPredicate (column : String)
  | overflow
  | noSuchTime
deriving DecidableEq, Repr

/-- The message for a step that should never have been asked for. -/
def Breach.message : Breach → String
  | longBound n => "invalid argument to int63n: " ++ Text.Decimal.intText n
  | shortBound n => "invalid argument to int31n: " ++ Text.Decimal.intText n
  | indexBound => "invalid argument to intn: 0"
  | indexRange length index =>
    "index out of bounds: the len is " ++ Text.Decimal.text length ++ " but the index is "
      ++ Text.Decimal.text index
  | setSize => "Hash table capacity overflow"
  | emptyPredicate column => "no values for r." ++ column ++ " predicate"
  | overflow => "attempt to add with overflow"
  | noSuchTime => "No such local time"

/-- The ways in which a computation can stop without a value. -/
inductive Stop
  | fault (f : Fault)
  | breach (b : Breach)
  | exhausted
deriving DecidableEq, Repr

namespace Stop

variable {α : Type} {x : Except Fault α}

/-- A check as a part of what may stop for other reasons too. -/
def ofCheck : Except Fault α → Except Stop α
  | .ok a => return a
  | .error f => throw (.fault f)

@[simp] theorem ofCheck_ok {a : α} : ofCheck x = .ok a ↔ x = .ok a := by
  cases x <;> simp [ofCheck, pure, Except.pure, throw, throwThe, MonadExceptOf.throw]

end Stop

/-- A computation on a state. -/
abbrev Process (σ : Type) := ExceptT Stop (StateT σ Option)

namespace Process

variable {σ α β : Type}

/-- The outcome of a computation from a state, if it comes to an end. -/
def outcome (x : Process σ α) (s : σ) : Option (Except Stop α × σ) := x.run.run s

/-- Stops a computation for a reason of the domain. -/
def fail (f : Fault) : Process σ α := throw (.fault f)

/-- The outcome of `loop` from a state. -/
def loopFrom (step : α → Process σ (α ⊕ β)) (a : α) (s : σ) : Option (Except Stop β × σ) := do
  match ← (step a).outcome s with
  -- Applied in two steps, since the source position of a full recursive call would stay in the term.
  | (.ok (.inl a'), s') => (loopFrom step (s := s')) a'
  | (.ok (.inr b), s') => some (.ok b, s')
  | (.error e, s') => some (.error e, s')
partial_fixpoint

/-- Repeats a step: it goes on with a value on the left, and ends with one on the right. -/
def loop (step : α → Process σ (α ⊕ β)) (a : α) : Process σ β := ExceptT.mk (loopFrom step a)

/-! ## Outcomes -/

@[simp] theorem outcome_pure (a : α) (s : σ) : (pure a : Process σ α).outcome s = some (.ok a, s) :=
  rfl

@[simp] theorem outcome_throw (e : Stop) (s : σ) :
    (throw e : Process σ α).outcome s = some (.error e, s) :=
  rfl

@[simp] theorem outcome_fail (f : Fault) (s : σ) :
    (fail f : Process σ α).outcome s = some (.error (.fault f), s) :=
  rfl

@[simp] theorem outcome_get (s : σ) : (get : Process σ σ).outcome s = some (.ok s, s) := rfl

@[simp] theorem outcome_set (s s' : σ) : (set s' : Process σ PUnit).outcome s = some (.ok ⟨⟩, s') :=
  rfl

@[simp] theorem outcome_modify (f : σ → σ) (s : σ) :
    (modify f : Process σ PUnit).outcome s = some (.ok ⟨⟩, f s) :=
  rfl

/-- The second computation starts with the value and in the state in which the first one ends. -/
theorem outcome_bind (x : Process σ α) (f : α → Process σ β) (s : σ) :
    (x >>= f).outcome s = match x.outcome s with
      | some (.ok a, s') => (f a).outcome s'
      | some (.error e, s') => some (.error e, s')
      | none => none := by
  simp only [outcome, ExceptT.run_bind, StateT.run_bind]
  cases x.run.run s with
  | none => rfl
  | some r => obtain ⟨r | r, s'⟩ := r <;> rfl

/-- A sequence has a value if both of its parts have one. -/
theorem outcome_bind_ok {x : Process σ α} {f : α → Process σ β} {s t : σ} {b : β} :
    (x >>= f).outcome s = some (.ok b, t) ↔
      ∃ a s', x.outcome s = some (.ok a, s') ∧ (f a).outcome s' = some (.ok b, t) := by
  rw [outcome_bind]
  constructor
  · intro h
    split at h
    · next a s' hx => exact ⟨a, s', hx, h⟩
    · cases h
    · cases h
  · rintro ⟨a, s', hx, hf⟩
    rw [hx]
    exact hf

/-- A sequence stops where its first part stops, or where its second part does after that. -/
theorem outcome_bind_error {x : Process σ α} {f : α → Process σ β} {s t : σ} {e : Stop} :
    (x >>= f).outcome s = some (.error e, t) ↔
      x.outcome s = some (.error e, t) ∨
        ∃ a s', x.outcome s = some (.ok a, s') ∧ (f a).outcome s' = some (.error e, t) := by
  rw [outcome_bind]
  constructor
  · intro h
    split at h
    · next a s' hx => exact .inr ⟨a, s', hx, h⟩
    · next e' s' hx =>
      cases h
      exact .inl hx
    · cases h
  · rintro (hx | ⟨a, s', hx, hf⟩)
    · rw [hx]
    · rw [hx]
      exact hf

/-! ## Loops -/

/-- A loop is one step, followed by the rest of the loop unless the step ends it. -/
theorem outcome_loop (step : α → Process σ (α ⊕ β)) (a : α) (s : σ) :
    (loop step a).outcome s = match (step a).outcome s with
      | some (.ok (.inl a'), s') => (loop step a').outcome s'
      | some (.ok (.inr b), s') => some (.ok b, s')
      | some (.error e, s') => some (.error e, s')
      | none => none := by
  change loopFrom step a s = _
  rw [loopFrom]
  cases (step a).outcome s with
  | none => rfl
  | some r => obtain ⟨e | (a' | b), s'⟩ := r <;> rfl

/-- The rule for loops: what every step keeps holds when the loop ends. -/
theorem outcome_loop_of_invariant {step : α → Process σ (α ⊕ β)} {I : α → σ → Prop}
    {Q : Except Stop β → σ → Prop}
    (hnext : ∀ a s a' s', I a s → (step a).outcome s = some (.ok (.inl a'), s') → I a' s')
    (hdone : ∀ a s b s', I a s → (step a).outcome s = some (.ok (.inr b), s') → Q (.ok b) s')
    (hstop : ∀ a s e s', I a s → (step a).outcome s = some (.error e, s') → Q (.error e) s')
    {a : α} {s s' : σ} {r : Except Stop β} (hI : I a s)
    (h : (loop step a).outcome s = some (r, s')) : Q r s' := by
  refine loopFrom.partial_correctness step (fun a s r => I a s → Q r.1 r.2) ?_ a s (r, s') h hI
  intro rest ih a s r hr hI
  cases hs : (step a).outcome s with
  | none => simp [hs] at hr
  | some o =>
    rw [hs] at hr
    obtain ⟨e | (a' | b), t⟩ := o
    · cases hr
      exact hstop a s e t hI hs
    · exact ih a' t r hr (hnext a s a' t hI hs)
    · cases hr
      exact hdone a s b t hI hs

end Process

end FluxCorpus
