import FluxCorpus.CommandLine.Value
import FluxCorpus.Proofs.Time.Reading

/-!
# What the texts of options denote

Each kind of value that an option of a configuration can have is read from the texts that denote it,
and from no others.

* `DenotesNatural`, `DenotesInteger` — decimal numerals of 64 bits, with and without a sign.
* `DenotesUseCase` — the two names of use cases.
* `Reader.unsigned_eq_ok`, `Reader.signed_eq_ok`, `Reader.useCase_eq_ok`, `Reader.timestamp_eq_ok`,
  `Reader.path_eq_ok` — **what is read is what is denoted.**
-/

namespace FluxCorpus.CommandLine

open Text.Decimal (IsNumeral unsigned?_eq_some_iff signed?_eq_some_iff)

/-- A text denotes a natural number below `2 ^ 64`, in decimal digits with or without a plus sign. -/
def DenotesNatural (s : String) (n : Nat) : Prop :=
  n < 18446744073709551616 ∧ ∃ cs, IsNumeral cs n ∧ (s.toList = cs ∨ s.toList = '+' :: cs)

/-- A text denotes an integer from `-2 ^ 63` up to below `2 ^ 63`, in decimal digits with or without
a sign. -/
def DenotesInteger (s : String) (i : Int) : Prop :=
  -9223372036854775808 ≤ i ∧ i < 9223372036854775808 ∧ ∃ cs n, IsNumeral cs n
    ∧ ((s.toList = cs ∨ s.toList = '+' :: cs) ∧ i = n ∨ s.toList = '-' :: cs ∧ i = -n)

/-- A text is the name of a use case. -/
def DenotesUseCase (s : String) (u : UseCase) : Prop :=
  s = "devops" ∧ u = .devops ∨ s = "iot" ∧ u = .iot

namespace Reader

variable {s : String}

theorem ofOption_eq_ok {α : Type} {r : Refusal} {x : Option α} {a : α} :
    ofOption r x = .ok a ↔ x = some a := by
  cases x <;> simp [ofOption, pure, Except.pure, throw, throwThe, MonadExceptOf.throw]

/-- A natural number is read from the texts that denote it. -/
theorem unsigned_eq_ok {n : Nat} : unsigned s = .ok n ↔ DenotesNatural s n := by
  rw [unsigned, ofOption_eq_ok, Option.filter_eq_some_iff, unsigned?_eq_some_iff, decide_eq_true_eq,
    and_comm, DenotesNatural]

/-- An integer is read from the texts that denote it. -/
theorem signed_eq_ok {i : Int} : signed s = .ok i ↔ DenotesInteger s i := by
  rw [signed, ofOption_eq_ok, Option.filter_eq_some_iff, signed?_eq_some_iff, decide_eq_true_eq,
    and_comm, DenotesInteger, and_assoc]

/-- A use case is read from its name. -/
theorem useCase_eq_ok {u : UseCase} : useCase s = .ok u ↔ DenotesUseCase s u := by
  rw [useCase, ofOption_eq_ok, UseCase.ofName?, DenotesUseCase]
  constructor
  · intro h
    have hname : s = u.name := by simpa using List.find?_some h
    cases u with
    | devops => exact .inl ⟨hname, rfl⟩
    | iot => exact .inr ⟨hname, rfl⟩
  · rintro (⟨rfl, rfl⟩ | ⟨rfl, rfl⟩)
    · rfl
    · rfl

/-- A timestamp is read from the texts that denote it. -/
theorem timestamp_eq_ok {t : Instant} : timestamp s = .ok t ↔ t.DenotedBy s := by
  rw [timestamp, ofOption_eq_ok, Instant.parse?_eq_some_iff]

/-- A path is any text but the empty one. -/
theorem path_eq_ok {p : String} : path s = .ok p ↔ s ≠ "" ∧ p = s := by
  rw [path]
  split
  · next hempty => simp [String.isEmpty_iff.1 hempty, throw, throwThe, MonadExceptOf.throw]
  · next hne =>
    have hne : s ≠ "" := fun h => hne (String.isEmpty_iff.2 h)
    simp [hne, pure, Except.pure, eq_comm]

end Reader

end FluxCorpus.CommandLine
