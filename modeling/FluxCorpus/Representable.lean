/-!
# Representable integers

The integers of 64 bits with a sign.  Times, seeds and integers in JSON must be representable.
-/

namespace FluxCorpus

/-- An integer of 64 bits with a sign. -/
abbrev Representable (i : Int) : Prop := -9223372036854775808 ≤ i ∧ i < 9223372036854775808

end FluxCorpus
