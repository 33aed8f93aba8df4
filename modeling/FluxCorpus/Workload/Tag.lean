import FluxCorpus.Random.Subset

/-!
# Sampled tags

The hosts or trucks of a simulation are numbered from 0 up to its scale.  A sample of them is drawn
without repetition and named in draw order; a fleet is one of four.
-/

namespace FluxCorpus

/-- The column with the names of hosts or trucks. -/
def TagKind.column : TagKind → String
  | .host => "hostname"
  | .truck => "name"

/-- The name of a numbered host or truck. -/
def TagKind.member (kind : TagKind) (index : Nat) : String :=
  kind.noun ++ "_" ++ Text.Decimal.text index

/-- The fleets that a truck can belong to. -/
def fleets : List String := ["East", "West", "North", "South"]

namespace Draw

variable {σ : Type} [WordSource σ]

/-- The names of `n` different hosts or trucks out of `scale`.  No word is taken if there are not
that many, or if none is asked for. -/
def tags (kind : TagKind) (n scale : Nat) : Draw σ (List String) :=
  if n < 1 then Process.fail (.tooFewTags kind n)
  else if scale < n then Process.fail (.tooManyTags kind n scale)
  else do return (← subset n scale).map kind.member

/-- One of the fleets. -/
def fleet : Draw σ String := do
  let k ← index fleets.length
  match fleets[k]? with
  | some f => return f
  | none => throw (.breach (.indexRange fleets.length k))

end Draw

end FluxCorpus
