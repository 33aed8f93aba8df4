import FluxCorpus.Generator

/-!
# Predicates in Flux

A record is selected by a list of values that one of its columns may have.  The disjunction always
stands in parentheses, so that it can be joined to other conditions.
-/

namespace FluxCorpus.Flux

/-- One alternative: a column has a value. -/
def term (column value : String) : String := "r." ++ column ++ " == '" ++ value ++ "'"

/-- Texts with ` or ` between them. -/
def alternatives : List String → String
  | [] => ""
  | [t] => t
  | t :: ts => t ++ " or " ++ alternatives ts

/-- A column has one of the listed values. -/
def oneOf (column : String) (values : List String) : String :=
  "(" ++ alternatives (values.map (term column)) ++ ")"

end FluxCorpus.Flux

namespace FluxCorpus.Compose

/-- A column has one of the listed values, of which there must be at least one. -/
def oneOf (column : String) (values : List String) : Compose String :=
  if values.isEmpty then throw (.breach (.emptyPredicate column))
  else return Flux.oneOf column values

/-- The host or truck is one of `n` that are drawn. -/
def tagPredicate (kind : TagKind) (n : Nat) : Compose String := do
  oneOf kind.column (← tags kind n)

/-- The field is one of the listed ones. -/
def fieldPredicate (fields : List String) : Compose String := oneOf "_field" fields

end FluxCorpus.Compose
