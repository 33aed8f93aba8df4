import FluxCorpus.Text.Decimal

/-!
# Columns

Text filled up with spaces to the width of a column.
-/

namespace FluxCorpus.Text

/-- A number at the right end of a column. -/
def alignRight (width n : Nat) : String :=
  String.ofList (List.replicate (width - (Decimal.digits n).length) ' ' ++ Decimal.digits n)

/-- A text at the left end of a column. -/
def alignLeft (width : Nat) (s : String) : String :=
  s ++ String.ofList (List.replicate (width - s.length) ' ')

end FluxCorpus.Text
