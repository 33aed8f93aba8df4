/-!
# Hexadecimal numerals

* `digit` and `digits` write a number in lower case.
* `value?` reads one digit in either case.
-/

namespace FluxCorpus.Text.Hexadecimal

/-- One hexadecimal digit in lower case. -/
def digit (d : Nat) : Char := Char.ofNat (if d < 10 then 48 + d else 87 + d)

/-- One hexadecimal digit in upper case. -/
def upperDigit (d : Nat) : Char := Char.ofNat (if d < 10 then 48 + d else 55 + d)

/-- The hexadecimal numeral of `n` in lower case, without leading zeros. -/
def digits (n : Nat) : List Char :=
  if n < 16 then [digit n] else digits (n / 16) ++ [digit (n % 16)]
termination_by n
decreasing_by omega

/-- The value of a hexadecimal digit. -/
def value? (c : Char) : Option Nat :=
  if c.isDigit then some (c.toNat - 48)
  else if 'a' ≤ c ∧ c ≤ 'f' then some (c.toNat - 87)
  else if 'A' ≤ c ∧ c ≤ 'F' then some (c.toNat - 55)
  else none

end FluxCorpus.Text.Hexadecimal
