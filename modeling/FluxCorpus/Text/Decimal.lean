/-!
# Decimal numerals

Numbers as text and back, over `List Char`.

* `digits` writes a natural number without leading zeros, `padded` with at least a given width.
* `value` reads a run of digits; `value_digits` says that nothing is lost.
* `nat?`, `unsigned?` and `signed?` read a whole text and refuse anything else.
-/

namespace FluxCorpus.Text.Decimal

/-- The character of one decimal digit. -/
def digitChar (d : Nat) : Char := Char.ofNat (48 + d)

/-- The numeral of `n`, most significant digit first and without leading zeros. -/
def digits (n : Nat) : List Char :=
  if n < 10 then [digitChar n] else digits (n / 10) ++ [digitChar (n % 10)]
termination_by n
decreasing_by omega

/-- The number that a run of digits denotes. -/
def value (cs : List Char) : Nat :=
  cs.foldl (fun acc c => acc * 10 + (c.toNat - 48)) 0

/-- The numeral of `n`, filled up with zeros on the left to `width` characters. -/
def padded (width n : Nat) : List Char :=
  List.replicate (width - (digits n).length) '0' ++ digits n

/-- The numeral of `n` as a string. -/
def text (n : Nat) : String := String.ofList (digits n)

/-- The numeral of an integer as a string, with a minus sign in front of a negative one. -/
def intText (i : Int) : String := if i < 0 then "-" ++ text i.natAbs else text i.natAbs

/-! ## Reading a whole text -/

/-- Reads a text of one or more digits. -/
def nat? (cs : List Char) : Option Nat :=
  if cs ≠ [] ∧ cs.all Char.isDigit then some (value cs) else none

/-- Reads an optional plus sign followed by digits. -/
def unsigned? : List Char → Option Nat
  | '+' :: cs => nat? cs
  | cs => nat? cs

/-- Reads an optional sign followed by digits. -/
def signed? : List Char → Option Int
  | '-' :: cs => (nat? cs).map fun n => -(n : Int)
  | '+' :: cs => (nat? cs).map Int.ofNat
  | cs => (nat? cs).map Int.ofNat

/-! ## Writing and reading agree -/

theorem toNat_digitChar {d : Nat} (h : d < 10) : (digitChar d).toNat = 48 + d := by
  have all : ∀ d : Fin 10, (digitChar d).toNat = 48 + d := by decide
  exact all ⟨d, h⟩

theorem isDigit_digitChar {d : Nat} (h : d < 10) : (digitChar d).isDigit = true := by
  have all : ∀ d : Fin 10, (digitChar d).isDigit = true := by decide
  exact all ⟨d, h⟩

theorem digits_ne_nil (n : Nat) : digits n ≠ [] := by
  rw [digits]
  split <;> simp

theorem all_isDigit_digits (n : Nat) : (digits n).all Char.isDigit = true := by
  fun_induction digits n with
  | case1 n h => simp [isDigit_digitChar h]
  | case2 n _ ih => simp [List.all_append, ih, isDigit_digitChar (Nat.mod_lt n (by omega : 0 < 10))]

theorem value_concat (cs : List Char) (c : Char) :
    value (cs ++ [c]) = value cs * 10 + (c.toNat - 48) := by
  simp [value, List.foldl_append]

/-- Reading undoes writing. -/
theorem value_digits (n : Nat) : value (digits n) = n := by
  fun_induction digits n with
  | case1 n h => simp [value, toNat_digitChar h]
  | case2 n _ ih =>
    rw [value_concat, ih, toNat_digitChar (Nat.mod_lt n (by omega : 0 < 10))]
    omega

theorem nat?_digits (n : Nat) : nat? (digits n) = some n := by
  rw [nat?, if_pos ⟨digits_ne_nil n, all_isDigit_digits n⟩, value_digits]

end FluxCorpus.Text.Decimal
