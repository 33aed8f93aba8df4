/-!
# Names in basic letters

A label of letters outside of ASCII is written in letters, digits and hyphens: its basic characters
first, and then how the others are inserted among them, from the least code point to the greatest.
Each insertion is a number with 36 digits of its own, where a threshold says which digit is the
last.  `encode` writes a label in this form and `decode` reads it.
-/

namespace FluxCorpus.Text.Punycode

/-- The digits of a number: letters first, then numerals. -/
def digit (d : Nat) : Char := Char.ofNat (if d < 26 then 97 + d else 22 + d)

/-- The threshold of a digit position for a bias. -/
def threshold (position bias : Nat) : Nat :=
  if position ≤ bias + 1 then 1 else if bias + 26 ≤ position then 26 else position - bias

theorem threshold_pos (position bias : Nat) : 0 < threshold position bias := by
  unfold threshold
  split
  · omega
  · split <;> omega

/-- A number in digits, the least significant one first. -/
def number (bias position n : Nat) : List Char :=
  let t := threshold position bias
  if n < t then [digit n]
  else digit (t + (n - t) % (36 - t)) :: number bias (position + 36) ((n - t) / (36 - t))
termination_by n
decreasing_by
  have := threshold_pos position bias
  exact Nat.lt_of_le_of_lt (Nat.div_le_self _ _) (by omega)

/-- Divides by 35 until a number is small, and counts how often. -/
def settle (delta times : Nat) : Nat × Nat :=
  if delta ≤ 455 then (delta, times) else settle (delta / 35) (times + 1)
termination_by delta
decreasing_by omega

/-- The value of a digit. -/
def value? (c : Char) : Option Nat :=
  if 'a' ≤ c ∧ c ≤ 'z' then some (c.toNat - 97)
  else if c.isDigit then some (c.toNat - 22) else none

/-- No digit counts for more than this many, not even a zero. -/
def greatestWeight : Nat := 4294967295

/-- Reads a number, of whose next digit each unit counts for `weight`, and gives the text behind it.
The digit below its threshold is the last one. -/
def readNumber (bias position weight : Nat) : List Char → Option (Nat × List Char)
  | [] => none
  | c :: cs =>
    match value? c with
    | none => none
    | some d =>
      let t := threshold position bias
      if d < t then some (d * weight, cs)
      else if greatestWeight < weight * (36 - t) then none
      else (readNumber bias (position + 36) (weight * (36 - t)) cs).map fun (n, rest) =>
        (d * weight + n, rest)

/-- A number has at least one digit. -/
theorem length_lt_of_readNumber {bias position weight n : Nat} {cs rest : List Char}
    (h : readNumber bias position weight cs = some (n, rest)) : rest.length < cs.length := by
  induction cs generalizing position weight n with
  | nil => simp [readNumber] at h
  | cons c cs ih =>
    unfold readNumber at h
    split at h
    · simp at h
    · simp only at h
      split at h
      · obtain ⟨-, rfl⟩ := Prod.mk.inj (Option.some.inj h)
        simp
      · split at h
        · simp at h
        · obtain ⟨⟨m, rest'⟩, hr, he⟩ := Option.map_eq_some_iff.1 h
          obtain ⟨-, rfl⟩ := Prod.mk.inj he
          exact Nat.lt_succ_of_lt (ih hr)

/-- The bias after an insertion, from its size and the number of characters so far. -/
def adapt (delta count : Nat) (first : Bool) : Nat :=
  let halved := if first then delta / 700 else delta / 2
  let (rest, times) := settle (halved + halved / count) 0
  36 * times + 36 * rest / (rest + 38)

/-- How far the encoding of a label is. -/
structure Progress where
  written : List Char
  delta : Nat
  bias : Nat
  handled : Nat

/-- Passes one character while those with code point `n` are being inserted. -/
def pass (basic n : Nat) (p : Progress) (c : Char) : Progress :=
  if c.toNat < n then { p with delta := p.delta + 1 }
  else if c.toNat = n then
    ⟨p.written ++ number p.bias 36 p.delta, 0,
      adapt p.delta (p.handled + 1) (p.handled = basic), p.handled + 1⟩
  else p

/-- Inserts the characters of each code point in turn; `n` is the least one that is not yet
handled. -/
def insertAll (label : List Char) (basic : Nat) : Nat → List Nat → Progress → Progress
  | _, [], p => p
  | n, m :: ms, p =>
    let p := { p with delta := p.delta + (m - n) * (p.handled + 1) }
    let p := label.foldl (pass basic m) p
    insertAll label basic (m + 1) ms { p with delta := p.delta + 1 }

/-- Puts a number into an increasing list, unless it is there. -/
def insertSorted (n : Nat) : List Nat → List Nat
  | [] => [n]
  | m :: ms => if n < m then n :: m :: ms else if n = m then m :: ms else m :: insertSorted n ms

/-- A label in basic characters. -/
def encode (label : List Char) : List Char :=
  let basic := label.filter fun c => c.toNat < 128
  let others := (label.filter fun c => 128 ≤ c.toNat).foldr (fun c ms => insertSorted c.toNat ms) []
  let inserted := insertAll label basic.length 128 others ⟨[], 0, 72, basic.length⟩
  (if basic.isEmpty then [] else basic ++ ['-']) ++ inserted.written

/-- Carries out the insertions that a text holds.  `last` is the code point that was inserted last
and `place` the place behind it. -/
def insertRead (label : List Char) (last place bias : Nat) (cs : List Char) :
    Option (List Char) :=
  if cs.isEmpty then some label
  else match h : readNumber bias 36 1 cs with
    | none => none
    | some (n, rest) =>
      let count := label.length + 1
      let next := last + (place + n) / count
      let here := (place + n) % count
      if next.isValidChar then
        insertRead (label.insertIdx here (Char.ofNat next)) next (here + 1)
          (adapt n count (place = 0)) rest
      else none
termination_by cs.length
decreasing_by exact length_lt_of_readNumber h

/-- The label that basic characters stand for.  The last hyphen ends those that are part of the
label itself; a hyphen at the very beginning ends nothing. -/
def decode (cs : List Char) : Option (List Char) :=
  match cs.reverse.span (· ≠ '-') with
  | (digits, _ :: basic) =>
    if basic.isEmpty then none else insertRead basic.reverse 128 0 72 digits.reverse
  | (_, []) => insertRead [] 128 0 72 cs

end FluxCorpus.Text.Punycode
