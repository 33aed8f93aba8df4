import FluxCorpus.Proofs.Text.Decimal
import FluxCorpus.Proofs.Text.Reading
import Mathlib.Algebra.BigOperators.Group.List.Basic
import Mathlib.Algebra.Order.Field.Basic
import Mathlib.Data.Rat.Cast.Order
import Mathlib.Tactic.Positivity

/-!
# Rows of decimal quantities

A length of time can be written as a row of quantities, each of them a decimal number with a unit,
that add up to it.

* `TimeUnit`, `Quantity`, `total` — such rows, and what they add up to.
* `quantities?` — a reader of a text of quantities.
* `Quantity.Proper`, `Canonical` — the canonical rows: numbers with neither leading nor trailing
  zeros, in the largest unit that fits, and below it numbers that do not fill up the next unit.
* `quantities?_flatMap` — the text of a row of proper quantities is read back.
* `Quantity.Proper.eq` — a number of units is written in one way.
-/

namespace FluxCorpus.Duration

open Text (Decimal.digits Decimal.padded Decimal.value)

/-! ## Quantities -/

/-- A unit of time. -/
inductive TimeUnit
  | hours
  | minutes
  | seconds
  | milliseconds
  | microseconds
  | nanoseconds
deriving DecidableEq, Repr

namespace TimeUnit

/-- The nanoseconds in a unit. -/
def nanos : TimeUnit → Nat
  | hours => 3600000000000
  | minutes => 60000000000
  | seconds => 1000000000
  | milliseconds => 1000000
  | microseconds => 1000
  | nanoseconds => 1

/-- The symbol of a unit. -/
def symbol : TimeUnit → List Char
  | hours => ['h']
  | minutes => ['m']
  | seconds => ['s']
  | milliseconds => ['m', 's']
  | microseconds => ['µ', 's']
  | nanoseconds => ['n', 's']

/-- The unit with a symbol. -/
def ofSymbol? (cs : List Char) : Option TimeUnit :=
  [hours, minutes, seconds, milliseconds, microseconds, nanoseconds].find? fun u => u.symbol = cs

theorem ofSymbol?_symbol (u : TimeUnit) : ofSymbol? u.symbol = some u := by cases u <;> decide

/-- A symbol has no digit, and does not begin with a point. -/
theorem symbol_spec (u : TimeUnit) :
    (∀ c ∈ u.symbol, c.isDigit = false) ∧ ∃ c cs, u.symbol = c :: cs ∧ c ≠ '.' := by
  have hdigits : (u.symbol.all fun c => !c.isDigit) = true := by cases u <;> rfl
  refine ⟨fun c hc => ?_, ?_⟩
  · simpa using List.all_eq_true.1 hdigits c hc
  · cases u <;> exact ⟨_, _, rfl, by decide⟩

end TimeUnit

/-- What digits behind a point are worth. -/
def behindPoint (ds : List Char) : ℚ := Decimal.value ds / 10 ^ ds.length

/-- A decimal number of a unit: the digits before the point, and those behind it if there is one. -/
structure Quantity where
  whole : List Char
  fraction : Option (List Char)
  unit : TimeUnit
deriving DecidableEq, Repr

namespace Quantity

/-- The text of a quantity. -/
def chars (q : Quantity) : List Char :=
  q.whole ++ (q.fraction.elim [] ('.' :: ·) ++ q.unit.symbol)

theorem chars_append (q : Quantity) (rest : List Char) : q.chars ++ rest
    = q.whole ++ (q.fraction.elim [] ('.' :: ·) ++ (q.unit.symbol ++ rest)) := by
  rw [chars, List.append_assoc, List.append_assoc]

/-- The units before the point. -/
def amount (q : Quantity) : Nat := Decimal.value q.whole

/-- What is behind the point, as a part of a unit. -/
def part (q : Quantity) : ℚ := q.fraction.elim 0 behindPoint

/-- The nanoseconds of a quantity. -/
def nanos (q : Quantity) : ℚ := (q.amount + q.part) * q.unit.nanos

end Quantity

/-- The nanoseconds of a row of quantities. -/
def total (qs : List Quantity) : ℚ := (qs.map Quantity.nanos).sum

/-! ## Reading a row of quantities -/

/-- Reads a unit, up to the next digit. -/
def unit? (cs : List Char) : Option (TimeUnit × List Char) :=
  (TimeUnit.ofSymbol? (cs.takeWhile fun c => !c.isDigit)).map fun u =>
    (u, cs.dropWhile fun c => !c.isDigit)

/-- Reads a point and the digits behind it, if there is a point. -/
def afterPoint : List Char → Option (List Char) × List Char
  | '.' :: cs => (some (cs.takeWhile Char.isDigit), cs.dropWhile Char.isDigit)
  | cs => (none, cs)

/-- Reads a quantity: digits, possibly a point and more digits, and a unit. -/
def quantity? (cs : List Char) : Option (Quantity × List Char) :=
  if cs.takeWhile Char.isDigit = [] then none
  else
    (unit? (afterPoint (cs.dropWhile Char.isDigit)).2).map fun r =>
      (⟨cs.takeWhile Char.isDigit, (afterPoint (cs.dropWhile Char.isDigit)).1, r.1⟩, r.2)

theorem length_le_of_unit? {cs rest : List Char} {u : TimeUnit} (h : unit? cs = some (u, rest)) :
    rest.length ≤ cs.length := by
  rw [unit?, Option.map_eq_some_iff] at h
  obtain ⟨u', -, heq⟩ := h
  cases heq
  exact (List.dropWhile_suffix _).length_le

theorem length_afterPoint_le (cs : List Char) : (afterPoint cs).2.length ≤ cs.length := by
  unfold afterPoint
  split
  · exact (List.dropWhile_suffix _).length_le.trans (Nat.le_succ _)
  · exact Nat.le_refl _

/-- A quantity takes at least one digit. -/
theorem length_lt_of_quantity? {cs rest : List Char} {q : Quantity}
    (h : quantity? cs = some (q, rest)) : rest.length < cs.length := by
  rw [quantity?, Option.ite_none_left_eq_some, Option.map_eq_some_iff] at h
  obtain ⟨hdigits, ⟨u, rest'⟩, hunit, heq⟩ := h
  cases heq
  have hsplit := congrArg List.length (List.takeWhile_append_dropWhile (p := Char.isDigit) (l := cs))
  have hpos := List.length_pos_of_ne_nil hdigits
  have hpoint := length_afterPoint_le (cs.dropWhile Char.isDigit)
  have hrest := length_le_of_unit? hunit
  rw [List.length_append] at hsplit
  change rest'.length < cs.length
  omega

/-- Reads a row of quantities, up to the end of the text. -/
def quantities? (cs : List Char) : Option (List Quantity) :=
  match h : quantity? cs with
  | none => none
  | some (q, []) => some [q]
  | some (q, c :: rest) =>
    have := length_lt_of_quantity? h
    (quantities? (c :: rest)).map (q :: ·)
termination_by cs.length

/-- A quantity that ends a text ends the row. -/
theorem quantities?_last {cs : List Char} {q : Quantity} (h : quantity? cs = some (q, [])) :
    quantities? cs = some [q] := by
  rw [quantities?]
  split <;> simp_all

/-- Behind a quantity the row goes on with the rest of the text. -/
theorem quantities?_more {cs : List Char} {q : Quantity} {c : Char} {rest : List Char}
    (h : quantity? cs = some (q, c :: rest)) :
    quantities? cs = (quantities? (c :: rest)).map (q :: ·) := by
  rw [quantities?]
  split <;> simp_all

/-- Nothing of a quantity is left for what follows it, and nothing else is taken: a quantity is read
up to the next one. -/
theorem quantity?_append {q : Quantity} (rest : List Char) (hne : q.whole ≠ [])
    (hwhole : ∀ c ∈ q.whole, c.isDigit) (hfraction : ∀ ds ∈ q.fraction, ∀ c ∈ ds, c.isDigit)
    (hrest : ∀ c ∈ rest.head?, c.isDigit) : quantity? (q.chars ++ rest) = some (q, rest) := by
  obtain ⟨hsymbol, d, ds, hhead, hdot⟩ := q.unit.symbol_spec
  have hunit : unit? (q.unit.symbol ++ rest) = some (q.unit, rest) := by
    obtain ⟨htake, hdrop⟩ := Text.takeWhile_dropWhile_append (p := fun c => !c.isDigit)
      (a := q.unit.symbol) (b := rest) (by simpa using hsymbol) (by simpa using hrest)
    rw [unit?, htake, hdrop, TimeUnit.ofSymbol?_symbol, Option.map_some]
  have hunitHead : ∀ c ∈ (q.unit.symbol ++ rest).head?, c.isDigit = false := by
    rw [hhead]
    rintro c ⟨⟩
    exact hsymbol d (hhead ▸ List.mem_cons_self)
  have hpoint : afterPoint (q.fraction.elim [] ('.' :: ·) ++ (q.unit.symbol ++ rest))
      = (q.fraction, q.unit.symbol ++ rest) := by
    cases hq : q.fraction with
    | none =>
      rw [hhead]
      change afterPoint (d :: (ds ++ rest)) = _
      unfold afterPoint
      split
      · next heq => exact absurd (List.cons.inj heq).1 hdot
      · rfl
    | some fs =>
      obtain ⟨htake, hdrop⟩ := Text.takeWhile_dropWhile_append (hfraction fs hq) hunitHead
      change afterPoint ('.' :: (fs ++ (q.unit.symbol ++ rest))) = _
      rw [afterPoint, htake, hdrop]
  have hpointHead : ∀ c ∈ (q.fraction.elim [] ('.' :: ·) ++ (q.unit.symbol ++ rest)).head?,
      c.isDigit = false := by
    cases q.fraction with
    | none => exact hunitHead
    | some fs =>
      rintro c ⟨⟩
      decide
  obtain ⟨htake, hdrop⟩ := Text.takeWhile_dropWhile_append hwhole hpointHead
  rw [q.chars_append, quantity?, htake, hdrop, if_neg hne, hpoint, hunit]
  rfl

/-! ## The canonical way -/

/-- A run of digits that does not begin with a zero, unless this is all of it. -/
structure Numeral (cs : List Char) : Prop where
  ne_nil : cs ≠ []
  digits : ∀ c ∈ cs, c.isDigit
  lead : ∀ rest, cs = '0' :: rest → rest = []

/-- Digits behind a point, the last of which is not a zero. -/
structure Trimmed (ds : List Char) : Prop where
  ne_nil : ds ≠ []
  digits : ∀ c ∈ ds, c.isDigit
  last : ds.getLast? ≠ some '0'

/-- A quantity without zeros that could be left out. -/
structure Quantity.Proper (q : Quantity) : Prop where
  whole : Numeral q.whole
  fraction : ∀ ds ∈ q.fraction, Trimmed ds

/-- The canonical way to write a length of time: nothing as no seconds, and what is shorter than a
second in the unit of which it has less than a thousand; seconds if there is nothing larger, and
minutes and hours with all that is smaller behind them. -/
inductive Canonical : List Quantity → Prop
  | zero : Canonical [⟨['0'], none, .seconds⟩]
  | single {q : Quantity} : q.Proper →
    q.unit ∈ [TimeUnit.nanoseconds, .microseconds, .milliseconds] →
    1 ≤ q.amount → q.amount ≤ 999 → Canonical [q]
  | seconds {s : Quantity} : s.Proper → s.unit = .seconds → 1 ≤ s.amount → s.amount < 60 →
    Canonical [s]
  | minutes {m s : Quantity} : m.Proper → s.Proper → m.unit = .minutes → s.unit = .seconds →
    m.fraction = none → 1 ≤ m.amount → m.amount < 60 → s.amount < 60 → Canonical [m, s]
  | hours {h m s : Quantity} : h.Proper → m.Proper → s.Proper → h.unit = .hours →
    m.unit = .minutes → s.unit = .seconds → h.fraction = none → m.fraction = none →
    1 ≤ h.amount → m.amount < 60 → s.amount < 60 → Canonical [h, m, s]

theorem Canonical.ne_nil {qs : List Quantity} (h : Canonical qs) : qs ≠ [] := by
  cases h <;> exact List.cons_ne_nil _ _

theorem Canonical.proper {qs : List Quantity} (h : Canonical qs) : ∀ q ∈ qs, q.Proper := by
  cases h with
  | zero =>
    refine List.forall_mem_singleton.2 ⟨⟨by decide, ?_, fun rest h => ?_⟩, nofun⟩
    · exact List.forall_mem_singleton.2 rfl
    · exact (List.cons.inj h).2.symm
  | single hq => simpa
  | seconds hs => simpa
  | minutes hm hs => simpa using ⟨hm, hs⟩
  | hours hh hm hs => simpa using ⟨hh, hm, hs⟩

/-- A row of proper quantities is read back. -/
theorem quantities?_flatMap {qs : List Quantity} (hne : qs ≠ []) (h : ∀ q ∈ qs, q.Proper) :
    quantities? (qs.flatMap Quantity.chars) = some qs := by
  induction qs with
  | nil => exact absurd rfl hne
  | cons q qs ih =>
    rw [List.forall_mem_cons] at h
    obtain ⟨hq, hqs⟩ := h
    have hread := fun rest => quantity?_append rest hq.whole.ne_nil hq.whole.digits
      fun ds hds => (hq.fraction ds hds).digits
    rw [List.flatMap_cons]
    cases qs with
    | nil => exact quantities?_last (hread [] nofun)
    | cons q' qs =>
      -- the next quantity begins with a digit
      obtain ⟨d, ds, hd⟩ := List.exists_cons_of_ne_nil (hqs q' List.mem_cons_self).whole.ne_nil
      have hdigit : d.isDigit :=
        (hqs q' List.mem_cons_self).whole.digits d (hd ▸ List.mem_cons_self)
      obtain ⟨cs, hcs⟩ : ∃ cs, (q' :: qs).flatMap Quantity.chars = d :: cs := by
        rw [List.flatMap_cons, Quantity.chars, hd]
        exact ⟨_, rfl⟩
      have hrow := ih (List.cons_ne_nil q' qs) hqs
      rw [hcs] at hrow ⊢
      rw [quantities?_more (hread (d :: cs) (by simpa using hdigit)), hrow, Option.map_some]

/-! ## Canonical numbers -/

theorem numeral_digits (n : Nat) : Numeral (Decimal.digits n) where
  ne_nil := Text.Decimal.digits_ne_nil n
  digits := List.all_eq_true.1 (Text.Decimal.all_isDigit_digits n)
  lead := by
    intro rest h
    cases rest with
    | nil => rfl
    | cons c rest => exact absurd h (Text.Decimal.digits_ne_zero_cons n c rest)

/-- Zeros are digits. -/
theorem isDigit_zeros (k : Nat) : ∀ c ∈ List.replicate k '0', c.isDigit := by
  intro c hc
  rw [List.eq_of_mem_replicate hc]
  rfl

/-- A number has one numeral. -/
theorem Numeral.eq_of_value_eq {a b : List Char} (ha : Numeral a) (hb : Numeral b)
    (h : Decimal.value a = Decimal.value b) : a = b := by
  wlog hlen : a.length ≤ b.length generalizing a b
  · exact (this hb ha h.symm (Nat.le_of_not_le hlen)).symm
  have hzeros : ∀ c ∈ List.replicate (b.length - a.length) '0' ++ a, c.isDigit := by
    rw [List.forall_mem_append]
    exact ⟨isDigit_zeros _, ha.digits⟩
  have hb' : b = List.replicate (b.length - a.length) '0' ++ a := by
    apply Text.Decimal.eq_of_value_eq hb.digits hzeros
    · rw [List.length_append, List.length_replicate]
      omega
    · rw [Text.Decimal.value_replicate_zero_append, h]
  cases hk : b.length - a.length with
  | zero =>
    rw [hk] at hb'
    exact hb'.symm
  | succ k =>
    rw [hk, List.replicate_succ, List.cons_append] at hb'
    exact absurd (List.append_eq_nil_iff.1 (hb.lead _ hb')).2 ha.ne_nil

theorem behindPoint_append_zeros (ds : List Char) (k : Nat) :
    behindPoint (ds ++ List.replicate k '0') = behindPoint ds := by
  have hpow : (10 : ℚ) ^ k ≠ 0 := by positivity
  rw [behindPoint, Text.Decimal.value_append_replicate_zero, List.length_append,
    List.length_replicate, pow_add, Nat.cast_mul, Nat.cast_pow]
  exact mul_div_mul_right _ _ hpow

theorem behindPoint_nonneg (ds : List Char) : 0 ≤ behindPoint ds := by
  unfold behindPoint
  positivity

theorem behindPoint_lt_one {ds : List Char} (h : ∀ c ∈ ds, c.isDigit) : behindPoint ds < 1 := by
  rw [behindPoint, div_lt_one (by positivity)]
  exact_mod_cast Text.Decimal.value_lt h

theorem Trimmed.behindPoint_pos {ds : List Char} (h : Trimmed ds) : 0 < behindPoint ds := by
  obtain ⟨ds, c, rfl⟩ := (List.eq_nil_or_concat ds).resolve_left h.ne_nil
  rw [List.concat_eq_append] at *
  have hc := Text.Decimal.digit_bounds (h.digits c (by simp))
  have hne : c.toNat ≠ 48 := by
    intro hzero
    have hchar : c = '0' := Char.toNat_inj.1 hzero
    exact h.last (by rw [hchar, List.getLast?_concat])
  have hvalue : 0 < Decimal.value (ds ++ [c]) := by
    rw [Text.Decimal.value_concat]
    omega
  unfold behindPoint
  positivity

/-- What is behind a point is written in one way. -/
theorem Trimmed.eq_of_behindPoint_eq {a b : List Char} (ha : Trimmed a) (hb : Trimmed b)
    (h : behindPoint a = behindPoint b) : a = b := by
  wlog hlen : a.length ≤ b.length generalizing a b
  · exact (this hb ha h.symm (Nat.le_of_not_le hlen)).symm
  have hzeros : ∀ c ∈ a ++ List.replicate (b.length - a.length) '0', c.isDigit := by
    rw [List.forall_mem_append]
    exact ⟨ha.digits, isDigit_zeros _⟩
  have hlength : (a ++ List.replicate (b.length - a.length) '0').length = b.length := by
    rw [List.length_append, List.length_replicate]
    omega
  have hvalue : Decimal.value (a ++ List.replicate (b.length - a.length) '0')
      = Decimal.value b := by
    rw [← behindPoint_append_zeros a (b.length - a.length), behindPoint, behindPoint, hlength,
      div_left_inj' (by positivity)] at h
    exact_mod_cast h
  have hb' := Text.Decimal.eq_of_value_eq hzeros hb.digits hlength hvalue
  cases hk : b.length - a.length with
  | zero =>
    rw [hk, List.replicate_zero, List.append_nil] at hb'
    exact hb'
  | succ k =>
    rw [hk, List.replicate_succ', ← List.append_assoc] at hb'
    exact absurd (by rw [← hb', List.getLast?_concat]) hb.last

namespace Quantity

theorem part_nonneg (q : Quantity) : 0 ≤ q.part := by
  unfold part
  cases q.fraction with
  | none => exact le_refl 0
  | some ds => exact behindPoint_nonneg ds

theorem Proper.part_lt_one {q : Quantity} (h : q.Proper) : q.part < 1 := by
  unfold part
  cases hq : q.fraction with
  | none => exact one_pos
  | some ds => exact behindPoint_lt_one (h.fraction ds hq).digits

theorem Proper.fraction_eq {q r : Quantity} (hq : q.Proper) (hr : r.Proper)
    (h : q.part = r.part) : q.fraction = r.fraction := by
  unfold part at h
  cases hqf : q.fraction with
  | none =>
    cases hrf : r.fraction with
    | none => rfl
    | some ds =>
      rw [hqf, hrf] at h
      exact absurd h (hr.fraction ds hrf).behindPoint_pos.ne
  | some ds =>
    cases hrf : r.fraction with
    | none =>
      rw [hqf, hrf] at h
      exact absurd h (hq.fraction ds hqf).behindPoint_pos.ne'
    | some es =>
      rw [hqf, hrf] at h
      rw [(hq.fraction ds hqf).eq_of_behindPoint_eq (hr.fraction es hrf) h]

/-- A number of units is written in one way. -/
theorem Proper.eq {q r : Quantity} (hq : q.Proper) (hr : r.Proper) (hunit : q.unit = r.unit)
    (hamount : q.amount = r.amount) (hpart : q.part = r.part) : q = r := by
  have hwhole : q.whole = r.whole := hq.whole.eq_of_value_eq hr.whole hamount
  have hfraction : q.fraction = r.fraction := hq.fraction_eq hr hpart
  cases q
  cases r
  congr

end Quantity

end FluxCorpus.Duration
