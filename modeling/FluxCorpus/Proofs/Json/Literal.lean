import FluxCorpus.Json.Shape
import FluxCorpus.Proofs.Text.Decimal
import FluxCorpus.Proofs.Text.Reading

/-!
# Strings and numbers in every spelling

The grammar leaves a choice in how a string or a number is written.  A `Literal` is a string as it
stands in a text, with any of the escapes, and a `NumberLiteral` is a number with any of its parts.
Both are well-formed by construction.

* `stringFrom_piece`, `Literal.string?_body` — a literal is read as the string it denotes.
* `Literal.skipString_body` — and passed over even if it denotes none, because half a pair of
  surrogates stands alone.
* `Literal.text_ofString` — the written form of a string is one of its literals.
* `numeral_unsigned`, `skipNumber_unsigned` — a number is read up to its end.
* `readInteger_intText` — every integer of 64 bits is read back from its numeral.
-/

namespace FluxCorpus.Json

open Text.Hexadecimal (digit value?)

/-! ## Code units -/

theorem value?_digit {d : Nat} (h : d < 16) : value? (digit d) = some d := by
  have all : ∀ d : Fin 16, value? (digit d) = some d.val := by decide
  exact all ⟨d, h⟩

/-- A hexadecimal digit in either case. -/
abbrev HexDigit := { c : Char // (value? c).isSome }

/-- The digit of a number below sixteen. -/
def HexDigit.ofNat (d : Nat) (h : d < 16) : HexDigit := ⟨digit d, by rw [value?_digit h]; rfl⟩

/-- The value of a hexadecimal digit. -/
def HexDigit.value (d : HexDigit) : Nat := (value? d.1).get d.2

@[simp] theorem HexDigit.value?_val (d : HexDigit) : value? d.1 = some d.value :=
  (Option.some_get d.2).symm

@[simp] theorem HexDigit.value_ofNat {d : Nat} (h : d < 16) : (HexDigit.ofNat d h).value = d := by
  simp [HexDigit.ofNat, HexDigit.value, value?_digit h]

/-- A code unit of sixteen bits in four hexadecimal digits. -/
structure CodeUnit where
  first : HexDigit
  second : HexDigit
  third : HexDigit
  fourth : HexDigit

namespace CodeUnit

/-- The digits of a code unit. -/
def text (u : CodeUnit) : List Char := [u.first.1, u.second.1, u.third.1, u.fourth.1]

/-- The number that a code unit denotes. -/
def value (u : CodeUnit) : Nat :=
  16 * (16 * (16 * u.first.value + u.second.value) + u.third.value) + u.fourth.value

end CodeUnit

/-- What is left of a string after the last digit of a code unit. -/
theorem stringFrom_codeUnit (strict : Bool) (high : Option Nat) (u : CodeUnit)
    (done rest : List Char) :
    stringFrom strict (.hex 4 0 high) done (u.text ++ rest)
      = (unit strict u.value high).bind fun r =>
          stringFrom strict r.1 (r.2.toList ++ done) rest := by
  simp only [CodeUnit.text, List.cons_append, List.nil_append, stringFrom, stringStep,
    HexDigit.value?_val]
  simp only [pure, Except.pure, reduceCtorEq, false_and, if_false, Nat.reduceLeDiff, if_true,
    Nat.reduceSub, Option.toList_none, List.nil_append, Nat.mul_zero, Nat.zero_add, le_refl,
    ← CodeUnit.value.eq_1 u]
  cases unit strict u.value high <;> rfl

/-- Four characters have at least four bytes. -/
theorem stringFrom_escapedUnit (strict : Bool) (high : Option Nat) (u : CodeUnit)
    (done rest : List Char) :
    stringFrom strict (.backslash high) done ('u' :: (u.text ++ rest))
      = stringFrom strict (.hex 4 0 high) done (u.text ++ rest) := by
  have hlength : ¬ Text.byteLength ((u.text ++ rest).take 4) < 4 := by
    have hpos (d : HexDigit) : 0 < d.1.utf8Size := Char.utf8Size_pos _
    have := hpos u.first
    have := hpos u.second
    have := hpos u.third
    have := hpos u.fourth
    simp only [CodeUnit.text, List.cons_append, List.nil_append, List.take_succ_cons, List.take_zero,
      Text.byteLength, List.foldl_cons, List.foldl_nil]
    omega
  simp [stringFrom, stringStep, hlength, pure, Except.pure]

/-- A whole code unit outside a pair. -/
theorem stringFrom_unit (strict : Bool) (u : CodeUnit) (done rest : List Char) :
    stringFrom strict .plain done ('\\' :: 'u' :: (u.text ++ rest))
      = (unit strict u.value none).bind fun r =>
          stringFrom strict r.1 (r.2.toList ++ done) rest := by
  have hslash : stringFrom strict .plain done ('\\' :: 'u' :: (u.text ++ rest))
      = stringFrom strict (.backslash none) done ('u' :: (u.text ++ rest)) := rfl
  rw [hslash, stringFrom_escapedUnit, stringFrom_codeUnit]

/-- A whole code unit behind the first half of a pair. -/
theorem stringFrom_secondUnit (strict : Bool) (high : Nat) (u : CodeUnit) (done rest : List Char) :
    stringFrom strict (.half high) done ('\\' :: 'u' :: (u.text ++ rest))
      = (unit strict u.value (some high)).bind fun r =>
          stringFrom strict r.1 (r.2.toList ++ done) rest := by
  have hslash : stringFrom strict (.half high) done ('\\' :: 'u' :: (u.text ++ rest))
      = stringFrom strict (.backslash (some high)) done ('u' :: (u.text ++ rest)) := rfl
  rw [hslash, stringFrom_escapedUnit, stringFrom_codeUnit]

theorem isLow_of_isHigh {u : Nat} (h : isHigh u = true) : isLow u = false := by
  simp only [isHigh, isLow, Bool.and_eq_true, decide_eq_true_eq, Bool.and_eq_false_iff,
    decide_eq_false_iff_not] at h ⊢
  omega

/-! ## Literals -/

/-- What is written item by item is read back item by item. -/
theorem mapM_map_some {α β : Type} {read? : β → Option α} {write : α → β}
    (h : ∀ a, read? (write a) = some a) (as : List α) : (as.map write).mapM read? = some as := by
  induction as with
  | nil => rfl
  | cons a as ih =>
    rw [List.map_cons, List.mapM_cons, h, ih]
    rfl

/-- The smallest part of a literal: a character that stands for itself, a letter behind a backslash,
a code unit, or two code units that are meant as a pair of surrogates. -/
inductive Piece
  | plain (c : Char) (h : c ≠ '"' ∧ c ≠ '\\' ∧ ¬ c < ' ')
  | letter (c : Char) (h : (escaped? c).isSome)
  | unit (u : CodeUnit)
  | pair (high low : CodeUnit)

namespace Piece

/-- A part of a literal as it is written. -/
def text : Piece → List Char
  | plain c _ => [c]
  | letter c _ => ['\\', c]
  | unit u => '\\' :: 'u' :: u.text
  | pair high low => '\\' :: 'u' :: (high.text ++ '\\' :: 'u' :: low.text)

theorem text_pair_append (high low : CodeUnit) (rest : List Char) : (pair high low).text ++ rest
    = '\\' :: 'u' :: (high.text ++ '\\' :: 'u' :: (low.text ++ rest)) := by
  simp [text]

/-- The character that a part of a literal denotes, unless half a pair of surrogates is alone. -/
def char? : Piece → Option Char
  | plain c _ => some c
  | letter c _ => escaped? c
  | unit u => if isLow u.value ∨ isHigh u.value then none else some (Char.ofNat u.value)
  | pair high low =>
    if isHigh high.value ∧ isLow low.value then some (paired high.value low.value) else none

/-- The part of a literal by which a character is written. -/
def ofChar (c : Char) : Piece :=
  if hquote : c = '"' ∨ c = '\\' then
    .letter c (by rcases hquote with rfl | rfl <;> rfl)
  else if c = '\x08' then .letter 'b' rfl
  else if c = '\x0c' then .letter 'f' rfl
  else if c = '\n' then .letter 'n' rfl
  else if c = '\r' then .letter 'r' rfl
  else if c = '\t' then .letter 't' rfl
  else if hlt : c < ' ' then
    have hval : c.toNat < 32 := hlt
    .unit ⟨.ofNat 0 (by decide), .ofNat 0 (by decide), .ofNat (c.toNat / 16) (by omega),
      .ofNat (c.toNat % 16) (by omega)⟩
  else .plain c ⟨fun h => hquote (.inl h), fun h => hquote (.inr h), hlt⟩

theorem text_ofChar (c : Char) : (ofChar c).text = escape c := by
  unfold ofChar escape
  split
  · rfl
  split
  · rfl
  split
  · rfl
  split
  · rfl
  split
  · rfl
  split
  · rfl
  split <;> rfl

theorem char?_ofChar (c : Char) : (ofChar c).char? = some c := by
  unfold ofChar
  split
  · next h => rcases h with rfl | rfl <;> rfl
  split
  · next h => rw [h]; rfl
  split
  · next h => rw [h]; rfl
  split
  · next h => rw [h]; rfl
  split
  · next h => rw [h]; rfl
  split
  · next h => rw [h]; rfl
  split
  · next hlt =>
    have hval : c.toNat < 32 := hlt
    have hsum : 16 * (c.toNat / 16) + c.toNat % 16 = c.toNat := by omega
    have hplain : ¬ (isLow c.toNat ∨ isHigh c.toNat) := by
      simp [isLow, isHigh]
      omega
    simp [char?, CodeUnit.value, hsum, hplain]
  · rfl

end Piece

section Machine

variable (done rest : List Char)

/-- A part that denotes a character is read as that character. -/
theorem stringFrom_piece {p : Piece} {c : Char} (h : p.char? = some c) :
    stringFrom true .plain done (p.text ++ rest) = stringFrom true .plain (c :: done) rest := by
  cases p with
  | plain d hd =>
    obtain rfl : d = c := Option.some.inj h
    simp [Piece.text, stringFrom, stringStep, hd, pure, Except.pure]
  | letter l hl =>
    have hu : l ≠ 'u' := by
      rintro rfl
      cases hl
    have hl : escaped? l = some c := h
    simp [Piece.text, stringFrom, stringStep, hu, hl, pure, Except.pure]
  | unit u =>
    have hplain : ¬ (isLow u.value ∨ isHigh u.value) := by
      intro hsurrogate
      simp [Piece.char?, hsurrogate] at h
    have hunit : unit true u.value none = .ok (.plain, some c) := by
      rw [Piece.char?, if_neg hplain] at h
      obtain ⟨hlow, hhigh⟩ := not_or.1 hplain
      simp [unit, hlow, hhigh, ← Option.some.inj h, pure, Except.pure]
    rw [Piece.text, List.cons_append, List.cons_append, stringFrom_unit, hunit]
    rfl
  | pair high low =>
    have hpair : isHigh high.value = true ∧ isLow low.value = true := by
      by_contra hnot
      simp [Piece.char?, hnot] at h
    rw [Piece.char?, if_pos hpair] at h
    have hhigh : unit true high.value none = .ok (.half high.value, none) := by
      simp [unit, isLow_of_isHigh hpair.1, hpair.1, pure, Except.pure]
    have hlow : unit true low.value (some high.value) = .ok (.plain, some c) := by
      simp [unit, hpair.2, ← Option.some.inj h, pure, Except.pure]
    rw [Piece.text_pair_append, stringFrom_unit, hhigh]
    change stringFrom true (.half high.value) done _ = _
    rw [stringFrom_secondUnit, hlow]
    rfl

/-- Where only the grammar counts, every part is read. -/
theorem stringFrom_lenientPiece (p : Piece) :
    ∃ done', stringFrom false .plain done (p.text ++ rest)
      = stringFrom false .plain done' rest := by
  cases p with
  | plain c hc =>
    refine ⟨c :: done, ?_⟩
    simp [Piece.text, stringFrom, stringStep, hc, pure, Except.pure]
  | letter l hl =>
    obtain ⟨c, hc⟩ := Option.isSome_iff_exists.1 hl
    have hu : l ≠ 'u' := by
      rintro rfl
      cases hl
    refine ⟨c :: done, ?_⟩
    simp [Piece.text, stringFrom, stringStep, hu, hc, pure, Except.pure]
  | unit u => exact ⟨done, stringFrom_unit false u done rest⟩
  | pair high low =>
    refine ⟨done, ?_⟩
    rw [Piece.text_pair_append, stringFrom_unit]
    exact stringFrom_unit false low done rest

end Machine

/-- A string as it stands in a text. -/
structure Literal where
  pieces : List Piece

namespace Literal

variable {l : Literal} {s : String}

/-- What stands between the quotes. -/
def body (l : Literal) : List Char := l.pieces.flatMap Piece.text

/-- A literal with its quotes. -/
def text (l : Literal) : List Char := '"' :: (l.body ++ ['"'])

/-- The string that a literal denotes. -/
def string? (l : Literal) : Option String := (l.pieces.mapM Piece.char?).map String.ofList

/-- The literal by which a string is written. -/
def ofString (s : String) : Literal := ⟨s.toList.map Piece.ofChar⟩

theorem body_ofString (s : String) : (ofString s).body = s.toList.flatMap escape := by
  simp [body, ofString, List.flatMap_map, Piece.text_ofChar]

theorem text_ofString (s : String) : (ofString s).text = string s := by
  simp [text, body_ofString, string]

@[simp] theorem string?_ofString (s : String) : (ofString s).string? = some s := by
  simp [string?, ofString, mapM_map_some Piece.char?_ofChar]

theorem stringFrom_pieces {ps : List Piece} {cs : List Char} (h : ps.mapM Piece.char? = some cs)
    (done rest : List Char) :
    stringFrom true .plain done (ps.flatMap Piece.text ++ '"' :: rest)
      = .ok (done.reverse ++ cs, rest) := by
  induction ps generalizing cs done with
  | nil =>
    obtain rfl : [] = cs := Option.some.inj h
    simp [stringFrom, pure, Except.pure]
  | cons p ps ih =>
    obtain ⟨c, hc, cs', hcs, rfl⟩ : ∃ c, p.char? = some c ∧ ∃ cs', ps.mapM Piece.char? = some cs'
        ∧ c :: cs' = cs := by simpa [List.mapM_cons, Option.bind_eq_some_iff] using h
    rw [List.flatMap_cons, List.append_assoc, stringFrom_piece _ _ hc, ih hcs]
    simp

/-- A literal is read as the string it denotes, whatever follows. -/
theorem string?_body (h : l.string? = some s) (rest : List Char) :
    Json.string? (l.body ++ '"' :: rest) = .ok (s, rest) := by
  obtain ⟨cs, hcs, rfl⟩ := Option.map_eq_some_iff.1 h
  rw [Json.string?, body, stringFrom_pieces hcs]
  rfl

/-- Every literal is passed over, whatever follows. -/
theorem skipString_body (l : Literal) (rest : List Char) :
    skipString (l.body ++ '"' :: rest) = .ok rest := by
  have hpieces (ps : List Piece) (done : List Char) :
      ∃ cs, stringFrom false .plain done (ps.flatMap Piece.text ++ '"' :: rest) = .ok (cs, rest) := by
    induction ps generalizing done with
    | nil => exact ⟨done.reverse, rfl⟩
    | cons p ps ih =>
      obtain ⟨done', hp⟩ := stringFrom_lenientPiece done (ps.flatMap Piece.text ++ '"' :: rest) p
      rw [List.flatMap_cons, List.append_assoc, hp]
      exact ih done'
  obtain ⟨cs, hcs⟩ := hpieces l.pieces []
  rw [skipString, body, hcs]
  rfl

end Literal

/-! ## Numbers -/

theorem ne_of_isDigit {c d : Char} (hc : c.isDigit = true) (hd : d.isDigit = false) : c ≠ d := by
  rintro rfl
  rw [hc] at hd
  cases hd

theorem isBlank_of_isDigit {c : Char} (h : c.isDigit = true) : isBlank c = false ∧ c ≠ '"' := by
  have hne (d : Char) := ne_of_isDigit h (d := d)
  simp [isBlank, hne ' ' rfl, hne '\n' rfl, hne '\t' rfl, hne '\r' rfl, hne '"' rfl]

/-- One or more decimal digits. -/
structure DigitRun where
  chars : List Char
  ne_nil : chars ≠ []
  all_isDigit : chars.all Char.isDigit = true

theorem DigitRun.exists_cons (run : DigitRun) : ∃ c cs, run.chars = c :: cs ∧ c.isDigit = true := by
  rcases hrun : run.chars with _ | ⟨c, cs⟩
  · exact absurd hrun run.ne_nil
  · have hall := run.all_isDigit
    rw [hrun, List.all_cons, Bool.and_eq_true] at hall
    exact ⟨c, cs, rfl, hall.1⟩

/-- An exponent: its letter, its sign if it has one, and its digits. -/
structure Exponent where
  upper : Bool
  negative? : Option Bool
  run : DigitRun

/-- An exponent as it is written. -/
def Exponent.text (e : Exponent) : List Char :=
  (if e.upper then 'E' else 'e') ::
    ((e.negative?.elim [] fun negative => [if negative then '-' else '+']) ++ e.run.chars)

/-- A number as it stands in a text. -/
structure NumberLiteral where
  negative : Bool
  whole : DigitRun
  no_leading_zero : ∀ c cs, whole.chars ≠ '0' :: c :: cs
  fraction : Option DigitRun
  exponent : Option Exponent

namespace NumberLiteral

/-- A number without its sign. -/
def unsigned (n : NumberLiteral) : List Char :=
  n.whole.chars ++ ((n.fraction.elim [] fun run => '.' :: run.chars)
    ++ n.exponent.elim [] Exponent.text)

/-- A number as it is written. -/
def text (n : NumberLiteral) : List Char :=
  if n.negative then '-' :: n.unsigned else n.unsigned

/-- The parts of a number without its sign. -/
def numeral (n : NumberLiteral) : Numeral :=
  ⟨n.whole.chars, n.fraction.map DigitRun.chars,
    n.exponent.map fun e => (e.negative?.getD false, e.run.chars)⟩

/-- The numeral of an integer. -/
def ofInt (i : Int) : NumberLiteral where
  negative := i < 0
  whole := ⟨_, Text.Decimal.digits_ne_nil i.natAbs, Text.Decimal.all_isDigit_digits i.natAbs⟩
  no_leading_zero := Text.Decimal.digits_ne_zero_cons i.natAbs
  fraction := none
  exponent := none

theorem unsigned_ofInt (i : Int) : (ofInt i).unsigned = Text.Decimal.digits i.natAbs := by
  simp [unsigned, ofInt]

theorem text_ofInt (i : Int) : (ofInt i).text = (Text.Decimal.intText i).toList := by
  rw [text, unsigned_ofInt, Text.Decimal.intText]
  by_cases h : i < 0 <;> simp [ofInt, h, Text.Decimal.text]

/-- A number starts with a digit behind its sign. -/
theorem unsigned_cons (n : NumberLiteral) :
    ∃ c cs, n.unsigned = c :: cs ∧ c.isDigit = true := by
  obtain ⟨c, cs, hcons, hc⟩ := n.whole.exists_cons
  exact ⟨c, cs ++ _, by rw [unsigned, hcons, List.cons_append], hc⟩

end NumberLiteral

section Numbers

variable {rest : List Char}

/-- A text goes on with something that cannot belong to a numeral. -/
def EndsNumeral (rest : List Char) : Prop :=
  ∀ c ∈ rest.head?, c.isDigit = false ∧ c ≠ '.' ∧ c ≠ 'e' ∧ c ≠ 'E'

theorem digits_append {ds : List Char} (hne : ds ≠ []) (hds : ds.all Char.isDigit = true)
    (hrest : ∀ c ∈ rest.head?, c.isDigit = false) : digits (ds ++ rest) = .ok (ds, rest) := by
  have hdigit := List.all_eq_true.1 hds
  have htake := Text.takeWhile_dropWhile_append hdigit hrest
  cases ds with
  | nil => exact absurd rfl hne
  | cons d ds =>
    have hd : d.isDigit = true := hdigit d List.mem_cons_self
    rw [List.cons_append] at htake
    rw [List.cons_append, digits]
    simp [hd, htake, pure, Except.pure]

theorem fractionDigits_append (fraction : Option DigitRun)
    (hrest : ∀ c ∈ rest.head?, c.isDigit = false ∧ c ≠ '.') :
    fractionDigits ((fraction.elim [] fun run => '.' :: run.chars) ++ rest)
      = .ok (fraction.map DigitRun.chars, rest) := by
  cases fraction with
  | none =>
    cases rest with
    | nil => rfl
    | cons c cs => simp [fractionDigits, (hrest c rfl).2, pure, Except.pure]
  | some run =>
    have hdigits := digits_append run.ne_nil run.all_isDigit fun c hc => (hrest c hc).1
    simp [fractionDigits, hdigits, bind, Except.bind, pure, Except.pure]

theorem exponentDigits_append (exponent : Option Exponent) (hrest : EndsNumeral rest) :
    exponentDigits (exponent.elim [] Exponent.text ++ rest)
      = .ok (exponent.map fun e => (e.negative?.getD false, e.run.chars), rest) := by
  cases exponent with
  | none =>
    cases rest with
    | nil => rfl
    | cons c cs => simp [exponentDigits, (hrest c rfl).2, pure, Except.pure]
  | some e =>
    have hdigits := digits_append e.run.ne_nil e.run.all_isDigit fun c hc => (hrest c hc).1
    have hletter : (if e.upper then 'E' else 'e') = 'e' ∨ (if e.upper then 'E' else 'e') = 'E' := by
      cases e.upper <;> decide
    simp only [Option.elim_some, Exponent.text, List.cons_append, List.append_assoc,
      exponentDigits, if_pos hletter]
    cases hneg : e.negative? with
    | some negative => cases negative <;> simp [hneg, hdigits, bind, Except.bind, pure, Except.pure]
    | none =>
      -- a sign is told from the first digit
      obtain ⟨c, cs, hrun, hc⟩ := e.run.exists_cons
      have hplus : c ≠ '+' := ne_of_isDigit hc rfl
      have hminus : c ≠ '-' := ne_of_isDigit hc rfl
      rw [hrun, List.cons_append] at hdigits
      simp [hneg, hrun, hplus, hminus, hdigits, bind, Except.bind, pure, Except.pure]

theorem wholeDigits_append (n : NumberLiteral) (hrest : ∀ c ∈ rest.head?, c.isDigit = false) :
    wholeDigits (n.whole.chars ++ rest) = .ok (n.whole.chars, rest) := by
  -- rules out the case of a leading zero
  have hzero := n.no_leading_zero
  rw [wholeDigits, digits_append n.whole.ne_nil n.whole.all_isDigit hrest]
  simp only [bind, Except.bind]
  rfl

/-- Neither an exponent nor what is behind it goes on with a fraction. -/
theorem head?_exponent (exponent : Option Exponent) (hrest : EndsNumeral rest) :
    ∀ c ∈ (exponent.elim [] Exponent.text ++ rest).head?, c.isDigit = false ∧ c ≠ '.' := by
  intro c hc
  cases exponent with
  | none => exact ⟨(hrest c hc).1, (hrest c hc).2.1⟩
  | some e =>
    obtain rfl : (if e.upper then 'E' else 'e') = c := Option.some.inj hc
    cases e.upper <;> decide

/-- Neither a fraction nor what is behind it goes on with a digit. -/
theorem head?_fraction (fraction : Option DigitRun) (hrest : ∀ c ∈ rest.head?, c.isDigit = false) :
    ∀ c ∈ ((fraction.elim [] fun run => '.' :: run.chars) ++ rest).head?, c.isDigit = false := by
  intro c hc
  cases fraction with
  | none => exact hrest c hc
  | some run =>
    obtain rfl : '.' = c := Option.some.inj hc
    rfl

/-- A number is read up to its end. -/
theorem numeral_unsigned (n : NumberLiteral) (hrest : EndsNumeral rest) :
    numeral (n.unsigned ++ rest) = .ok (n.numeral, rest) := by
  have hbehind := head?_exponent n.exponent hrest
  have hwhole := wholeDigits_append n
    (head?_fraction n.fraction fun c hc => (hbehind c hc).1)
  have hfraction := fractionDigits_append n.fraction hbehind
  have hexponent := exponentDigits_append n.exponent hrest
  rw [NumberLiteral.unsigned, List.append_assoc, List.append_assoc, numeral, hwhole]
  simp [NumberLiteral.numeral, bind, Except.bind, hfraction, hexponent, pure, Except.pure]

/-- A number is read back from its numeral. -/
theorem numeral_digits (n : Nat) (hrest : EndsNumeral rest) :
    numeral (Text.Decimal.digits n ++ rest) = .ok (⟨Text.Decimal.digits n, none, none⟩, rest) := by
  have hnumeral := numeral_unsigned (.ofInt n) hrest
  rwa [NumberLiteral.unsigned_ofInt] at hnumeral

theorem skipNumber_unsigned (n : NumberLiteral) (hrest : EndsNumeral rest) :
    skipNumber (n.unsigned ++ rest) = .ok rest := by
  rw [skipNumber, numeral_unsigned n hrest]
  rfl

/-! ### Integers -/

/-- All digits of a number of 64 bits belong to its significand. -/
theorem significand_of_lt {cs : List Char} {start : Nat}
    (h : cs.foldl (fun acc c => acc * 10 + (c.toNat - 48)) start < 18446744073709551616) :
    (significand start cs).2 = 0 := by
  have hle (cs : List Char) (start : Nat) :
      start ≤ cs.foldl (fun acc c => acc * 10 + (c.toNat - 48)) start := by
    induction cs generalizing start with
    | nil => exact le_refl _
    | cons c cs ih =>
      have := ih (start * 10 + (c.toNat - 48))
      rw [List.foldl_cons]
      omega
  induction cs generalizing start with
  | nil => rfl
  | cons c cs ih =>
    rw [List.foldl_cons] at h
    rw [significand, if_pos (lt_of_le_of_lt (hle _ _) h)]
    exact ih h

theorem number_digits (negative : Bool) {n : Nat} (hn : n < 18446744073709551616)
    (hsign : negative = true → n ≠ 0) (hrest : EndsNumeral rest) :
    number negative (Text.Decimal.digits n ++ rest)
      = .ok (.integer (if negative then -(n : Int) else n), rest) := by
  have hvalue := Text.Decimal.value_digits n
  have hinteger : (⟨Text.Decimal.digits n, none, none⟩ : Numeral).isInteger = true := by
    have hleft : (significand 0 (Text.Decimal.digits n)).2 = 0 :=
      significand_of_lt (by rw [← Text.Decimal.value, hvalue]; exact hn)
    simp [Numeral.isInteger, hleft]
  rw [number, numeral_digits n hrest]
  cases negative with
  | false =>
    simp [Numeral.number, hinteger, hvalue, bind, Except.bind, pure, Except.pure]
  | true =>
    simp [Numeral.number, hinteger, hvalue, hsign rfl, bind, Except.bind, pure, Except.pure]

/-- Every integer of 64 bits is read back from its numeral. -/
theorem readInteger_intText {i : Int} (hi : Representable i) (hrest : EndsNumeral rest) :
    readInteger ((NumberLiteral.ofInt i).text ++ rest) = .ok (.integer i, rest) := by
  have hdatum : integerDatum (.integer i) = .ok (.integer i) := if_pos hi
  obtain ⟨c, cs, hcons, hc⟩ := (NumberLiteral.ofInt i).unsigned_cons
  have hunsigned := NumberLiteral.unsigned_ofInt i
  by_cases hlt : i < 0
  · have hnumber := number_digits true (n := i.natAbs) (by omega) (fun _ => by omega) hrest
    rw [if_pos rfl, show -(i.natAbs : Int) = i by omega] at hnumber
    have htext : (NumberLiteral.ofInt i).text = '-' :: Text.Decimal.digits i.natAbs := by
      rw [← hunsigned]
      exact if_pos (decide_eq_true hlt)
    rw [htext, List.cons_append, readInteger, if_pos rfl, hnumber]
    simp [hdatum, bind, Except.bind, pure, Except.pure]
  · have hnumber := number_digits false (n := i.natAbs) (by omega) (fun h => nomatch h) hrest
    rw [if_neg (by decide), show (i.natAbs : Int) = i by omega, ← hunsigned, hcons,
      List.cons_append] at hnumber
    have htext : (NumberLiteral.ofInt i).text = c :: cs := by
      rw [← hcons]
      exact if_neg (by simpa [NumberLiteral.ofInt] using hlt)
    have hminus : c ≠ '-' := ne_of_isDigit hc rfl
    rw [htext, List.cons_append, readInteger, if_neg hminus, if_pos hc, hnumber]
    simp [hdatum, bind, Except.bind, pure, Except.pure]

end Numbers

end FluxCorpus.Json
