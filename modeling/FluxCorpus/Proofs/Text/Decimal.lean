import FluxCorpus.Text.Decimal
import Mathlib.Data.List.Induction
import Mathlib.Data.Nat.Digits.Defs
import Mathlib.Data.String.Basic
import Mathlib.Tactic.Ring

/-!
# What numerals denote

A numeral filled up with zeros has the wanted width if the number fits, consists of digits, and
still denotes the number.

* `IsNumeral` — the number that a text of decimal digits denotes, and `nat?_eq_some_iff` — the
  reader of whole texts reads it.
* `length_digits_le` — a number below `10 ^ w` has at most `w` digits.
* `length_padded`, `value_padded`, `nat?_padded` — filling up adds width and nothing else.
* `value_append`, `value_lt` — what a run of digits is worth in front of others, and at most.
* `eq_of_value_eq` — of one length and worth, there is one run of digits.
* `padded_append_le` — texts that begin with numerals of one width are in the order of the numbers.
* `digits_injective` — different numbers have different numerals.
* `text_eq_toString` — the numerals are those of the core library.
* `digits_ne_zero_cons` — no numeral of more than one digit starts with a zero.
-/

namespace FluxCorpus.Text.Decimal

theorem digits_injective : Function.Injective digits := by
  intro m n h
  rw [← value_digits m, ← value_digits n, h]

/-- The characters of the digits are those of the core library. -/
theorem digitChar_eq {d : Nat} (h : d < 10) : digitChar d = Nat.digitChar d := by
  apply Char.toNat_inj.1
  rw [toNat_digitChar h, Nat.toNat_digitChar_of_lt_ten h]

theorem digits_eq_toDigits (n : Nat) : digits n = Nat.toDigits 10 n := by
  fun_induction digits n with
  | case1 n h => rw [Nat.toDigits_of_lt_base h, digitChar_eq h]
  | case2 n h ih =>
    rw [ih, digitChar_eq (Nat.mod_lt n (by decide)), Nat.toDigits_eq_if (n := n) (by decide), if_neg h]

/-- The numeral of a number is the one that the core library writes. -/
theorem text_eq_toString (n : Nat) : text n = toString n :=
  congrArg String.ofList (digits_eq_toDigits n)

/-! ## What a run of digits denotes -/

/-- A text of one or more decimal digits denotes a number. -/
def IsNumeral (cs : List Char) (n : Nat) : Prop :=
  ∃ ds : List Nat, ds ≠ [] ∧ (∀ d ∈ ds, d < 10)
    ∧ cs = ds.map Nat.digitChar ∧ n = Nat.ofDigits 10 ds.reverse

theorem digit_bounds {c : Char} (h : c.isDigit) : 48 ≤ c.toNat ∧ c.toNat ≤ 57 :=
  Char.isDigit_iff_toNat.1 h

theorem isDigit_of_mem_map {ds : List Nat} (h : ∀ d ∈ ds, d < 10) :
    ∀ c ∈ ds.map Nat.digitChar, c.isDigit := by
  rw [List.forall_mem_map]
  intro d hd
  rw [← digitChar_eq (h d hd)]
  exact isDigit_digitChar (h d hd)

/-- A character that is a digit is that of its number. -/
theorem exists_digitChar {c : Char} (h : c.isDigit) : ∃ d < 10, c = Nat.digitChar d := by
  have hbounds := digit_bounds h
  have hlt : c.toNat - 48 < 10 := by omega
  refine ⟨c.toNat - 48, hlt, Char.toNat_inj.1 ?_⟩
  rw [Nat.toNat_digitChar_of_lt_ten hlt]
  omega

theorem exists_map_digitChar {cs : List Char} (h : ∀ c ∈ cs, c.isDigit) :
    ∃ ds : List Nat, (∀ d ∈ ds, d < 10) ∧ cs = ds.map Nat.digitChar := by
  induction cs with
  | nil => exact ⟨[], by simp, rfl⟩
  | cons c cs ih =>
    rw [List.forall_mem_cons] at h
    obtain ⟨d, hd, rfl⟩ := exists_digitChar h.1
    obtain ⟨ds, hds, rfl⟩ := ih h.2
    exact ⟨d :: ds, List.forall_mem_cons.2 ⟨hd, hds⟩, rfl⟩

/-- The value of digits is the number with these digits to the base 10. -/
theorem value_map_digitChar {ds : List Nat} (h : ∀ d ∈ ds, d < 10) :
    value (ds.map Nat.digitChar) = Nat.ofDigits 10 ds.reverse := by
  induction ds using List.reverseRecOn with
  | nil => rfl
  | append_singleton ds d ih =>
    rw [List.forall_mem_append, List.forall_mem_singleton] at h
    rw [List.map_append, List.map_singleton, value_concat, ih h.1, List.reverse_append,
      List.reverse_singleton, List.singleton_append, Nat.ofDigits_cons,
      Nat.toNat_digitChar_of_lt_ten h.2]
    omega

/-- What is read is the value of one or more digits. -/
theorem nat?_eq_some {cs : List Char} {n : Nat} :
    nat? cs = some n ↔ cs ≠ [] ∧ (∀ c ∈ cs, c.isDigit) ∧ value cs = n := by
  rw [nat?, Option.ite_none_right_eq_some, List.all_eq_true, Option.some.injEq, and_assoc]

/-- **A text is read as a number if and only if it denotes it.** -/
theorem nat?_eq_some_iff {cs : List Char} {n : Nat} : nat? cs = some n ↔ IsNumeral cs n := by
  rw [nat?_eq_some]
  constructor
  · rintro ⟨hne, hdigits, rfl⟩
    obtain ⟨ds, hds, rfl⟩ := exists_map_digitChar hdigits
    exact ⟨ds, fun h => hne (List.map_eq_nil_iff.2 h), hds, rfl, value_map_digitChar hds⟩
  · rintro ⟨ds, hne, hds, rfl, rfl⟩
    exact ⟨fun h => hne (List.map_eq_nil_iff.1 h), isDigit_of_mem_map hds, value_map_digitChar hds⟩

/-! ## Signs -/

/-- A numeral begins with a digit, and not with a sign. -/
theorem not_isNumeral_cons {c : Char} (h : c.isDigit = false) (cs : List Char) (n : Nat) :
    ¬ IsNumeral (c :: cs) n := by
  rw [← nat?_eq_some_iff, nat?_eq_some, List.forall_mem_cons, h]
  rintro ⟨-, ⟨hfalse, -⟩, -⟩
  cases hfalse

theorem unsigned?_eq_some_iff {cs : List Char} {n : Nat} : unsigned? cs = some n ↔
    ∃ ds, IsNumeral ds n ∧ (cs = ds ∨ cs = '+' :: ds) := by
  unfold unsigned?
  split
  · next ds =>
    rw [nat?_eq_some_iff]
    constructor
    · intro h
      exact ⟨ds, h, .inr rfl⟩
    · rintro ⟨ds', h, rfl | heq⟩
      · exact absurd h (not_isNumeral_cons rfl ds n)
      · cases heq
        exact h
  · next hplus =>
    rw [nat?_eq_some_iff]
    constructor
    · intro h
      exact ⟨cs, h, .inl rfl⟩
    · rintro ⟨ds, h, rfl | rfl⟩
      · exact h
      · exact absurd rfl (hplus ds)

theorem signed?_eq_some_iff {cs : List Char} {i : Int} : signed? cs = some i ↔
    ∃ ds n, IsNumeral ds n ∧ ((cs = ds ∨ cs = '+' :: ds) ∧ i = n ∨ cs = '-' :: ds ∧ i = -n) := by
  unfold signed?
  split
  · next ds =>
    simp only [Option.map_eq_some_iff, Option.bind_eq_bind, Option.bind_eq_some_iff,
      nat?_eq_some_iff, Option.pure_def, Option.some.injEq]
    constructor
    · rintro ⟨_, ⟨n, h, rfl⟩, rfl⟩
      exact ⟨ds, n, h, .inr ⟨rfl, rfl⟩⟩
    · rintro ⟨ds', n, h, ⟨rfl | heq, rfl⟩ | ⟨heq, rfl⟩⟩
      · exact absurd h (not_isNumeral_cons rfl ds n)
      · cases heq
      · cases heq
        exact ⟨n, ⟨n, h, rfl⟩, rfl⟩
  · next ds =>
    simp only [Option.map_eq_some_iff, nat?_eq_some_iff]
    constructor
    · rintro ⟨n, h, rfl⟩
      exact ⟨ds, n, h, .inl ⟨.inr rfl, rfl⟩⟩
    · rintro ⟨ds', n, h, ⟨rfl | heq, rfl⟩ | ⟨heq, rfl⟩⟩
      · exact absurd h (not_isNumeral_cons rfl ds n)
      · cases heq
        exact ⟨n, h, rfl⟩
      · cases heq
  · next hminus hplus =>
    simp only [Option.map_eq_some_iff, nat?_eq_some_iff]
    constructor
    · rintro ⟨n, h, rfl⟩
      exact ⟨cs, n, h, .inl ⟨.inl rfl, rfl⟩⟩
    · rintro ⟨ds, n, h, ⟨rfl | rfl, rfl⟩ | ⟨rfl, rfl⟩⟩
      · exact ⟨n, h, rfl⟩
      · exact absurd rfl (hplus ds)
      · exact absurd rfl (hminus ds)

/-! ## Width -/

theorem head?_digits_ne_zero {n : Nat} (h : 0 < n) : (digits n).head? ≠ some '0' := by
  fun_induction digits n with
  | case1 n hlt =>
    intro hzero
    have hdigit : digitChar n = '0' := Option.some.inj hzero
    have hval := toNat_digitChar hlt
    rw [hdigit] at hval
    change 48 = 48 + n at hval
    omega
  | case2 n hge ih =>
    rcases hquotient : digits (n / 10) with _ | ⟨c, cs⟩
    · exact absurd hquotient (digits_ne_nil _)
    · have hhead := ih (by omega)
      rwa [hquotient] at hhead

theorem digits_ne_zero_cons (n : Nat) (c : Char) (cs : List Char) :
    digits n ≠ '0' :: c :: cs := by
  intro h
  rcases Nat.eq_zero_or_pos n with rfl | hpos
  · have hone : digits 0 = ['0'] := by rw [digits]; rfl
    rw [hone] at h
    cases h
  · exact head?_digits_ne_zero hpos (by rw [h]; rfl)

theorem length_digits_le {w n : Nat} (hw : 0 < w) (h : n < 10 ^ w) : (digits n).length ≤ w := by
  induction w generalizing n with
  | zero => exact absurd hw (Nat.lt_irrefl 0)
  | succ w ih =>
    rw [digits]
    split
    · simp
    · next hn =>
      have hw' : 0 < w := by
        rcases Nat.eq_zero_or_pos w with rfl | hpos
        · simp at h
          omega
        · exact hpos
      have hdiv : n / 10 < 10 ^ w := by
        rw [Nat.div_lt_iff_lt_mul (by decide), ← pow_succ]
        exact h
      rw [List.length_append, List.length_singleton]
      exact Nat.succ_le_succ (ih hw' hdiv)

theorem length_padded {w n : Nat} (hw : 0 < w) (h : n < 10 ^ w) : (padded w n).length = w := by
  have := length_digits_le hw h
  rw [padded, List.length_append, List.length_replicate]
  omega

theorem all_isDigit_padded (w n : Nat) : (padded w n).all Char.isDigit = true := by
  rw [padded, List.all_append, all_isDigit_digits, Bool.and_true, List.all_replicate]
  simp

theorem isDigit_of_mem_padded {w n : Nat} {c : Char} (h : c ∈ padded w n) : c.isDigit :=
  List.all_eq_true.1 (all_isDigit_padded w n) c h

/-- Zeros in front do not change what a run of digits denotes. -/
theorem value_replicate_zero_append (k : Nat) (cs : List Char) :
    value (List.replicate k '0' ++ cs) = value cs := by
  induction k with
  | zero => rfl
  | succ k ih =>
    rw [List.replicate_succ, List.cons_append, ← ih]
    rfl

theorem value_padded (w n : Nat) : value (padded w n) = n := by
  rw [padded, value_replicate_zero_append, value_digits]

theorem padded_ne_nil (w n : Nat) : padded w n ≠ [] := by
  rw [padded]
  exact List.append_ne_nil_of_right_ne_nil _ (digits_ne_nil n)

theorem nat?_padded (w n : Nat) : nat? (padded w n) = some n := by
  rw [nat?, if_pos ⟨padded_ne_nil w n, all_isDigit_padded w n⟩, value_padded]

/-! ## Runs of digits behind each other -/

theorem value_append (a b : List Char) : value (a ++ b) = value a * 10 ^ b.length + value b := by
  induction b using List.reverseRecOn with
  | nil => simp [value]
  | append_singleton b c ih =>
    rw [← List.append_assoc, value_concat, value_concat, ih, List.length_append,
      List.length_singleton, pow_succ]
    ring

theorem value_cons (c : Char) (cs : List Char) :
    value (c :: cs) = (c.toNat - 48) * 10 ^ cs.length + value cs := by
  rw [← List.singleton_append, value_append]
  simp [value]

/-- A run of digits is worth less than the power of ten with as many zeros. -/
theorem value_lt {ds : List Char} (h : ∀ c ∈ ds, c.isDigit) : value ds < 10 ^ ds.length := by
  induction ds with
  | nil => exact Nat.one_pos
  | cons c ds ih =>
    rw [List.forall_mem_cons] at h
    have hc := digit_bounds h.1
    have htail := ih h.2
    have hhead : (c.toNat - 48) * 10 ^ ds.length ≤ 9 * 10 ^ ds.length :=
      Nat.mul_le_mul_right _ (by omega)
    rw [value_cons, List.length_cons, pow_succ]
    omega

/-- Runs of equally many digits that are worth the same are the same. -/
theorem eq_of_value_eq {a b : List Char} (ha : ∀ c ∈ a, c.isDigit) (hb : ∀ c ∈ b, c.isDigit)
    (hlen : a.length = b.length) (h : value a = value b) : a = b := by
  induction a using List.reverseRecOn generalizing b with
  | nil => exact (List.eq_nil_of_length_eq_zero hlen.symm).symm
  | append_singleton a c ih =>
    obtain rfl | ⟨b, d, rfl⟩ := List.eq_nil_or_concat b
    · simp at hlen
    · rw [List.concat_eq_append] at *
      rw [List.forall_mem_append, List.forall_mem_singleton] at ha hb
      rw [value_concat, value_concat] at h
      have hc := digit_bounds ha.2
      have hd := digit_bounds hb.2
      have hlast : c = d := Char.toNat_inj.1 (by omega)
      have hfront : a = b := ih ha.1 hb.1 (by simpa using hlen) (by omega)
      rw [hlast, hfront]

/-- The same for texts that are read as one number. -/
theorem nat?_injective {a b : List Char} {n : Nat} (hlen : a.length = b.length)
    (ha : nat? a = some n) (hb : nat? b = some n) : a = b := by
  rw [nat?_eq_some] at ha hb
  obtain ⟨-, hdigits, hvalue⟩ := ha
  obtain ⟨-, hdigits', hvalue'⟩ := hb
  exact eq_of_value_eq hdigits hdigits' hlen (hvalue.trans hvalue'.symm)

theorem value_append_replicate_zero (cs : List Char) (k : Nat) :
    value (cs ++ List.replicate k '0') = value cs * 10 ^ k := by
  have hzeros : value (List.replicate k '0') = 0 := by
    have h := value_replicate_zero_append k []
    rwa [List.append_nil] at h
  rw [value_append, hzeros, List.length_replicate, Nat.add_zero]

/-- A text that is read as a number can be read in two parts. -/
theorem nat?_append {a b : List Char} {n : Nat} (ha : a ≠ []) (hb : b ≠ [])
    (h : nat? (a ++ b) = some n) :
    ∃ i j, nat? a = some i ∧ nat? b = some j ∧ i * 10 ^ b.length + j = n := by
  rw [nat?_eq_some, List.forall_mem_append, value_append] at h
  obtain ⟨-, ⟨hdigits, hdigits'⟩, heq⟩ := h
  exact ⟨value a, value b, nat?_eq_some.2 ⟨ha, hdigits, rfl⟩, nat?_eq_some.2 ⟨hb, hdigits', rfl⟩,
    heq⟩

/-- Two texts that are read as numbers are read as one behind each other. -/
theorem nat?_append_of {a b : List Char} {i j : Nat} (ha : nat? a = some i) (hb : nat? b = some j) :
    nat? (a ++ b) = some (i * 10 ^ b.length + j) := by
  rw [nat?_eq_some] at ha hb
  obtain ⟨hne, hdigits, rfl⟩ := ha
  obtain ⟨-, hdigits', rfl⟩ := hb
  rw [nat?_eq_some, List.forall_mem_append]
  exact ⟨List.append_ne_nil_of_left_ne_nil hne b, ⟨hdigits, hdigits'⟩, value_append a b⟩

/-! ## Order -/

/-- Texts that begin with runs of equally many digits are in the order of the numbers, if these
differ. -/
theorem append_lt_append {a b : List Char} (ha : ∀ c ∈ a, c.isDigit) (hb : ∀ c ∈ b, c.isDigit)
    (hlen : a.length = b.length) (h : value a < value b) (x y : List Char) : a ++ x < b ++ y := by
  induction a generalizing b with
  | nil =>
    rw [List.eq_nil_of_length_eq_zero hlen.symm] at h
    exact absurd h (Nat.lt_irrefl _)
  | cons c a ih =>
    obtain ⟨d, b, rfl⟩ := List.exists_cons_of_length_eq_add_one hlen.symm
    rw [List.forall_mem_cons] at ha hb
    have hlen' : a.length = b.length := Nat.succ.inj hlen
    rw [value_cons, value_cons, hlen'] at h
    rcases lt_trichotomy c d with hcd | rfl | hcd
    · exact .rel hcd
    · exact .cons (ih ha.2 hb.2 hlen' (by omega))
    · -- a greater first digit makes the greater number
      have hdigits : d.toNat < c.toNat := hcd
      have hd := digit_bounds hb.1
      have hrest := value_lt hb.2
      have hle : (d.toNat - 48 + 1) * 10 ^ b.length ≤ (c.toNat - 48) * 10 ^ b.length :=
        Nat.mul_le_mul_right _ (by omega)
      rw [Nat.succ_mul] at hle
      omega

/-- Texts that begin with numerals of one width are in the order of the numbers, and behind the same
number in the order of what follows. -/
theorem padded_append_le {w m n : Nat} {x y : List Char} (hw : 0 < w) (hn : n < 10 ^ w)
    (h : m < n ∨ m = n ∧ x ≤ y) : padded w m ++ x ≤ padded w n ++ y := by
  obtain hlt | ⟨rfl, hxy⟩ := h
  · have hlen : (padded w m).length = (padded w n).length := by
      rw [length_padded hw hn, length_padded hw (hlt.trans hn)]
    have hvalue : value (padded w m) < value (padded w n) := by
      rwa [value_padded, value_padded]
    exact (append_lt_append (fun _ => isDigit_of_mem_padded) (fun _ => isDigit_of_mem_padded) hlen
      hvalue x y).le
  · induction padded w m with
    | nil => exact hxy
    | cons c cs ih => exact List.cons_le_cons c ih

end FluxCorpus.Text.Decimal
