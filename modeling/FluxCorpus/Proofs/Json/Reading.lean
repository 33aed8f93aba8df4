import FluxCorpus.Proofs.Json.Literal

/-!
# Reading JSON undoes writing it

Every character of a string is read back from its written form, so a string can be read whatever is
in it and whatever follows it.  With numerals this gives back every object whose members are strings
and natural numbers, in the order in which they were written.

* `string?_string` — every string is read back, whatever follows it.
* `Scalar`, `decodeObject` — a reader of objects that keeps the order of the members.
* `decodeObject_object` — **an object that is written is read back.**
-/

namespace FluxCorpus.Json

/-- Every string is read back, whatever follows it. -/
theorem string?_string (s : String) (rest : List Char) :
    string? (s.toList.flatMap escape ++ '"' :: rest) = .ok (s, rest) := by
  rw [← Literal.body_ofString]
  exact Literal.string?_body (Literal.string?_ofString s) rest

/-! ## Objects -/

/-- A value without parts, of the two kinds that a record has. -/
inductive Scalar
  | text (s : String)
  | whole (n : Nat)
deriving DecidableEq, Repr

/-- The written form of such a value. -/
def Scalar.write : Scalar → List Char
  | .text s => string s
  | .whole n => Text.Decimal.digits n

/-- Reads such a value. -/
def scalar (cs : List Char) : Except Problem (Scalar × List Char) :=
  match skipBlanks cs with
  | [] => throw .truncated
  | '"' :: rest => do
    let (s, rest) ← string? rest
    return (.text s, rest)
  | cs => do
    let (n, rest) ← numeral cs
    if n.fraction.isNone ∧ n.exponent.isNone then
      return (.whole (Text.Decimal.value n.whole), rest)
    else throw .mismatch

/-- Reads the members of an object up to its closing brace, in their order.  The first argument
bounds their number. -/
def scalarMembers : Nat → Bool → List Char →
    Except Problem (List (String × Scalar) × List Char)
  | 0, _, _ => throw .truncated
  | steps + 1, first, cs => do
    match ← nextKey first cs with
    | none => return ([], ← closeObject cs)
    | some cs =>
      let (key, cs) ← string? cs
      let (v, cs) ← scalar (← colon cs)
      let (ms, cs) ← scalarMembers steps false cs
      return ((key, v) :: ms, cs)

/-- Reads a whole text that is one object of such values. -/
def decodeObject (text : String) : Except Problem (List (String × Scalar)) :=
  match skipBlanks text.toList with
  | [] => throw .truncated
  | '\x7b' :: cs => do
    let (ms, rest) ← scalarMembers (cs.length + 1) true cs
    if skipBlanks rest = [] then return ms else throw .malformed
  | _ => throw .malformed

theorem skipBlanks_cons {c : Char} (h : isBlank c = false) (cs : List Char) :
    skipBlanks (c :: cs) = c :: cs := by
  simp [skipBlanks, h]

theorem scalar_write (v : Scalar) {rest : List Char} (hrest : EndsNumeral rest) :
    scalar (v.write ++ rest) = .ok (v, rest) := by
  cases v with
  | text s =>
    have hblanks : skipBlanks (string s ++ rest)
        = '"' :: (s.toList.flatMap escape ++ '"' :: rest) := by
      rw [string, List.cons_append, List.cons_append, List.append_assoc]
      exact skipBlanks_cons (by decide) _
    rw [Scalar.write, scalar, hblanks]
    simp [string?_string, bind, Except.bind, pure, Except.pure]
  | whole n =>
    have hnumeral := numeral_digits n hrest
    have hblanks : ∃ d ds, Text.Decimal.digits n ++ rest = d :: ds ∧ d ≠ '"'
        ∧ skipBlanks (d :: ds) = d :: ds := by
      have hdigits := List.all_eq_true.1 (Text.Decimal.all_isDigit_digits n)
      rcases hn : Text.Decimal.digits n with _ | ⟨d, ds⟩
      · exact absurd hn (Text.Decimal.digits_ne_nil n)
      · obtain ⟨hblank, hquote⟩ := isBlank_of_isDigit (hdigits d (by rw [hn]; simp))
        exact ⟨d, ds ++ rest, rfl, hquote, skipBlanks_cons hblank _⟩
    obtain ⟨d, ds, hn, hquote, hskip⟩ := hblanks
    rw [Scalar.write, scalar, hn, hskip]
    rw [hn] at hnumeral
    simp [hquote, hnumeral, Text.Decimal.value_digits, bind, Except.bind, pure, Except.pure]

/-! ### Members -/

theorem separated_cons (v : List Char) (vs : List (List Char)) :
    separated (v :: vs) = v ++ vs.flatMap (',' :: ·) := by
  induction vs generalizing v with
  | nil => simp [separated]
  | cons w ws ih =>
    have hcomma : separated (v :: w :: ws) = v ++ ',' :: separated (w :: ws) := rfl
    rw [hcomma, ih, List.flatMap_cons, List.cons_append]

/-- The text of a member behind the opening quote of its key, and what follows it. -/
def inside (m : String × Scalar) (more : List Char) : List Char :=
  m.1.toList.flatMap escape ++ '"' :: ':' :: (m.2.write ++ more)

theorem member_append (m : String × Scalar) (more : List Char) :
    member (m.1, m.2.write) ++ more = '"' :: inside m more := by
  simp [member, string, inside]

/-- The text of the members behind the first one, and what follows the object. -/
def behind (ms : List (String × Scalar)) (rest : List Char) : List Char :=
  (ms.map fun m => member (m.1, m.2.write)).flatMap (',' :: ·) ++ '\x7d' :: rest

theorem behind_cons (m : String × Scalar) (ms : List (String × Scalar)) (rest : List Char) :
    behind (m :: ms) rest = ',' :: '"' :: inside m (behind ms rest) := by
  rw [← member_append]
  simp [behind]

theorem object_cons (m : String × Scalar) (ms : List (String × Scalar)) :
    object ((m :: ms).map fun m => (m.1, m.2.write)) = '\x7b' :: '"' :: inside m (behind ms []) := by
  rw [← member_append, object, List.map_cons, List.map_cons, separated_cons]
  simp [behind, Function.comp_def]

theorem endsNumeral_behind (ms : List (String × Scalar)) (rest : List Char) :
    EndsNumeral (behind ms rest) := by
  intro c hc
  cases ms with
  | nil =>
    obtain rfl : '\x7d' = c := Option.some.inj hc
    decide
  | cons m ms =>
    rw [behind_cons] at hc
    obtain rfl : ',' = c := Option.some.inj hc
    decide

variable {steps : Nat} {first : Bool} {cs rest : List Char} {m : String × Scalar}
  {ms : List (String × Scalar)}

/-- One more member is read, and then the ones behind it. -/
theorem scalarMembers_cons
    (hkey : nextKey first cs = .ok (some (inside m (behind ms rest))))
    (h : scalarMembers steps false (behind ms rest) = .ok (ms, rest)) :
    scalarMembers (steps + 1) first cs = .ok (m :: ms, rest) := by
  have hcolon : colon (':' :: (m.2.write ++ behind ms rest)) = .ok (m.2.write ++ behind ms rest) :=
    rfl
  have hvalue := scalar_write m.2 (endsNumeral_behind ms rest)
  rw [scalarMembers, hkey, inside]
  simp [string?_string, hcolon, hvalue, h, bind, Except.bind, pure, Except.pure]

theorem scalarMembers_behind (h : ms.length < steps) :
    scalarMembers steps false (behind ms rest) = .ok (ms, rest) := by
  induction ms generalizing steps with
  | nil =>
    obtain ⟨steps, rfl⟩ := Nat.exists_eq_add_one_of_ne_zero (Nat.ne_of_gt h)
    rfl
  | cons m ms ih =>
    obtain ⟨steps, rfl⟩ := Nat.exists_eq_add_one_of_ne_zero (Nat.ne_of_gt (Nat.zero_lt_of_lt h))
    refine scalarMembers_cons ?_ (ih (Nat.lt_of_succ_lt_succ h))
    rw [behind_cons]
    rfl

theorem length_lt_behind (ms : List (String × Scalar)) (rest : List Char) :
    ms.length < (behind ms rest).length := by
  induction ms with
  | nil => simp [behind]
  | cons m ms ih =>
    simp only [behind_cons, inside, List.length_cons, List.length_append]
    omega

/-- **An object that is written is read back**, with all of its members in their order. -/
theorem decodeObject_object (ms : List (String × Scalar)) :
    decodeObject (String.ofList (object (ms.map fun m => (m.1, m.2.write)))) = .ok ms := by
  have hopen (cs : List Char) : skipBlanks ('\x7b' :: cs) = '\x7b' :: cs :=
    skipBlanks_cons (by decide) cs
  cases ms with
  | nil => rfl
  | cons m ms =>
    have hmembers : scalarMembers (('"' :: inside m (behind ms [])).length + 1) true
        ('"' :: inside m (behind ms [])) = .ok (m :: ms, []) := by
      have hsteps := length_lt_behind ms []
      refine scalarMembers_cons rfl (scalarMembers_behind ?_)
      simp only [inside, List.length_cons, List.length_append]
      omega
    rw [decodeObject, String.toList_ofList, object_cons, hopen]
    simp only [hmembers, bind, Except.bind]
    rfl

end FluxCorpus.Json
