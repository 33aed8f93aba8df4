import FluxCorpus.Json.Bytes
import FluxCorpus.Proofs.Json.Literal

/-!
# Strings of any bytes

A string that is passed over may hold bytes that are no characters, and one that is read may not.

* `ofBytes_of_decode?` — bytes that are all in order are read as their text.
* `skipString_ofUnits`, `string?_ofUnits` — a string with such bytes, passed over and read.
-/

namespace FluxCorpus.Json

@[simp] theorem ofUnits_nil : ofUnits [] = [] := rfl

@[simp] theorem ofUnits_some (c : Char) (units : List (Option Char)) :
    ofUnits (some c :: units) = c :: ofUnits units := rfl

@[simp] theorem ofUnits_none (units : List (Option Char)) :
    ofUnits (none :: units) = unreadable ++ ofUnits units := rfl

theorem ofUnits_of_mapM {units : List (Option Char)} {cs : List Char}
    (h : units.mapM id = some cs) : ofUnits units = cs := by
  induction units generalizing cs with
  | nil =>
    cases h
    rfl
  | cons c units ih =>
    obtain ⟨c, rfl, cs, hcs, rfl⟩ :
        ∃ d, c = some d ∧ ∃ ds, units.mapM id = some ds ∧ d :: ds = cs := by
      simpa [List.mapM_cons, Option.bind_eq_some_iff] using h
    rw [ofUnits_some, ih hcs]

/-- Bytes that are all in order are read as their text. -/
theorem ofBytes_of_decode? {bs : List UInt8} {cs : List Char} (h : Text.Utf8.decode? bs = some cs) :
    ofBytes bs = cs := ofUnits_of_mapM h

/-! ## In a string -/

variable {units : List (Option Char)}

/-- The characters among the units may stand in a string as they are. -/
def Unescaped (units : List (Option Char)) : Prop :=
  ∀ c, some c ∈ units → c ≠ '"' ∧ c ≠ '\\' ∧ ¬ c < ' '

/-- The parts of a literal that stand for bytes that are no character. -/
def unreadablePieces : List Piece :=
  [.plain 'x' (by decide), .unit ⟨⟨'d', rfl⟩, ⟨'c', rfl⟩, ⟨'0', rfl⟩, ⟨'0', rfl⟩⟩]

/-- A string of units is a literal. -/
theorem Unescaped.exists_body (h : Unescaped units) : ∃ l : Literal, l.body = ofUnits units := by
  induction units with
  | nil => exact ⟨⟨[]⟩, rfl⟩
  | cons c units ih =>
    obtain ⟨l, hl⟩ := ih fun c hc => h c (List.mem_cons_of_mem _ hc)
    cases c with
    | some c =>
      refine ⟨⟨.plain c (h c (List.mem_cons_self ..)) :: l.pieces⟩, ?_⟩
      rw [ofUnits_some, ← hl]
      rfl
    | none =>
      refine ⟨⟨unreadablePieces ++ l.pieces⟩, ?_⟩
      rw [ofUnits_none, ← hl]
      rfl

/-- A string is passed over, whatever stands between its characters. -/
theorem skipString_ofUnits (h : Unescaped units) (rest : List Char) :
    skipString (ofUnits units ++ '"' :: rest) = .ok rest := by
  obtain ⟨l, hl⟩ := h.exists_body
  rw [← hl, l.skipString_body]

/-- What stands for bytes that are no character is refused wherever a string is read. -/
theorem stringFrom_unreadable (state : StringState) (done rest : List Char) :
    stringFrom true state done (unreadable ++ rest) = .error .malformed := by
  cases state with
  | plain => rfl
  | backslash high => cases high <;> rfl
  | hex left value high => rfl
  | half high => rfl

/-- A string is read if its bytes are all in order, and only then. -/
theorem string?_ofUnits (h : Unescaped units) (rest : List Char) :
    string? (ofUnits units ++ '"' :: rest)
      = match units.mapM id with
        | some cs => .ok (String.ofList cs, rest)
        | none => .error .malformed := by
  have hfrom (done : List Char) : stringFrom true .plain done (ofUnits units ++ '"' :: rest)
      = match units.mapM id with
        | some cs => .ok (done.reverse ++ cs, rest)
        | none => .error .malformed := by
    induction units generalizing done with
    | nil => simp [stringFrom, pure, Except.pure]
    | cons c units ih =>
      have htail : Unescaped units := fun c hc => h c (List.mem_cons_of_mem _ hc)
      cases c with
      | some c =>
        have hpiece : (Piece.plain c (h c (List.mem_cons_self ..))).char? = some c := rfl
        have hstep := stringFrom_piece done (ofUnits units ++ '"' :: rest) hpiece
        rw [ofUnits_some]
        change stringFrom true .plain done (c :: (ofUnits units ++ '"' :: rest)) = _ at hstep
        change stringFrom true .plain done (c :: (ofUnits units ++ '"' :: rest)) = _
        rw [hstep, ih htail]
        cases hunits : units.mapM id <;> simp [List.mapM_cons, hunits]
      | none =>
        rw [ofUnits_none, List.append_assoc, stringFrom_unreadable]
        rfl
  rw [string?, hfrom]
  cases units.mapM id <;> rfl

end FluxCorpus.Json
