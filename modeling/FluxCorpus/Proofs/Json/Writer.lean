import FluxCorpus.Proofs.Text.Decimal
import FluxCorpus.Query
import FluxCorpus.Text.Utf8

/-!
# Written JSON stays on one line

Control characters are escaped, so neither a string nor an object of strings and numerals holds a
line break, whatever is in the strings.

* `newline_not_mem_escape` — the written form of one character.
* `newline_not_mem_object` — an object, if its values hold none.
* `Query.newline_not_mem_numberedJson` — a record with its number.
* `Text.newline_byte_not_mem_encode` — the same for the bytes of a text.
-/

namespace FluxCorpus

/-! ## Bytes -/

namespace Text

theorem eq_newline_of_byte {c : Char} (h : (10 : UInt8) ∈ String.utf8EncodeChar c) : c = '\n' := by
  have hbyte : ∀ n : Nat, n % 256 ≠ 10 → (10 : UInt8) ≠ UInt8.ofNat n := by
    intro n hn heq
    exact hn (congrArg UInt8.toNat heq).symm
  rw [String.utf8EncodeChar] at h
  split at h
  · have hval : c.val.toNat = 10 := by
      by_contra hne
      exact hbyte _ (by omega) (List.mem_singleton.1 h)
    exact Char.ext (UInt32.toNat_inj.1 hval)
  · -- every byte of a longer form is 128 or more
    exfalso
    split at h
    · simp only [List.mem_cons, List.not_mem_nil, or_false] at h
      rcases h with h | h <;> exact hbyte _ (by omega) h
    split at h
    · simp only [List.mem_cons, List.not_mem_nil, or_false] at h
      rcases h with h | h | h <;> exact hbyte _ (by omega) h
    · simp only [List.mem_cons, List.not_mem_nil, or_false] at h
      rcases h with h | h | h | h <;> exact hbyte _ (by omega) h

/-- A text without line breaks has no such byte either. -/
theorem newline_byte_not_mem_encode {cs : List Char} (h : '\n' ∉ cs) :
    (10 : UInt8) ∉ Utf8.encode cs := by
  intro hmem
  obtain ⟨c, hc, hbyte⟩ := List.mem_flatMap.1 hmem
  rw [eq_newline_of_byte hbyte] at hc
  exact h hc

end Text

/-! ## Characters -/

namespace Json

theorem digit_ne_newline {d : Nat} (h : d < 16) : Text.Hexadecimal.digit d ≠ '\n' := by
  have all : ∀ d : Fin 16, Text.Hexadecimal.digit d ≠ '\n' := by decide
  exact all ⟨d, h⟩

theorem newline_not_mem_escape (c : Char) : '\n' ∉ escape c := by
  rw [escape]
  split
  · next hc =>
    obtain rfl | rfl := hc <;> decide
  split
  · decide
  split
  · decide
  split
  · decide
  split
  · decide
  split
  · decide
  next hne _ _ =>
  split
  · next hlt =>
    have hlt : c.toNat < 32 := hlt
    have hhigh := digit_ne_newline (d := c.toNat / 16) (by omega)
    have hlow := digit_ne_newline (d := c.toNat % 16) (by omega)
    simp [hhigh.symm, hlow.symm]
  · rw [List.mem_singleton]
    exact fun h => hne h.symm

theorem newline_not_mem_string (s : String) : '\n' ∉ string s := by
  intro h
  rw [string, List.mem_append, List.mem_cons, List.mem_flatMap, List.mem_singleton] at h
  obtain (h | ⟨c, -, h⟩) | h := h
  · cases h
  · exact newline_not_mem_escape c h
  · cases h

theorem newline_not_mem_separated {vs : List (List Char)} (h : ∀ v ∈ vs, '\n' ∉ v) :
    '\n' ∉ separated vs := by
  induction vs with
  | nil => exact List.not_mem_nil
  | cons v vs ih =>
    rw [List.forall_mem_cons] at h
    cases vs with
    | nil => exact h.1
    | cons w ws =>
      change '\n' ∉ v ++ ',' :: separated (w :: ws)
      rw [List.mem_append, List.mem_cons]
      rintro (hv | hcomma | hrest)
      · exact h.1 hv
      · cases hcomma
      · exact ih h.2 hrest

/-- An object holds no line break if its values do not. -/
theorem newline_not_mem_object {ms : List (String × List Char)} (h : ∀ m ∈ ms, '\n' ∉ m.2) :
    '\n' ∉ object ms := by
  have hmembers : '\n' ∉ separated (ms.map member) := by
    apply newline_not_mem_separated
    intro v hv
    obtain ⟨m, hm, rfl⟩ := List.mem_map.1 hv
    rw [member, List.mem_append, List.mem_cons]
    rintro (hname | hcolon | hvalue)
    · exact newline_not_mem_string m.1 hname
    · cases hcolon
    · exact h m hm hvalue
  rw [object, List.mem_append, List.mem_cons, List.mem_singleton]
  rintro ((hopen | hin) | hclose)
  · cases hopen
  · exact hmembers hin
  · cases hclose

end Json

/-- A record is written on one line. -/
theorem Query.newline_not_mem_numberedJson (q : Query) (id : Nat) :
    '\n' ∉ (q.numberedJson id).toList := by
  rw [numberedJson, String.toList_ofList]
  apply Json.newline_not_mem_object
  rw [List.forall_mem_cons]
  constructor
  · intro h
    have hdigit := List.all_eq_true.1 (Text.Decimal.all_isDigit_digits id) _ h
    cases hdigit
  · intro m hm
    rw [members] at hm
    obtain ⟨f, -, rfl⟩ := List.mem_map.1 hm
    exact Json.newline_not_mem_string f.2

end FluxCorpus
