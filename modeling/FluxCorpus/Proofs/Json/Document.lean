import FluxCorpus.Proofs.Json.Literal

/-!
# Well-formed values and their texts

A `Value` is any value that the grammar knows, as it stands in a text but for the blanks.  Its
`tokens` may have any blanks in front of them, and the reader that passes over values gets to the
end of every such text at any depth.

* `Spaced` — a text consists of given tokens with blanks in front of them.
* `nextItem_spaced`, `nextKey_spaced`, `colon_spaced` — what stands between values is read.
* `skipValue_spaced` — **every well-formed value is passed over**, up to its last character.
* `Value.compact` — the text of a value without blanks.
-/

namespace FluxCorpus.Json

/-- A well-formed value.  The members of an object are kept in their order, and may have the same
key. -/
inductive Value
  | null
  | bool (b : Bool)
  | number (n : NumberLiteral)
  | string (l : Literal)
  | array (items : List Value)
  | object (members : List (Literal × Value))

/-- The comma in front of an item or a member, unless it is the first. -/
def comma (first : Bool) : List (List Char) := if first then [] else [[',']]

mutual

/-- The tokens of a value. -/
def Value.tokens : Value → List (List Char)
  | .null => [['n', 'u', 'l', 'l']]
  | .bool true => [['t', 'r', 'u', 'e']]
  | .bool false => [['f', 'a', 'l', 's', 'e']]
  | .number n => [n.text]
  | .string l => [l.text]
  | .array items => ['['] :: itemTokens true items
  | .object members => ['\x7b'] :: memberTokens true members

/-- The tokens of the items of an array and of its closing bracket. -/
def itemTokens (first : Bool) : List Value → List (List Char)
  | [] => [[']']]
  | v :: vs => comma first ++ (v.tokens ++ itemTokens false vs)

/-- The tokens of the members of an object and of its closing brace. -/
def memberTokens (first : Bool) : List (Literal × Value) → List (List Char)
  | [] => [['\x7d']]
  | (key, v) :: ms =>
    comma first ++ key.text :: [':'] :: (v.tokens ++ memberTokens false ms)

end

/-- A text consists of the given tokens, each with any blanks in front of it. -/
inductive Spaced : List (List Char) → List Char → Prop
  | nil : Spaced [] []
  | cons {gap token text : List Char} {tokens : List (List Char)} :
      gap.all isBlank = true → Spaced tokens text → Spaced (token :: tokens) (gap ++ (token ++ text))

/-- A text is one value, with any blanks around its tokens. -/
def Value.Spells (v : Value) (text : String) : Prop :=
  ∃ body gap, text.toList = body ++ gap ∧ Spaced v.tokens body ∧ gap.all isBlank = true

/-- The text of a value without blanks. -/
def Value.compact (v : Value) : String := String.ofList v.tokens.flatten

/-! ## Blanks and tokens -/

section Tokens

variable {text rest gap : List Char} {tokens : List (List Char)} {first : Bool}

/-- A token without blanks in front of it. -/
theorem Spaced.tight {token : List Char} (h : Spaced tokens text) :
    Spaced (token :: tokens) (token ++ text) :=
  @Spaced.cons [] _ _ _ rfl h

theorem spaced_flatten (tokens : List (List Char)) : Spaced tokens tokens.flatten := by
  induction tokens with
  | nil => exact .nil
  | cons t ts ih => exact ih.tight

theorem Value.spells_compact (v : Value) : v.Spells v.compact :=
  ⟨v.tokens.flatten, [], by rw [Value.compact, String.toList_ofList, List.append_nil],
    spaced_flatten _, rfl⟩

theorem Spaced.split {ts us : List (List Char)} (h : Spaced (ts ++ us) text) :
    ∃ front behind, text = front ++ behind ∧ Spaced ts front ∧ Spaced us behind := by
  induction ts generalizing text with
  | nil => exact ⟨[], text, rfl, .nil, h⟩
  | cons t ts ih =>
    cases h with
    | cons hgap h =>
      obtain ⟨front, behind, rfl, hfront, hbehind⟩ := ih h
      exact ⟨_, behind, by simp, .cons hgap hfront, hbehind⟩

theorem skipBlanks_gap (hgap : gap.all isBlank = true) (cs : List Char) :
    skipBlanks (gap ++ cs) = skipBlanks cs :=
  List.dropWhile_append_of_pos (List.all_eq_true.1 hgap)

/-- The blanks in front of a token are passed over. -/
theorem Spaced.skipBlanks {c : Char} {cs : List Char} (hc : isBlank c = false)
    (h : Spaced ((c :: cs) :: tokens) text) (rest : List Char) :
    ∃ more, Json.skipBlanks (text ++ rest) = c :: (cs ++ (more ++ rest)) ∧ Spaced tokens more
      ∧ (c :: cs).length + more.length ≤ text.length := by
  cases h with
  | @cons gap token more tokens hgap h =>
    refine ⟨more, ?_, h, ?_⟩
    · rw [List.append_assoc, skipBlanks_gap hgap]
      simp [Json.skipBlanks, hc]
    · rw [List.length_append, List.length_append]
      omega

/-- A character that ends a numeral. -/
abbrev Ends (c : Char) : Prop := c.isDigit = false ∧ c ≠ '.' ∧ c ≠ 'e' ∧ c ≠ 'E'

theorem ends_of_isBlank {c : Char} (h : isBlank c = true) : Ends c := by
  simp only [isBlank, Bool.or_eq_true, decide_eq_true_eq] at h
  rcases h with ((rfl | rfl) | rfl) | rfl <;> decide

theorem endsNumeral_gap (hgap : gap.all isBlank = true) : EndsNumeral gap := by
  intro c hc
  exact ends_of_isBlank (List.all_eq_true.1 hgap c (List.mem_of_mem_head? hc))

theorem Spaced.endsNumeral {c : Char} (hc : Ends c) (h : Spaced ([c] :: tokens) text)
    (rest : List Char) : EndsNumeral (text ++ rest) := by
  cases h with
  | @cons gap token more tokens hgap h =>
    intro d hd
    cases gap with
    | nil =>
      obtain rfl : c = d := Option.some.inj hd
      exact hc
    | cons b gap =>
      obtain rfl : b = d := Option.some.inj hd
      exact ends_of_isBlank (List.all_eq_true.1 hgap b List.mem_cons_self)

/-! ### Between the values -/

theorem close_spaced_items (first : Bool) (h : Spaced [[']']] text) (rest : List Char) :
    nextItem first (text ++ rest) = .ok none ∧ closeArray (text ++ rest) = .ok rest := by
  obtain ⟨more, hskip, hmore, -⟩ := h.skipBlanks (by decide) rest
  cases hmore
  constructor
  · rw [nextItem, hskip]
    rfl
  · rw [closeArray, hskip]
    rfl

theorem close_spaced_members (first : Bool) (h : Spaced [['\x7d']] text) (rest : List Char) :
    nextKey first (text ++ rest) = .ok none ∧ closeObject (text ++ rest) = .ok rest := by
  obtain ⟨more, hskip, hmore, -⟩ := h.skipBlanks (by decide) rest
  cases hmore
  constructor
  · rw [nextKey, hskip]
    rfl
  · rw [closeObject, hskip]
    rfl

/-- The next item of an array is found, behind a comma unless it is the first. -/
theorem nextItem_spaced {c : Char} {cs : List Char} (hc : isBlank c = false ∧ c ≠ ']')
    (h : Spaced (comma first ++ (c :: cs) :: tokens) text) (rest : List Char) :
    ∃ more, nextItem first (text ++ rest) = .ok (some (more ++ rest))
      ∧ Spaced ((c :: cs) :: tokens) more ∧ more.length ≤ text.length := by
  have hitem {front : List Char} (h : Spaced ((c :: cs) :: tokens) front) :
      ∃ more, skipBlanks (front ++ rest) = c :: (cs ++ more ++ rest)
        ∧ Spaced ((c :: cs) :: tokens) (c :: (cs ++ more))
        ∧ (c :: (cs ++ more)).length ≤ front.length := by
    obtain ⟨more, hskip, hmore, hlength⟩ := h.skipBlanks hc.1 rest
    refine ⟨more, by rw [hskip, List.append_assoc], hmore.tight, ?_⟩
    simpa [Nat.add_right_comm] using hlength
  cases first with
  | true =>
    obtain ⟨more, hskip, hmore, hlength⟩ := hitem h
    refine ⟨_, ?_, hmore, hlength⟩
    simp [nextItem, hskip, hc.2, pure, Except.pure]
  | false =>
    obtain ⟨front, hcomma, hfront, hlt⟩ := Spaced.skipBlanks (by decide) h rest
    obtain ⟨more, hskip, hmore, hlength⟩ := hitem hfront
    refine ⟨_, ?_, hmore, le_trans hlength (le_trans (Nat.le_add_left _ _) hlt)⟩
    simp [nextItem, hcomma, hskip, hc.2, pure, Except.pure]

/-- The next key of an object is found behind its opening quote. -/
theorem nextKey_spaced {key : Literal} (h : Spaced (comma first ++ key.text :: tokens) text)
    (rest : List Char) :
    ∃ more, nextKey first (text ++ rest) = .ok (some (key.body ++ '"' :: (more ++ rest)))
      ∧ Spaced tokens more ∧ more.length < text.length := by
  have hkey {front : List Char} (h : Spaced (key.text :: tokens) front) :
      ∃ more, skipBlanks (front ++ rest) = '"' :: (key.body ++ '"' :: (more ++ rest))
        ∧ Spaced tokens more ∧ more.length < front.length := by
    obtain ⟨more, hskip, hmore, hlength⟩ := h.skipBlanks (by decide) rest
    refine ⟨more, by simpa using hskip, hmore, ?_⟩
    rw [List.length_cons] at hlength
    omega
  cases first with
  | true =>
    obtain ⟨more, hskip, hmore, hlength⟩ := hkey h
    refine ⟨more, ?_, hmore, hlength⟩
    simp [nextKey, hskip, pure, Except.pure]
  | false =>
    obtain ⟨front, hcomma, hfront, hlt⟩ := Spaced.skipBlanks (by decide) h rest
    obtain ⟨more, hskip, hmore, hlength⟩ := hkey hfront
    refine ⟨more, ?_, hmore, lt_of_lt_of_le hlength (le_trans (Nat.le_add_left _ _) hlt)⟩
    simp [nextKey, hcomma, hskip, pure, Except.pure]

theorem colon_spaced (h : Spaced ([':'] :: tokens) text) (rest : List Char) :
    ∃ more, colon (text ++ rest) = .ok (more ++ rest) ∧ Spaced tokens more
      ∧ more.length < text.length := by
  obtain ⟨more, hskip, hmore, hlength⟩ := h.skipBlanks (by decide) rest
  refine ⟨more, ?_, hmore, ?_⟩
  · rw [colon, hskip]
    rfl
  · rw [List.length_singleton] at hlength
    omega

end Tokens

/-! ## Passing over values -/

/-- A value starts with a character by which it is told from the end of an array. -/
theorem Value.tokens_cons (v : Value) :
    ∃ c cs ts, v.tokens = (c :: cs) :: ts ∧ isBlank c = false ∧ c ≠ ']' := by
  cases v with
  | null => exact ⟨_, _, _, rfl, by decide⟩
  | bool b => cases b <;> exact ⟨_, _, _, rfl, by decide⟩
  | number n =>
    obtain ⟨c, cs, hcons, hc⟩ := n.unsigned_cons
    by_cases hneg : n.negative = true
    · exact ⟨'-', n.unsigned, [], by rw [tokens, NumberLiteral.text, if_pos hneg], by decide⟩
    · exact ⟨c, cs, [], by rw [tokens, NumberLiteral.text, if_neg hneg, hcons],
        (isBlank_of_isDigit hc).1, ne_of_isDigit hc rfl⟩
  | string l => exact ⟨_, _, _, rfl, by decide⟩
  | array items => exact ⟨_, _, _, by rw [tokens], by decide⟩
  | object members => exact ⟨_, _, _, by rw [tokens], by decide⟩

theorem itemTokens_ends (vs : List Value) : ∃ c ts, itemTokens false vs = [c] :: ts ∧ Ends c := by
  cases vs with
  | nil => exact ⟨_, _, rfl, by decide⟩
  | cons v vs => exact ⟨',', _, by rw [itemTokens]; rfl, by decide⟩

theorem memberTokens_ends (ms : List (Literal × Value)) :
    ∃ c ts, memberTokens false ms = [c] :: ts ∧ Ends c := by
  cases ms with
  | nil => exact ⟨_, _, rfl, by decide⟩
  | cons m ms => exact ⟨',', _, by rw [memberTokens]; rfl, by decide⟩

/-- A text is that of a value, and what is behind it in the same array or object. -/
structure Parted (v : Value) (tokens : List (List Char)) (rest front behind : List Char) : Prop where
  front_spaced : Spaced v.tokens front
  behind_spaced : Spaced tokens behind
  endsNumeral : EndsNumeral (behind ++ rest)
  front_ne_nil : front ≠ []
  behind_ne_nil : behind ≠ []

section Parts

variable {v : Value} {tokens : List (List Char)} {text : List Char} {first : Bool}

theorem Spaced.parted (h : Spaced (v.tokens ++ tokens) text)
    (htokens : ∃ c ts, tokens = [c] :: ts ∧ Ends c) (rest : List Char) :
    ∃ front behind, text = front ++ behind ∧ Parted v tokens rest front behind := by
  have hne {c : Char} {cs text : List Char} {ts : List (List Char)}
      (h : Spaced ((c :: cs) :: ts) text) : text ≠ [] := by
    cases h
    simp
  obtain ⟨front, behind, rfl, hfront, hbehind⟩ := h.split
  obtain ⟨c, ts, rfl, hc⟩ := htokens
  obtain ⟨d, ds, us, hv, -⟩ := v.tokens_cons
  refine ⟨front, behind, rfl, hfront, hbehind, hbehind.endsNumeral hc rest, ?_, hne hbehind⟩
  rw [hv] at hfront
  exact hne hfront

/-- The next item of an array is found with its value in front. -/
theorem nextItem_value (h : Spaced (comma first ++ (v.tokens ++ tokens)) text)
    (htokens : ∃ c ts, tokens = [c] :: ts ∧ Ends c) (rest : List Char) :
    ∃ front behind, nextItem first (text ++ rest) = .ok (some (front ++ (behind ++ rest)))
      ∧ Parted v tokens rest front behind ∧ front.length + behind.length ≤ text.length := by
  obtain ⟨c, cs, ts, hv, hc⟩ := v.tokens_cons
  rw [hv, List.cons_append] at h
  obtain ⟨more, hnext, hmore, hlength⟩ := nextItem_spaced hc h rest
  rw [← List.cons_append, ← hv] at hmore
  obtain ⟨front, behind, rfl, hparted⟩ := hmore.parted htokens rest
  rw [List.append_assoc] at hnext
  exact ⟨front, behind, hnext, hparted, by simpa using hlength⟩

/-- The next key of an object is found, and behind it the value in front. -/
theorem nextKey_value {key : Literal}
    (h : Spaced (comma first ++ key.text :: [':'] :: (v.tokens ++ tokens)) text)
    (htokens : ∃ c ts, tokens = [c] :: ts ∧ Ends c) (rest : List Char) :
    ∃ more front behind, nextKey first (text ++ rest) = .ok (some (key.body ++ '"' :: more))
      ∧ colon more = .ok (front ++ (behind ++ rest))
      ∧ Parted v tokens rest front behind ∧ front.length + behind.length ≤ text.length := by
  obtain ⟨more, hnext, hmore, hlength⟩ := nextKey_spaced h rest
  obtain ⟨values, hcolon, hvalues, hlt⟩ := colon_spaced hmore rest
  obtain ⟨front, behind, rfl, hparted⟩ := hvalues.parted htokens rest
  rw [List.append_assoc] at hcolon
  rw [List.length_append] at hlt
  exact ⟨_, front, behind, hnext, hcolon, hparted, by omega⟩

theorem Parted.lengths {rest front behind : List Char} (h : Parted v tokens rest front behind) :
    0 < front.length ∧ 0 < behind.length :=
  ⟨List.length_pos_iff.2 h.front_ne_nil, List.length_pos_iff.2 h.behind_ne_nil⟩

end Parts

section Numbers

variable {n : NumberLiteral} {text rest : List Char}

/-- What is left behind the blanks in front of a number. -/
theorem skipValue_number (h : Spaced [n.text] text) (hrest : EndsNumeral rest) (steps : Nat) :
    skipValue (steps + 1) (text ++ rest) = .ok rest := by
  obtain ⟨c, cs, hcons, hc⟩ := n.unsigned_cons
  have hnumber := skipNumber_unsigned n hrest
  rw [NumberLiteral.text] at h
  split at h
  · obtain ⟨more, hskip, hmore, -⟩ := h.skipBlanks (by decide) rest
    cases hmore
    simp [skipValue, hskip, hnumber]
  · rw [hcons] at h hnumber
    obtain ⟨more, hskip, hmore, -⟩ := h.skipBlanks (isBlank_of_isDigit hc).1 rest
    cases hmore
    have hne (d : Char) := ne_of_isDigit hc (d := d)
    simpa [skipValue, hskip, hne 'n' rfl, hne 't' rfl, hne 'f' rfl, hne '"' rfl, hne '-' rfl, hc]
      using hnumber

end Numbers

mutual

/-- **Every well-formed value is passed over**, up to its last character and at any depth. -/
theorem skipValue_spaced : ∀ (v : Value) {text rest : List Char} {steps : Nat},
    Spaced v.tokens text → EndsNumeral rest → text.length < steps →
      skipValue steps (text ++ rest) = .ok rest
  | _, _, _, 0, _, _, hsteps => absurd hsteps (Nat.not_lt_zero _)
  | .null, _, rest, steps + 1, h, _, _ => by
    obtain ⟨more, hskip, hmore, -⟩ := Spaced.skipBlanks (by decide) h rest
    cases hmore
    simp [skipValue, hskip, word, pure, Except.pure]
  | .bool true, _, rest, steps + 1, h, _, _ => by
    obtain ⟨more, hskip, hmore, -⟩ := Spaced.skipBlanks (by decide) h rest
    cases hmore
    simp [skipValue, hskip, word, pure, Except.pure]
  | .bool false, _, rest, steps + 1, h, _, _ => by
    obtain ⟨more, hskip, hmore, -⟩ := Spaced.skipBlanks (by decide) h rest
    cases hmore
    simp [skipValue, hskip, word, pure, Except.pure]
  | .number _, _, _, steps + 1, h, hrest, _ => skipValue_number h hrest steps
  | .string l, _, rest, steps + 1, h, _, _ => by
    obtain ⟨more, hskip, hmore, -⟩ := Spaced.skipBlanks (by decide) h rest
    cases hmore
    simp [skipValue, hskip, l.skipString_body]
  | .array items, _, rest, steps + 1, h, _, hsteps => by
    obtain ⟨more, hskip, hmore, hlength⟩ := Spaced.skipBlanks (by decide) h rest
    rw [List.length_singleton] at hlength
    have hitems := skipItems_spaced items rest hmore (show _ < steps by omega)
    simpa [skipValue, hskip] using hitems
  | .object members, _, rest, steps + 1, h, _, hsteps => by
    obtain ⟨more, hskip, hmore, hlength⟩ := Spaced.skipBlanks (by decide) h rest
    rw [List.length_singleton] at hlength
    have hmembers := skipMembers_spaced members rest hmore (show _ < steps by omega)
    simpa [skipValue, hskip] using hmembers

theorem skipItems_spaced : ∀ (vs : List Value) (rest : List Char) {first : Bool} {text : List Char}
    {steps : Nat}, Spaced (itemTokens first vs) text → text.length < steps →
      skipItems steps first (text ++ rest) = .ok rest
  | _, _, _, _, 0, _, hsteps => absurd hsteps (Nat.not_lt_zero _)
  | [], rest, first, _, steps + 1, h, _ => by
    obtain ⟨hnext, hclose⟩ := close_spaced_items first h rest
    rw [skipItems, hnext]
    exact hclose
  | v :: vs, rest, _, _, steps + 1, h, hsteps => by
    obtain ⟨front, behind, hnext, hparted, hlength⟩ := nextItem_value h (itemTokens_ends vs) rest
    obtain ⟨hfront, hbehind⟩ := hparted.lengths
    have hvalue := skipValue_spaced v hparted.front_spaced hparted.endsNumeral
      (show _ < steps by omega)
    have hitems := skipItems_spaced vs rest hparted.behind_spaced (show _ < steps by omega)
    rw [skipItems, hnext]
    simpa [hvalue, bind, Except.bind] using hitems

theorem skipMembers_spaced : ∀ (ms : List (Literal × Value)) (rest : List Char) {first : Bool}
    {text : List Char} {steps : Nat}, Spaced (memberTokens first ms) text → text.length < steps →
      skipMembers steps first (text ++ rest) = .ok rest
  | _, _, _, _, 0, _, hsteps => absurd hsteps (Nat.not_lt_zero _)
  | [], rest, first, _, steps + 1, h, _ => by
    obtain ⟨hnext, hclose⟩ := close_spaced_members first h rest
    rw [skipMembers, hnext]
    exact hclose
  | (key, v) :: ms, rest, _, _, steps + 1, h, hsteps => by
    obtain ⟨more, front, behind, hnext, hcolon, hparted, hlength⟩ :=
      nextKey_value h (memberTokens_ends ms) rest
    obtain ⟨hfront, hbehind⟩ := hparted.lengths
    have hvalue := skipValue_spaced v hparted.front_spaced hparted.endsNumeral
      (show _ < steps by omega)
    have hmembers := skipMembers_spaced ms rest hparted.behind_spaced (show _ < steps by omega)
    rw [skipMembers, hnext]
    simpa [key.skipString_body, hcolon, hvalue, bind, Except.bind] using hmembers

end

/-- A value that nobody asked for is passed over. -/
theorem skip_spaced {v : Value} {text rest : List Char} (h : Spaced v.tokens text)
    (hrest : EndsNumeral rest) : skip (text ++ rest) = .ok rest := by
  refine skipValue_spaced v h hrest ?_
  rw [enough, List.length_append]
  omega

end FluxCorpus.Json
