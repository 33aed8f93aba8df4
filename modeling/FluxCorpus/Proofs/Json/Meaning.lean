import FluxCorpus.Proofs.Json.Document
import Mathlib.Data.List.Forall2

/-!
# What a value means to a reader

A reader of a `Shape` looks only at the members that it knows.  `Means` says what it makes of a
value: a datum, or nothing where a member without a default is left out.  It says nothing of the
order of the members and of unknown ones, so it is kept when a value is written in another way.

* `Means` — what a value means to a reader of a shape.
* `read_spaced`, `readItems_spaced`, `readMembers_spaced` — the reader finds what is meant.
* `decode_of_means` — **every text of a value is decoded to what the value means.**
* `Respells`, `Means.respells` — objects may be permuted and extended at any depth.
* `members`, `means_object` — an object of some of the fields, in their order.
-/

namespace FluxCorpus.Json

/-- A result that may be missing.  Whatever is missing is a mismatch. -/
def orMismatch {α : Type} (r : Option α) : Except Problem α := r.elim (.error .mismatch) .ok

/-- A member of an object. -/
abbrev Member := Literal × Value

/-- The keys of an object.  A key that is no string is none. -/
def keys (ms : List Member) : List (Option String) := ms.map fun m => m.1.string?

@[simp] theorem keys_cons (m : Member) (ms : List Member) : keys (m :: ms) = m.1.string? :: keys ms :=
  rfl

@[simp] theorem keys_append (ms ms' : List Member) : keys (ms ++ ms') = keys ms ++ keys ms' :=
  List.map_append

theorem mem_keys {m : Member} {ms : List Member} {key : String} (hm : m ∈ ms)
    (hkey : m.1.string? = some key) : some key ∈ keys ms :=
  hkey ▸ List.mem_map_of_mem hm

/-- The names of the fields of a record. -/
def names (fields : List Field) : List String := fields.map fun f => f.1

theorem mem_names {f : Field} {fields : List Field} (hf : f ∈ fields) : f.1 ∈ names fields :=
  List.mem_map_of_mem hf

/-- What a field means in an object: its default unless there is a member for it. -/
def fieldMeaning (meaning : String → Option Datum) (ms : List Member) (f : Field) : Option Datum :=
  if some f.1 ∈ keys ms then meaning f.1 else f.2.1

mutual

/-- What a value means to a reader of a shape: a datum, or nothing if a member is left out that has
no default.  Each field of a record has at most one member, and there may be any other members. -/
def Means : Shape → Option Datum → Value → Prop
  | .text, r, .string l => ∃ s, l.string? = some s ∧ r = some (.text s)
  | .integer, r, .number n => ∃ i, Representable i ∧ n = .ofInt i ∧ r = some (.integer i)
  | .list item, r, .array vs => ∃ rs, List.Forall₂ (Means item) rs vs ∧ r = (rs.mapM id).map .list
  | .record fields, r, .object ms => ∃ meaning : String → Option Datum,
      (∀ m ∈ ms, ∃ key, m.1.string? = some key ∧ MeansMember fields key (meaning key) m.2)
      ∧ (∀ f ∈ fields, (keys ms).count (some f.1) ≤ 1)
      ∧ r = (fields.mapM (fieldMeaning meaning ms)).map .record
  | _, _, _ => False

/-- What the value of a member means to the field of that name.  It may be anything if there is no
such field. -/
def MeansMember : List Field → String → Option Datum → Value → Prop
  | [], _, _, _ => True
  | (name, _, shape) :: fs, key, r, v =>
    if name = key then Means shape r v else MeansMember fs key r v

end

/-- What the members of an object mean to the fields of a record. -/
structure MeansFields (fields : List Field) (meaning : String → Option Datum) (ms : List Member) :
    Prop where
  value : ∀ m ∈ ms, ∃ key, m.1.string? = some key ∧ MeansMember fields key (meaning key) m.2
  once : ∀ f ∈ fields, (keys ms).count (some f.1) ≤ 1

theorem means_record {fields : List Field} {r : Option Datum} {ms : List Member} :
    Means (.record fields) r (.object ms) ↔ ∃ meaning, MeansFields fields meaning ms
      ∧ r = (fields.mapM (fieldMeaning meaning ms)).map .record := by
  rw [Means]
  constructor
  · rintro ⟨meaning, hvalue, honce, hr⟩
    exact ⟨meaning, ⟨hvalue, honce⟩, hr⟩
  · rintro ⟨meaning, ⟨hvalue, honce⟩, hr⟩
    exact ⟨meaning, hvalue, honce, hr⟩

theorem meansMember_of_find? {fields : List Field} {key : String} {f : Field}
    (h : fields.find? (fun f => f.1 = key) = some f) (r : Option Datum) (v : Value) :
    MeansMember fields key r v ↔ Means f.2.2 r v := by
  induction fields with
  | nil => cases h
  | cons g fields ih =>
    obtain ⟨name, default, shape⟩ := g
    rw [List.find?_cons] at h
    rw [MeansMember]
    by_cases hname : name = key
    · rw [if_pos hname]
      simp only [hname, decide_true] at h
      obtain rfl := Option.some.inj h
      rfl
    · rw [if_neg hname]
      simp only [hname, decide_false] at h
      exact ih h

theorem meansMember_of_unknown {fields : List Field} {key : String}
    (h : key ∉ names fields) (r : Option Datum) (v : Value) :
    MeansMember fields key r v := by
  induction fields with
  | nil => exact trivial
  | cons g fields ih =>
    obtain ⟨name, default, shape⟩ := g
    rw [names, List.map_cons, List.mem_cons, not_or] at h
    rw [MeansMember, if_neg (Ne.symm h.1)]
    exact ih h.2

/-! ## Reading -/

section Options

variable {α β : Type}

theorem mapM_eq_none {f : α → Option β} {a : α} {l : List α} (ha : a ∈ l) (h : f a = none) :
    l.mapM f = none := by
  induction l with
  | nil => cases ha
  | cons b l ih =>
    rw [List.mapM_cons]
    rcases List.mem_cons.1 ha with rfl | hmem
    · rw [h]
      rfl
    · rw [ih hmem]
      cases f b <;> rfl

theorem mapM_congr {f g : α → Option β} {l : List α} (h : ∀ a ∈ l, f a = g a) :
    l.mapM f = l.mapM g := by
  induction l with
  | nil => rfl
  | cons a l ih =>
    rw [List.mapM_cons, List.mapM_cons, h a List.mem_cons_self,
      ih fun b hb => h b (List.mem_cons_of_mem a hb)]

theorem mapM_orMismatch {F : α → Except Problem β} {f : α → Option β} {l : List α}
    (h : ∀ a ∈ l, F a = orMismatch (f a)) : l.mapM F = orMismatch (l.mapM f) := by
  induction l with
  | nil => rfl
  | cons a l ih =>
    rw [List.mapM_cons, List.mapM_cons, h a List.mem_cons_self,
      ih fun b hb => h b (List.mem_cons_of_mem a hb)]
    cases f a with
    | none => rfl
    | some b => cases l.mapM f <;> rfl

end Options

/-- A reader of a shape finds what is meant in every text of a value. -/
def Finds (shape : Shape) : Prop :=
  ∀ (r : Option Datum) (v : Value) (text rest : List Char) (steps : Nat),
    Means shape r v → Spaced v.tokens text → EndsNumeral rest → text.length < steps →
      read steps shape (text ++ rest) = orMismatch (r.map fun d => (d, rest))

section Lists

variable {item : Shape}

/-- The items of a list are read one by one, up to the first one that means nothing. -/
theorem readItems_spaced (hitem : Finds item) {rs : List (Option Datum)} {vs : List Value}
    (h : List.Forall₂ (Means item) rs vs) (done : List Datum) (rest : List Char) {first : Bool}
    {text : List Char} {steps : Nat} (htext : Spaced (itemTokens first vs) text)
    (hsteps : text.length < steps) :
    readItems steps item first done (text ++ rest)
      = orMismatch ((rs.mapM id).map fun ds => (done.reverse ++ ds, rest)) := by
  induction h generalizing first done text steps with
  | nil =>
    obtain ⟨steps, rfl⟩ := Nat.exists_eq_add_one_of_ne_zero (Nat.ne_of_gt (Nat.zero_lt_of_lt hsteps))
    obtain ⟨hnext, hclose⟩ := close_spaced_items first htext rest
    rw [readItems, hnext]
    simp [hclose, orMismatch, bind, Except.bind, pure, Except.pure]
  | @cons r v rs vs hv _ ih =>
    obtain ⟨steps, rfl⟩ := Nat.exists_eq_add_one_of_ne_zero (Nat.ne_of_gt (Nat.zero_lt_of_lt hsteps))
    obtain ⟨front, behind, hnext, hparted, hlength⟩ :=
      nextItem_value htext (itemTokens_ends vs) rest
    obtain ⟨hfront, hbehind⟩ := hparted.lengths
    have hvalue := hitem r v front (behind ++ rest) steps hv hparted.front_spaced
      hparted.endsNumeral (by omega)
    rw [readItems, hnext]
    cases r with
    | none => simp [hvalue, orMismatch, bind, Except.bind]
    | some d =>
      have hitems := ih (d :: done) hparted.behind_spaced (show _ < steps by omega)
      simp only [hvalue, orMismatch, bind, Except.bind, Option.map_some, Option.elim_some]
      rw [hitems]
      cases hrs : rs.mapM id <;> simp [hrs, orMismatch]

end Lists

section Records

variable {fields : List Field} {meaning : String → Option Datum}

/-- What was found in the members read so far is what they mean. -/
def FoundIn (fields : List Field) (meaning : String → Option Datum) (done : List Member)
    (found : List (String × Datum)) : Prop :=
  ∀ f ∈ fields, if some f.1 ∈ keys done
    then ∃ d, meaning f.1 = some d ∧ found.find? (fun m => m.1 = f.1) = some (f.1, d)
    else found.find? (fun m => m.1 = f.1) = none

theorem foundIn_nil : FoundIn fields meaning [] [] := by
  intro f _
  simp [keys]

theorem FoundIn.fieldValue {done : List Member} {found : List (String × Datum)}
    (h : FoundIn fields meaning done found) {f : Field} (hf : f ∈ fields) :
    fieldValue found f = orMismatch (fieldMeaning meaning done f) := by
  have hfound := h f hf
  rw [Json.fieldValue, fieldMeaning]
  split at hfound
  · next hmem =>
    obtain ⟨d, hd, hfind⟩ := hfound
    rw [hfind, if_pos hmem, hd]
    rfl
  · next hmem =>
    rw [hfound, if_neg hmem]
    cases f.2.1 <;> rfl

theorem FoundIn.unknown {done : List Member} {found : List (String × Datum)} {m : Member}
    {key : String} (h : FoundIn fields meaning done found) (hkey : m.1.string? = some key)
    (hunknown : key ∉ names fields) : FoundIn fields meaning (done ++ [m]) found := by
  intro f hf
  have hne : f.1 ≠ key := ne_of_mem_of_not_mem (mem_names hf) hunknown
  have hkeys : some f.1 ∈ keys (done ++ [m]) ↔ some f.1 ∈ keys done := by simp [keys, hkey, hne]
  simpa only [hkeys] using h f hf

theorem FoundIn.known {done : List Member} {found : List (String × Datum)} {m : Member}
    {key : String} {d : Datum} (h : FoundIn fields meaning done found)
    (hkey : m.1.string? = some key) (hd : meaning key = some d) :
    FoundIn fields meaning (done ++ [m]) ((key, d) :: found) := by
  intro f hf
  by_cases hname : key = f.1
  · subst hname
    rw [if_pos (by simp [hkey])]
    exact ⟨d, hd, by simp⟩
  · have hne : f.1 ≠ key := Ne.symm hname
    have hkeys : some f.1 ∈ keys (done ++ [m]) ↔ some f.1 ∈ keys done := by simp [keys, hkey, hne]
    have hfind : ((key, d) :: found).find? (fun m => m.1 = f.1)
        = found.find? (fun m => m.1 = f.1) := List.find?_cons_of_neg (by simpa using hname)
    simpa only [hkeys, hfind] using h f hf

theorem FoundIn.fresh {done : List Member} {found : List (String × Datum)}
    (h : FoundIn fields meaning done found) {f : Field} (hf : f ∈ fields)
    (hnot : some f.1 ∉ keys done) : ¬ found.any fun m => m.1 = f.1 := by
  have hnone := h f hf
  rw [if_neg hnot, List.find?_eq_none] at hnone
  intro hany
  obtain ⟨m, hm, hname⟩ := List.any_eq_true.1 hany
  exact hnone m hm hname

/-- A member of a name that occurs once is the first of this name. -/
theorem not_mem_keys_of_once {done todo : List Member} {m : Member} {name : String}
    (hkey : m.1.string? = some name)
    (honce : (keys (done ++ [m] ++ todo)).count (some name) ≤ 1) : some name ∉ keys done := by
  rw [keys_append, keys_append, keys_cons, hkey, List.count_append, List.count_append,
    List.count_cons_self] at honce
  exact List.count_eq_zero.1 (by omega)

/-- The members of a record are read one by one.  `done` holds those that were read before. -/
theorem readMembers_spaced (hfields : ∀ f ∈ fields, Finds f.2.2) (done : List Member)
    (rest : List Char) {todo : List Member} {found : List (String × Datum)} {first : Bool} {text : List Char}
    {steps : Nat}
    (hvalues : ∀ m ∈ todo, ∃ key, m.1.string? = some key
      ∧ MeansMember fields key (meaning key) m.2)
    (honce : ∀ f ∈ fields, (keys (done ++ todo)).count (some f.1) ≤ 1)
    (hfound : FoundIn fields meaning done found)
    (htext : Spaced (memberTokens first todo) text) (hsteps : text.length < steps) :
    readMembers steps fields first found (text ++ rest)
      = orMismatch ((fields.mapM (fieldMeaning meaning (done ++ todo))).map fun ds => (ds, rest)) := by
  induction todo generalizing done found first text steps with
  | nil =>
    obtain ⟨steps, rfl⟩ := Nat.exists_eq_add_one_of_ne_zero (Nat.ne_of_gt (Nat.zero_lt_of_lt hsteps))
    obtain ⟨hnext, hclose⟩ := close_spaced_members first htext rest
    have hmapM : fields.mapM (fieldValue found)
        = orMismatch (fields.mapM (fieldMeaning meaning done)) :=
      mapM_orMismatch fun f hf => hfound.fieldValue hf
    rw [readMembers, hnext, List.append_nil]
    simp only [hmapM, hclose, bind, Except.bind]
    cases fields.mapM (fieldMeaning meaning done) <;> rfl
  | cons m todo ih =>
    obtain ⟨steps, rfl⟩ := Nat.exists_eq_add_one_of_ne_zero (Nat.ne_of_gt (Nat.zero_lt_of_lt hsteps))
    obtain ⟨literal, v⟩ := m
    obtain ⟨key, hkey, hv⟩ := hvalues _ List.mem_cons_self
    obtain ⟨more, front, behind, hnext, hcolon, hparted, hlength⟩ :=
      nextKey_value htext (memberTokens_ends todo) rest
    obtain ⟨hfront, hbehind⟩ := hparted.lengths
    have hstring := Literal.string?_body hkey more
    have hsplit : done ++ (literal, v) :: todo = (done ++ [(literal, v)]) ++ todo := by simp
    rw [hsplit] at honce ⊢
    have hgoes {found' : List (String × Datum)}
        (hfound' : FoundIn fields meaning (done ++ [(literal, v)]) found') :=
      ih (done ++ [(literal, v)]) (fun m hm => hvalues m (List.mem_cons_of_mem _ hm)) honce hfound' hparted.behind_spaced
        (show _ < steps by omega)
    rw [readMembers, hnext]
    simp only [bind, Except.bind, hstring]
    cases hfind : fields.find? (fun f => f.1 = key) with
    | none =>
      have hunknown : key ∉ names fields := by
        rw [List.find?_eq_none] at hfind
        intro hmem
        obtain ⟨f, hf, rfl⟩ := List.mem_map.1 hmem
        exact hfind f hf (decide_eq_true rfl)
      have hskip := skip_spaced hparted.front_spaced hparted.endsNumeral
      simp only [hcolon, hskip]
      exact hgoes (hfound.unknown hkey hunknown)
    | some f =>
      have hf : f ∈ fields := List.mem_of_find?_eq_some hfind
      obtain rfl : f.1 = key := by simpa using List.find?_some hfind
      have hfresh := hfound.fresh hf (not_mem_keys_of_once hkey (honce f hf))
      have hread := hfields f hf (meaning f.1) v front (behind ++ rest) steps
        ((meansMember_of_find? hfind _ _).1 hv) hparted.front_spaced hparted.endsNumeral (by omega)
      simp only [if_neg hfresh, hcolon, hread]
      cases hmeaning : meaning f.1 with
      | none =>
        have hmissing : fieldMeaning meaning (done ++ [(literal, v)] ++ todo) f = none := by
          rw [fieldMeaning, if_pos, hmeaning]
          simp [keys, hkey]
        rw [mapM_eq_none hf hmissing]
        rfl
      | some d => exact hgoes (hfound.known hkey hmeaning)

end Records

mutual

/-- The reader of a shape finds what is meant. -/
theorem read_spaced : ∀ shape : Shape, Finds shape
  | _, _, _, _, _, 0, _, _, _, hsteps => absurd hsteps (Nat.not_lt_zero _)
  | .text, r, .string l, text, rest, steps + 1, h, htext, _, _ => by
    rw [Means] at h
    obtain ⟨s, hs, rfl⟩ := h
    obtain ⟨more, hskip, hmore, -⟩ := Spaced.skipBlanks (by decide) htext rest
    cases hmore
    simp [read, hskip, Literal.string?_body hs, orMismatch, bind, Except.bind, pure, Except.pure]
  | .integer, r, .number n, text, rest, steps + 1, h, htext, hrest, _ => by
    rw [Means] at h
    obtain ⟨i, hi, rfl, rfl⟩ := h
    obtain ⟨c, cs, ts, hcons, hc, -⟩ := (Value.number (.ofInt i)).tokens_cons
    obtain ⟨htext', rfl⟩ := List.cons.inj hcons
    have hread := readInteger_intText hi hrest
    rw [hcons] at htext
    rw [htext', List.cons_append] at hread
    obtain ⟨more, hskip, hmore, -⟩ := Spaced.skipBlanks hc htext rest
    cases hmore
    rw [read, hskip]
    exact hread
  | .list item, r, .array vs, text, rest, steps + 1, h, htext, _, hsteps => by
    rw [Means] at h
    obtain ⟨rs, hrs, rfl⟩ := h
    obtain ⟨more, hskip, hmore, hlength⟩ := Spaced.skipBlanks (by decide) htext rest
    rw [List.length_singleton] at hlength
    have hitems := readItems_spaced (read_spaced item) hrs [] rest hmore
      (show _ < steps by omega)
    simp only [read, hskip, if_true, List.nil_append, hitems, bind, Except.bind]
    cases rs.mapM id <;> rfl
  | .record fields, r, .object ms, text, rest, steps + 1, h, htext, _, hsteps => by
    obtain ⟨meaning, hmeans, rfl⟩ := means_record.1 h
    obtain ⟨more, hskip, hmore, hlength⟩ := Spaced.skipBlanks (by decide) htext rest
    rw [List.length_singleton] at hlength
    have hmembers := readMembers_spaced (findsFields fields) [] rest hmeans.value hmeans.once
      foundIn_nil hmore (show _ < steps by omega)
    simp only [read, hskip, if_true, List.nil_append, hmembers, bind, Except.bind]
    cases fields.mapM (fieldMeaning meaning ms) <;> rfl

theorem findsFields : ∀ fields : List Field, ∀ f ∈ fields, Finds f.2.2
  | [], _, hf => nomatch hf
  | (_, _, shape) :: fs, f, hf => by
    rcases List.mem_cons.1 hf with rfl | hf
    · exact read_spaced shape
    · exact findsFields fs f hf

end

/-- **Every text of a value is decoded to what the value means.** -/
theorem decode_of_means {shape : Shape} {r : Option Datum} {v : Value} {text : String}
    (hv : Means shape r v) (htext : v.Spells text) : shape.decode text = orMismatch r := by
  obtain ⟨body, gap, htoList, hbody, hgap⟩ := htext
  have hsteps : body.length < enough (body ++ gap) := by
    rw [enough, List.length_append]
    omega
  have hread := read_spaced shape r v body gap _ hv hbody (endsNumeral_gap hgap) hsteps
  have hblanks : skipBlanks gap = [] := by
    rw [← List.append_nil gap, skipBlanks_gap hgap]
    rfl
  rw [Shape.decode, htoList, hread]
  cases r with
  | none => rfl
  | some d => simp [orMismatch, hblanks, bind, Except.bind, pure, Except.pure]

/-! ## Other ways to write a value -/

/-- A value is turned into another one that a reader of the shape cannot tell from it.  In any of
the objects that the reader looks at, the members may be put into another order, and members of
other names may be added anywhere, each with any value. -/
inductive Respells : Shape → Value → Value → Prop
  | refl (shape : Shape) (v : Value) : Respells shape v v
  | trans {shape : Shape} {u v w : Value} :
      Respells shape u v → Respells shape v w → Respells shape u w
  | permute {fields : List Field} {ms ms' : List Member} :
      ms.Perm ms' → Respells (.record fields) (.object ms) (.object ms')
  | insert {fields : List Field} {front behind : List Member} {literal : Literal} {key : String}
      (v : Value) : literal.string? = some key → key ∉ names fields →
      Respells (.record fields) (.object (front ++ behind))
        (.object (front ++ (literal, v) :: behind))
  | item {item : Shape} {front behind : List Value} {v w : Value} :
      Respells item v w →
      Respells (.list item) (.array (front ++ v :: behind)) (.array (front ++ w :: behind))
  | member {fields : List Field} {front behind : List Member} {literal : Literal} {key : String}
      {f : Field} {v w : Value} : literal.string? = some key →
      fields.find? (fun f => f.1 = key) = some f → Respells f.2.2 v w →
      Respells (.record fields) (.object (front ++ (literal, v) :: behind))
        (.object (front ++ (literal, w) :: behind))

theorem forall₂_replace {α β : Type} {R : α → β → Prop} {as : List α} {front behind : List β}
    {b c : β} (hbc : ∀ a, R a b → R a c) (h : List.Forall₂ R as (front ++ b :: behind)) :
    List.Forall₂ R as (front ++ c :: behind) := by
  induction front generalizing as with
  | nil =>
    cases h with
    | cons hb hbehind => exact .cons (hbc _ hb) hbehind
  | cons d front ih =>
    cases h with
    | cons hd hfront => exact .cons hd (ih hfront)

section Members

variable {fields : List Field} {r : Option Datum} {front behind ms ms' : List Member} {m m' : Member}

theorem Means.permute (hperm : ms.Perm ms') (h : Means (.record fields) r (.object ms)) :
    Means (.record fields) r (.object ms') := by
  obtain ⟨meaning, hmeans, rfl⟩ := means_record.1 h
  have hkeys : (keys ms).Perm (keys ms') := hperm.map _
  have hmeaning : fieldMeaning meaning ms = fieldMeaning meaning ms' := by
    funext f
    simp only [fieldMeaning, hkeys.mem_iff]
  refine means_record.2 ⟨meaning, ⟨fun m hm => hmeans.value m (hperm.mem_iff.2 hm), ?_⟩, ?_⟩
  · intro f hf
    rw [← hkeys.count_eq]
    exact hmeans.once f hf
  · rw [hmeaning]

/-- A member is added that no field asks for. -/
theorem Means.insert {literal : Literal} {key : String} (v : Value)
    (hkey : literal.string? = some key) (hunknown : key ∉ names fields)
    (h : Means (.record fields) r (.object (front ++ behind))) :
    Means (.record fields) r (.object (front ++ (literal, v) :: behind)) := by
  refine Means.permute List.perm_middle.symm ?_
  obtain ⟨meaning, hmeans, rfl⟩ := means_record.1 h
  have hne {f : Field} (hf : f ∈ fields) : f.1 ≠ key := ne_of_mem_of_not_mem (mem_names hf) hunknown
  refine means_record.2 ⟨meaning, ⟨?_, ?_⟩, ?_⟩
  · intro m hm
    rcases List.mem_cons.1 hm with rfl | hm
    · exact ⟨key, hkey, meansMember_of_unknown hunknown _ _⟩
    · exact hmeans.value m hm
  · intro f hf
    rw [keys_cons, hkey, List.count_cons_of_ne (by simpa using (hne hf).symm)]
    exact hmeans.once f hf
  · have hmeaning : ∀ f ∈ fields, fieldMeaning meaning (front ++ behind) f
        = fieldMeaning meaning ((literal, v) :: (front ++ behind)) f := by
      intro f hf
      simp [fieldMeaning, hkey, hne hf]
    rw [mapM_congr hmeaning]

/-- The value of a member is exchanged for one that means the same. -/
theorem Means.member {literal : Literal} {key : String} {f : Field} {v w : Value}
    (hkey : literal.string? = some key) (hf : fields.find? (fun f => f.1 = key) = some f)
    (hvw : ∀ r, Means f.2.2 r v → Means f.2.2 r w)
    (h : Means (.record fields) r (.object (front ++ (literal, v) :: behind))) :
    Means (.record fields) r (.object (front ++ (literal, w) :: behind)) := by
  obtain ⟨meaning, hmeans, rfl⟩ := means_record.1 h
  have hkeys : keys (front ++ (literal, v) :: behind) = keys (front ++ (literal, w) :: behind) := by
    simp
  have hmeaning : fieldMeaning meaning (front ++ (literal, v) :: behind)
      = fieldMeaning meaning (front ++ (literal, w) :: behind) := by
    funext f
    rw [fieldMeaning, hkeys, fieldMeaning]
  refine means_record.2 ⟨meaning, ⟨?_, hkeys ▸ hmeans.once⟩, by rw [hmeaning]⟩
  intro m hm
  rcases List.mem_append.1 hm with hm | hm
  · exact hmeans.value m (List.mem_append_left _ hm)
  rcases List.mem_cons.1 hm with rfl | hm
  · obtain ⟨key', hkey', hv⟩ := hmeans.value (literal, v) (by simp)
    obtain rfl : key = key' := Option.some.inj (hkey.symm.trans hkey')
    exact ⟨key, hkey, (meansMember_of_find? hf _ _).2
      (hvw _ ((meansMember_of_find? hf _ _).1 hv))⟩
  · exact hmeans.value m (List.mem_append_right _ (List.mem_cons_of_mem _ hm))

end Members

/-- A value means the same in every way in which it may be written. -/
theorem Means.respells {shape : Shape} {v w : Value} (h : Respells shape v w) :
    ∀ r, Means shape r v → Means shape r w := by
  induction h with
  | refl => exact fun _ hv => hv
  | trans _ _ ihuv ihvw => exact fun r hu => ihvw r (ihuv r hu)
  | permute hperm => exact fun r hv => hv.permute hperm
  | insert v hkey hunknown => exact fun r hv => hv.insert v hkey hunknown
  | item _ ih =>
    intro r hv
    rw [Means] at hv ⊢
    obtain ⟨rs, hrs, rfl⟩ := hv
    exact ⟨rs, forall₂_replace ih hrs, rfl⟩
  | member hkey hf _ ih => exact fun r hv => hv.member hkey hf ih

/-! ## Objects of some of the fields -/

/-- The members of the fields that are given, in their order. -/
def members (entries : List (String × Option Value)) : List Member :=
  entries.flatMap fun e => e.2.toList.map fun v => (.ofString e.1, v)

section Entries

variable {name : String} {default r : Option Datum} {shape : Shape} {v : Value}
  {fields : List Field} {entries : List (String × Option Value)} {rs : List (Option Datum)}
  {meaning : String → Option Datum} {ms : List Member}

@[simp] theorem members_given :
    members ((name, some v) :: entries) = (.ofString name, v) :: members entries := rfl

@[simp] theorem members_missing : members ((name, none) :: entries) = members entries := rfl

/-- What the fields mean that are given or left out. -/
inductive Fits : List Field → List (String × Option Value) → List (Option Datum) → Prop
  | nil : Fits [] [] []
  | given {name : String} {default r : Option Datum} {shape : Shape} {v : Value}
      {fields : List Field} {entries : List (String × Option Value)} {rs : List (Option Datum)} :
      Means shape r v → Fits fields entries rs →
      Fits ((name, default, shape) :: fields) ((name, some v) :: entries) (r :: rs)
  | missing {name : String} {default : Option Datum} {shape : Shape}
      {fields : List Field} {entries : List (String × Option Value)} {rs : List (Option Datum)} :
      Fits fields entries rs →
      Fits ((name, default, shape) :: fields) ((name, none) :: entries) (default :: rs)

theorem Fits.mem_names (h : Fits fields entries rs) (hname : some name ∈ keys (members entries)) :
    name ∈ names fields := by
  induction h with
  | nil => cases hname
  | given _ _ ih =>
    rw [members_given, keys_cons, Literal.string?_ofString] at hname
    rcases List.mem_cons.1 hname with hhead | hname
    · exact List.mem_cons.2 (.inl (Option.some.inj hhead))
    · exact List.mem_cons_of_mem _ (ih hname)
  | missing _ ih => exact List.mem_cons_of_mem _ (ih hname)

/-- One more field of another name, which none of the members is for. -/
theorem MeansFields.missing (default : Option Datum) (shape : Shape)
    (h : MeansFields fields meaning ms) (hfresh : some name ∉ keys ms) :
    MeansFields ((name, default, shape) :: fields) meaning ms where
  value m hm := by
    obtain ⟨key, hkey, hmeans⟩ := h.value m hm
    have hne : key ≠ name := by
      rintro rfl
      exact hfresh (mem_keys hm hkey)
    exact ⟨key, hkey, by rwa [MeansMember, if_neg hne.symm]⟩
  once f hf := by
    rcases List.mem_cons.1 hf with rfl | hf
    · rw [List.count_eq_zero.2 hfresh]
      exact Nat.zero_le 1
    · exact h.once f hf

/-- One more field of another name, with a member for it. -/
theorem MeansFields.given (h : MeansFields fields meaning ms) (hfresh : some name ∉ keys ms)
    (hname : name ∉ names fields) (hv : Means shape r v) :
    MeansFields ((name, default, shape) :: fields) (Function.update meaning name r)
      ((.ofString name, v) :: ms) where
  value m hm := by
    rcases List.mem_cons.1 hm with rfl | hm
    · refine ⟨name, Literal.string?_ofString name, ?_⟩
      rwa [MeansMember, if_pos rfl, Function.update_self]
    · obtain ⟨key, hkey, hmeans⟩ := (h.missing default shape hfresh).value m hm
      have hne : key ≠ name := fun heq => hfresh (heq ▸ mem_keys hm hkey)
      exact ⟨key, hkey, by rwa [Function.update_of_ne hne]⟩
  once f hf := by
    rw [keys_cons, Literal.string?_ofString]
    rcases List.mem_cons.1 hf with rfl | hf
    · rw [List.count_cons_self, List.count_eq_zero.2 hfresh]
    · have hne : f.1 ≠ name := ne_of_mem_of_not_mem (mem_names hf) hname
      rw [List.count_cons_of_ne (by simpa using hne.symm)]
      exact h.once f hf

/-- An object means what its fields mean, if no two have the same name. -/
theorem means_object (h : Fits fields entries rs) (hnames : (names fields).Nodup) :
    Means (.record fields) ((rs.mapM id).map .record) (.object (members entries)) := by
  have hparts : ∃ meaning, MeansFields fields meaning (members entries)
      ∧ rs.mapM id = fields.mapM (fieldMeaning meaning (members entries)) := by
    induction h with
    | nil => exact ⟨fun _ => none, ⟨fun m hm => (nomatch hm), fun f hf => (nomatch hf)⟩, rfl⟩
    | @given name default r shape v fields entries rs hv hfits ih =>
      rw [names, List.map_cons, List.nodup_cons] at hnames
      obtain ⟨meaning, hmeans, hrs⟩ := ih hnames.2
      have hfresh : some name ∉ keys (members entries) := fun h => hnames.1 (hfits.mem_names h)
      have htail : ∀ f ∈ fields, fieldMeaning meaning (members entries) f
          = fieldMeaning (Function.update meaning name r)
              (members ((name, some v) :: entries)) f := by
        intro f hf
        have hne : f.1 ≠ name := ne_of_mem_of_not_mem (mem_names hf) hnames.1
        simp [fieldMeaning, hne]
      refine ⟨Function.update meaning name r, hmeans.given hfresh hnames.1 hv, ?_⟩
      rw [List.mapM_cons, List.mapM_cons, hrs, mapM_congr htail]
      simp [fieldMeaning]
    | @missing name default shape fields entries rs hfits ih =>
      rw [names, List.map_cons, List.nodup_cons] at hnames
      obtain ⟨meaning, hmeans, hrs⟩ := ih hnames.2
      have hfresh : some name ∉ keys (members entries) := fun h => hnames.1 (hfits.mem_names h)
      refine ⟨meaning, hmeans.missing default shape hfresh, ?_⟩
      rw [members_missing, List.mapM_cons, List.mapM_cons, hrs]
      simp [fieldMeaning, hfresh]
  obtain ⟨meaning, hmeans, hrs⟩ := hparts
  exact means_record.2 ⟨meaning, hmeans, by rw [hrs]⟩

end Entries

end FluxCorpus.Json
