import FluxCorpus.Url.Parse
import Mathlib.Data.List.Basic
import Mathlib.Data.List.TakeDrop
import Mathlib.Data.List.TakeWhile

/-!
# A path behind the text of a URL

The address of a server is a text, and the URL of something on it is read from this text with a path
behind it.  If the path consists of letters, digits and slashes only, the URL has the very same path
behind what its text begins with, whatever the address is like: with a path of its own, with dots in
it, with a query or with a fragment.

* `cut_append`, `scheme?_append`, `ofAuthority_append` — how the steps of reading a URL meet a text
  that goes on.
* `resolve_append`, `resolve_plain` — the dots of an address do not reach the path behind it.
* `parse_append` — **the URL that is read ends in this path.**
-/

namespace FluxCorpus.Url

open Text

/-! ## Texts that go on -/

variable {p : Char → Bool} {w t : List Char}

/-- A text that does not go on with the characters of a class is cut where it was before. -/
theorem span_append (ht : ∀ c ∈ t.head?, p c = false) :
    (w ++ t).span p = (w.takeWhile p, w.dropWhile p ++ t) := by
  rw [List.span_eq_takeWhile_dropWhile]
  induction w with
  | nil =>
    cases t with
    | nil => rfl
    | cons c t => simp [ht c rfl]
  | cons a w ih =>
    obtain ⟨htake, hdrop⟩ := Prod.ext_iff.1 ih
    by_cases ha : p a <;> simp_all

/-- The text before the first separator ends where it did, or goes on itself. -/
theorem cut_append {s : Char} (ht : s ∉ t) :
    cut s (w ++ t) = match cut s w with
      | (a, none) => (a ++ t, none)
      | (a, some b) => (a, some (b ++ t)) := by
  have hcut : cut s t = (t, none) := by
    induction t with
    | nil => rfl
    | cons c t ih =>
      rw [List.mem_cons, not_or] at ht
      rw [cut, if_neg (fun h => ht.1 h.symm), ih ht.2]
  induction w with
  | nil => rw [List.nil_append, hcut]; rfl
  | cons c w ih =>
    by_cases hc : c = s
    · simp [cut, hc]
    · simp only [List.cons_append, cut, if_neg hc, ih]
      cases cut s w with
      | mk a b => cases b <;> rfl

/-- A text without the separator is not cut. -/
theorem eq_of_cut_none {s : Char} {a : List Char} (h : cut s w = (a, none)) : a = w := by
  induction w generalizing a with
  | nil => cases h; rfl
  | cons c w ih =>
    by_cases hc : c = s
    · simp [cut, hc] at h
    · rw [cut, if_neg hc] at h
      obtain ⟨rfl, hnone⟩ := Prod.mk.inj h
      exact congrArg (c :: ·) (ih (Prod.ext rfl hnone))

/-- Nothing is trimmed at the end of a text that does not end in a blank. -/
theorem trim_eq_dropWhile (h : ∀ c ∈ (w.dropWhile p).getLast?, p c = false) :
    trim p w = w.dropWhile p := by
  have hrev : (w.dropWhile p).reverse.dropWhile p = (w.dropWhile p).reverse := by
    rw [← List.head?_reverse] at h
    cases hcs : (w.dropWhile p).reverse with
    | nil => rfl
    | cons c cs => rw [List.dropWhile_cons, if_neg (by simp [h c (by rw [hcs]; rfl)])]
  rw [trim, hrev, List.reverse_reverse]

/-- The characters of a text that count, if nothing is to be trimmed at its end. -/
def started (w : List Char) : List Char :=
  (w.dropWhile (· ≤ ' ')).filter fun c => c ≠ '\t' ∧ c ≠ '\n' ∧ c ≠ '\r'

/-- What stands behind a text counts, if it is not blank. -/
theorem significant_append (hw : ∃ c ∈ w, ' ' < c) (ht : ∀ c ∈ t, ' ' < c)
    (hend : t = [] → ∀ c ∈ w.getLast?, ' ' < c) : significant (w ++ t) = started w ++ t := by
  have hblack : ∀ c : Char, ' ' < c → decide (c ≤ ' ') = false := by
    intro c hc
    simpa [Char.not_le] using hc
  have hne : w.dropWhile (· ≤ ' ') ≠ [] := by
    rw [ne_eq, List.dropWhile_eq_nil_iff]
    intro hall
    obtain ⟨c, hc, hlt⟩ := hw
    exact absurd (hall c hc) (by rw [hblack c hlt]; exact Bool.false_ne_true)
  have hdrop : (w ++ t).dropWhile (· ≤ ' ') = w.dropWhile (· ≤ ' ') ++ t := by
    rw [List.dropWhile_append, if_neg (by simpa using hne)]
  have htrim : trim (· ≤ ' ') (w ++ t) = w.dropWhile (· ≤ ' ') ++ t := by
    rw [trim_eq_dropWhile, hdrop]
    rw [hdrop]
    intro c hc
    refine hblack c ?_
    cases t with
    | nil =>
      rw [List.append_nil, ← List.getLast?_append_of_ne_nil (w.takeWhile (· ≤ ' ')) hne,
        List.takeWhile_append_dropWhile] at hc
      exact hend rfl c hc
    | cons d t =>
      rw [List.getLast?_append_of_ne_nil _ (List.cons_ne_nil d t)] at hc
      exact ht c (List.mem_of_getLast? hc)
  have hkept : t.filter (fun c => c ≠ '\t' ∧ c ≠ '\n' ∧ c ≠ '\r') = t := by
    rw [List.filter_eq_self]
    intro c hc
    have hlt := ht c hc
    refine decide_eq_true ⟨?_, ?_, ?_⟩ <;> rintro rfl <;> exact absurd hlt (by decide)
  rw [significant, htrim, List.filter_append, hkept, started]

/-! ## The scheme and the authority -/

/-- The scheme of a text is not affected by a path behind it. -/
theorem scheme?_append (ht : ∀ c ∈ t.head?, c = '/') :
    scheme? (w ++ t) = (scheme? w).map fun (s, rest) => (s, rest ++ t) := by
  have hw : w.span isSchemeChar = (w.takeWhile isSchemeChar, w.dropWhile isSchemeChar) :=
    List.span_eq_takeWhile_dropWhile _ _
  rw [scheme?, scheme?, hw, span_append (by rintro c hc; rw [ht c hc]; decide)]
  cases w.takeWhile isSchemeChar with
  | nil => rfl
  | cons c name =>
    cases w.dropWhile isSchemeChar with
    | nil =>
      cases t with
      | nil => rfl
      | cons d t => rw [ht d rfl]; rfl
    | cons d rest =>
      by_cases hd : d = ':'
      · subst hd
        by_cases hc : c.isAlpha <;> simp [hc]
      · simp [hd]

/-- A host on the internet has a name that is not empty, or is an address. -/
theorem domain_ne_empty {cs : List Char} {h : Host} (hh : Host.domain cs = .ok h) :
    h ≠ .name "" := by
  rintro rfl
  unfold Host.domain at hh
  split at hh
  · unfold Host.bracketed at hh
    split at hh
    · split at hh <;> cases hh
    · cases hh
  · split at hh
    · split at hh
      · next labels _ =>
        dsimp only at hh
        split_ifs at hh with hempty
        · split at hh <;> cases hh
        · have hname := Host.name.inj (Except.ok.inj hh)
          exact hempty (by simpa using congrArg String.toList hname)
      · cases hh
    · cases hh

/-- The text of a port is a part of the authority. -/
theorem mem_of_mem_cutPort {b : Bool} {cs port : List Char} (h : (cutPort b cs).2 = some port) :
    ∀ c ∈ port, c ∈ cs := by
  induction cs generalizing b with
  | nil => cases h
  | cons a cs ih =>
    rw [cutPort] at h
    split at h
    · cases h
      exact fun c hc => List.mem_cons_of_mem _ hc
    · intro c hc
      exact List.mem_cons_of_mem _ (ih h c hc)

/-- The host and its port are a part of the authority. -/
theorem mem_of_mem_cutCredentials {cs : List Char} :
    ∀ c ∈ (cutCredentials cs).2, c ∈ cs := by
  intro c hc
  rw [cutCredentials, List.span_eq_takeWhile_dropWhile] at hc
  split at hc
  · next host before heq =>
    have hhost := congrArg Prod.fst heq
    dsimp only at hhost hc
    rw [← hhost, List.mem_reverse] at hc
    exact List.mem_reverse.1 (List.takeWhile_subset _ hc)
  · exact hc

/-- A port without a backslash is read to its end. -/
theorem readPort_end {usual port : Option Nat} {cs rest : List Char} (hcs : '\\' ∉ cs)
    (h : readPort usual cs = .ok (port, rest)) : rest = [] := by
  have hspan : cs.span (· ≠ '\\') = (cs, []) := by
    have hall : ∀ c ∈ cs, decide (c ≠ '\\') = true := by
      rintro c hc
      exact decide_eq_true fun heq => hcs (heq ▸ hc)
    rw [List.span_eq_takeWhile_dropWhile, List.takeWhile_eq_self_iff.2 hall,
      List.dropWhile_eq_nil_iff.2 hall]
  rw [readPort, hspan] at h
  dsimp only at h
  split at h
  · cases h
    rfl
  · split at h <;> cases h
    rfl

/-- An authority is cut at the first slash. -/
theorem span_authority (hw : ∀ c ∈ w, isSlash true c = false)
    (ht : ∀ c ∈ t.head?, isSlash true c = true) :
    (w ++ t).span (fun c => !isSlash true c) = (w, t) := by
  have hnot : ∀ c ∈ w, (!isSlash true c) = true := fun c hc => by rw [hw c hc]; rfl
  rw [span_append fun c hc => by rw [ht c hc]; rfl, List.takeWhile_eq_self_iff.2 hnot,
    List.dropWhile_eq_nil_iff.2 hnot, List.nil_append]

/-- The path behind an authority is read for itself, and the authority without it. -/
theorem ofAuthority_append {scheme : String} {more : Bool} (hw : ∀ c ∈ w, isSlash true c = false)
    (ht : ∀ c ∈ t.head?, isSlash true c = true) : ofAuthority scheme true more (w ++ t) =
      (ofAuthority scheme true false w).map fun u => { u with path := pathOf true t } := by
  have hspan := span_authority hw ht
  have hspan' : w.span (fun c => !isSlash true c) = (w, []) := by
    have hnil := span_authority (t := []) hw fun c hc => by cases hc
    rwa [List.append_nil] at hnil
  unfold ofAuthority
  rw [hspan, hspan']
  dsimp only
  have hback : '\\' ∉ w := fun hmem => absurd (hw _ hmem) (by decide)
  have hcred : ∀ c ∈ (cutCredentials w).2, c ∈ w := mem_of_mem_cutCredentials
  cases hcut : cutCredentials w with
  | mk before hostPort =>
  rw [hcut] at hcred
  have hempty : hostPort = [] → (cutPort false hostPort).1 = [] := by
    rintro rfl
    rfl
  have hport : ∀ {port}, (cutPort false hostPort).2 = some port → ∀ c ∈ port, c ∈ hostPort :=
    mem_of_mem_cutPort
  cases hcut' : cutPort false hostPort with
  | mk hostText portText =>
  rw [hcut'] at hport hempty
  dsimp only at hport hempty hcred ⊢
  by_cases hhost : hostText = []
  · subst hhost
    simp only [List.isEmpty_nil, Bool.true_or, Bool.and_self, if_true]
    split_ifs <;> rfl
  · have hhostPort : hostPort.isEmpty = false := by
      rw [List.isEmpty_eq_false_iff]
      exact fun hnil => hhost (hempty hnil)
    have hhostText : hostText.isEmpty = false := by simpa using hhost
    simp only [hhostPort, hhostText, Bool.and_false, Bool.false_and, Bool.false_eq_true, if_false,
      if_true]
    cases Host.domain hostText with
    | error e => rfl
    | ok host =>
      have hback' : '\\' ∉ portText.getD [] := by
        cases portText with
        | none => simp
        | some port => exact fun hmem => hback (hcred _ (hport rfl _ hmem))
      cases hread : readPort (usualPort? scheme) (portText.getD []) with
      | error e =>
        rfl
      | ok r =>
        obtain ⟨port, rest⟩ := r
        have hrest := readPort_end hback' hread
        subst hrest
        rfl

/-! ## The segments of a path -/

/-- The segments that are left of some, the last one first, if others follow. -/
def walk (done : List (List Char)) : List (List Char) → List (List Char)
  | [] => done
  | s :: rest =>
    if isUp s then walk (leave done) rest
    else if isHere s then walk done rest
    else walk (s :: done) rest

/-- Dots are resolved up to any segment that is not the last. -/
theorem resolve_append {xs ys : List (List Char)} (hys : ys ≠ []) (done : List (List Char)) :
    resolve id done (xs ++ ys) = resolve id (walk done xs) ys := by
  induction xs generalizing done with
  | nil => rfl
  | cons x xs ih =>
    have hlast : (xs ++ ys).isEmpty = false := by simp [hys]
    rw [List.cons_append, resolve, walk]
    by_cases hup : isUp x
    · simp [hup, hlast, ih]
    · by_cases hhere : isHere x
      · simp [hup, hhere, hlast, ih]
      · simp [hup, hhere, ih]

/-- Segments without dots stay as they are. -/
theorem resolve_plain {ys : List (List Char)} (hys : ∀ y ∈ ys, isUp y = false ∧ isHere y = false)
    (done : List (List Char)) : resolve id done ys = done.reverse ++ ys := by
  induction ys generalizing done with
  | nil => simp [resolve]
  | cons y ys ih =>
    obtain ⟨hup, hhere⟩ := hys y (List.mem_cons_self ..)
    rw [resolve]
    simp [hup, hhere, ih fun y hy => hys y (List.mem_cons_of_mem _ hy)]

/-- At the end dots leave an empty segment. -/
theorem resolve_eq_walk {xs : List (List Char)} (hxs : xs ≠ []) (done : List (List Char)) :
    resolve id done xs = (walk done xs).reverse
      ∨ resolve id done xs = (walk done xs).reverse ++ [[]] := by
  induction xs generalizing done with
  | nil => exact absurd rfl hxs
  | cons x xs ih =>
    rw [resolve, walk]
    cases xs with
    | nil =>
      by_cases hup : isUp x
      · simp [hup, resolve, walk]
      · by_cases hhere : isHere x <;> simp [hup, hhere, resolve, walk]
    | cons y ys =>
      by_cases hup : isUp x
      · simpa [hup] using ih (List.cons_ne_nil y ys) (leave done)
      · by_cases hhere : isHere x
        · simpa [hup, hhere] using ih (List.cons_ne_nil y ys) done
        · simpa [hup, hhere] using ih (List.cons_ne_nil y ys) (x :: done)

/-- The pieces on both sides of a separator are the pieces of the whole. -/
theorem pieces_append_cons {c : Char} (hc : p c = true) :
    pieces p (w ++ c :: t) = pieces p w ++ pieces p t := by
  induction w with
  | nil => simp [pieces, hc]
  | cons a w ih =>
    rw [List.cons_append, pieces, pieces, ih]
    split
    · rfl
    · cases hpieces : pieces p w with
      | nil => exact absurd hpieces (pieces_ne_nil p w)
      | cons q qs => rfl

/-! ## Plain paths -/

/-- A letter, a digit or a slash. -/
def IsPlain (c : Char) : Prop := c.isAlphanum = true ∨ c = '/'

instance : DecidablePred IsPlain := fun _ => inferInstanceAs (Decidable (_ ∨ _))

theorem isPlain_of_all {cs : List Char} (h : (cs.all fun c => IsPlain c) = true) :
    ∀ c ∈ cs, IsPlain c := fun c hc => of_decide_eq_true (List.all_eq_true.1 h c hc)

/-- Segments as they are written. -/
def written (ss : List (List Char)) : List Char :=
  ss.flatMap fun s => '/' :: Percent.encode isPathChar s

theorem text_segments (ss : List (List Char)) :
    (UrlPath.segments (ss.map (encoded isPathChar))).text = String.ofList (written ss) := by
  apply String.toList_injective
  induction ss with
  | nil => rfl
  | cons s ss ih => simpa [UrlPath.text, String.join_cons, written, encoded] using ih

/-- What holds of the letters and digits of ASCII can be checked one by one. -/
theorem of_isAlphanum {f : Char → Bool} {c : Char} (hc : c.isAlphanum = true)
    (hf : ∀ n : Fin 128, (Char.ofNat n).isAlphanum = true → f (Char.ofNat n) = true) :
    f c = true := by
  have hlt : c.toNat < 128 := by
    have hle (d : Char) (hd : d.toNat < 128) (h : c.val ≤ d.val) : c.toNat < 128 :=
      lt_of_le_of_lt (UInt32.le_iff_toNat_le.1 h) hd
    have hkind : ((c.isUpper || c.isLower) || c.isDigit) = true := hc
    rw [Bool.or_eq_true, Bool.or_eq_true] at hkind
    rcases hkind with (hupper | hlower) | hdigit
    · exact hle 'Z' (by decide) (of_decide_eq_true hupper).2
    · exact hle 'z' (by decide) (of_decide_eq_true (Bool.and_eq_true_iff.1 hlower).2)
    · exact hle '9' (by decide) (of_decide_eq_true (Bool.and_eq_true_iff.1 hdigit).2)
  have h := hf ⟨c.toNat, hlt⟩
  rw [Char.ofNat_toNat] at h
  exact h hc

theorem alphanum_toLower {c : Char} (hc : c.isAlphanum = true) :
    c.toLower ≠ '.' ∧ c.toLower ≠ '%' := by
  have h := of_isAlphanum (f := fun c => decide (c.toLower ≠ '.' ∧ c.toLower ≠ '%')) hc (by decide)
  exact of_decide_eq_true h

/-- A segment of plain characters has no dots that could be resolved. -/
theorem not_isUp_of_plain {y : List Char} (hy : ∀ c ∈ y, c.isAlphanum = true) :
    isUp y = false ∧ isHere y = false := by
  have hfree : ∀ s : String, '.' ∈ s.toList ∨ '%' ∈ s.toList →
      String.ofList (y.map Char.toLower) ≠ s := by
    rintro s hs rfl
    rw [String.toList_ofList] at hs
    rcases hs with hs | hs <;>
    · obtain ⟨c, hc, hlower⟩ := List.mem_map.1 hs
      simp [alphanum_toLower (hy c hc)] at hlower
  constructor
  · simp [isUp, hfree]
  · simp [isHere, hfree]

theorem encode_append (plain : Char → Bool) (xs ys : List Char) :
    Percent.encode plain (xs ++ ys) = Percent.encode plain xs ++ Percent.encode plain ys :=
  List.flatMap_append

theorem encode_plain {plain : Char → Bool} {y : List Char} (hy : ∀ c ∈ y, plain c = true) :
    Percent.encode plain y = y := by
  induction y with
  | nil => rfl
  | cons c y ih =>
    rw [Percent.encode, List.flatMap_cons, if_pos (hy c (List.mem_cons_self ..))]
    exact congrArg (c :: ·) (ih fun c hc => hy c (List.mem_cons_of_mem _ hc))

theorem not_isSlash {c : Char} (hc : c.isAlphanum = true) : isSlash true c = false := by
  have h := of_isAlphanum (f := fun c => !isSlash true c) hc (by decide)
  simpa using h

theorem plain_pieces (ht : ∀ c ∈ t, IsPlain c) :
    ∀ y ∈ pieces (isSlash true) t, ∀ c ∈ y, c.isAlphanum = true := by
  induction t with
  | nil => simp [pieces]
  | cons a t ih =>
    have ih := ih fun c hc => ht c (List.mem_cons_of_mem _ hc)
    rw [pieces]
    rcases ht a (List.mem_cons_self ..) with ha | rfl
    · rw [not_isSlash ha, if_neg Bool.false_ne_true]
      cases hpieces : pieces (isSlash true) t with
      | nil => exact absurd hpieces (pieces_ne_nil _ t)
      | cons q qs =>
        rw [hpieces] at ih
        simp only [List.mem_cons, forall_eq_or_imp] at ih ⊢
        exact ⟨⟨ha, ih.1⟩, ih.2⟩
    · rw [if_pos (by rfl)]
      simpa using ih

/-- A plain path is written as it is. -/
theorem written_pieces (ht : ∀ c ∈ t, IsPlain c) :
    written (pieces (isSlash true) t) = '/' :: t := by
  induction t with
  | nil => rfl
  | cons a t ih =>
    have ih := ih fun c hc => ht c (List.mem_cons_of_mem _ hc)
    rw [pieces]
    rcases ht a (List.mem_cons_self ..) with ha | rfl
    · have hpath : isPathChar a = true := of_isAlphanum ha (by decide)
      rw [not_isSlash ha, if_neg Bool.false_ne_true]
      cases hpieces : pieces (isSlash true) t with
      | nil => exact absurd hpieces (pieces_ne_nil _ t)
      | cons q qs =>
        rw [hpieces] at ih
        have htail := List.cons.inj ih
        simp only [written, List.flatMap_cons, List.cons_append] at htail ⊢
        rw [Percent.encode, List.flatMap_cons, if_pos hpath]
        exact congrArg ('/' :: a :: ·) htail.2
    · rw [if_pos (by rfl), written, List.flatMap_cons]
      exact congrArg ('/' :: ·) ih
theorem written_append (xs ys : List (List Char)) :
    written (xs ++ ys) = written xs ++ written ys :=
  List.flatMap_append

/-- What is left of the beginning of a path, if the path goes on. -/
def beginning : List Char → List Char
  | [] => []
  | _ :: cs => written (walk [] (pieces (isSlash true) cs)).reverse

/-- A path that goes on with a plain path ends in it. -/
theorem text_pathOf_append (ht : ∀ c ∈ t, IsPlain c) :
    (pathOf true (w ++ '/' :: t)).text = String.ofList (beginning w ++ '/' :: t) := by
  have hplain : ∀ y ∈ pieces (isSlash true) t, isUp y = false ∧ isHere y = false :=
    fun y hy => not_isUp_of_plain (plain_pieces ht y hy)
  cases w with
  | nil =>
    change (segments true t).text = _
    rw [segments, text_segments, resolve_plain hplain, List.reverse_nil, List.nil_append,
      written_pieces ht]
    rfl
  | cons c w =>
    change (segments true (w ++ '/' :: t)).text = _
    rw [segments, text_segments, pieces_append_cons (by rfl), resolve_append (pieces_ne_nil _ t),
      resolve_plain hplain, written_append, written_pieces ht]
    rfl

/-- A path that ends here is this beginning, or has a slash behind it. -/
theorem text_pathOf (w : List Char) : (pathOf true w).text = String.ofList (beginning w)
    ∨ (pathOf true w).text = String.ofList (beginning w ++ ['/']) := by
  cases w with
  | nil => exact .inr rfl
  | cons c w =>
    change (segments true w).text = _ ∨ (segments true w).text = _
    rw [segments, text_segments]
    rcases resolve_eq_walk (pieces_ne_nil (isSlash true) w) [] with h | h <;> rw [h]
    · exact .inl rfl
    · rw [written_append]
      exact .inr rfl

/-! ## What is read -/

/-- A sequence succeeds if both of its parts do. -/
theorem bind_ok {ε α β : Type} {x : Except ε α} {f : α → Except ε β} {b : β} :
    (x >>= f) = .ok b ↔ ∃ a, x = .ok a ∧ f a = .ok b := by
  cases x with
  | error e => exact ⟨nofun, fun ⟨_, h, _⟩ => nomatch h⟩
  | ok a => exact ⟨fun h => ⟨a, rfl, h⟩, fun ⟨_, ha, h⟩ => Except.ok.inj ha ▸ h⟩

/-- A URL with a host on the internet is of the scheme that it was read for, and its host has a
name. -/
theorem ofAuthority_ok {scheme : String} {internet more : Bool} {u : Url}
    (h : ofAuthority scheme internet more w = .ok u) : u.scheme = scheme ∧ u.query = none
      ∧ u.fragment = none ∧ (internet = true → ∃ host, u.host = some host ∧ host ≠ .name "") := by
  unfold ofAuthority at h
  dsimp only at h
  split at h
  · cases h
  split at h
  · cases h
  split at h
  · obtain ⟨host, hhost, h⟩ := bind_ok.1 h
    obtain ⟨port, -, h⟩ := bind_ok.1 h
    cases h
    exact ⟨rfl, rfl, rfl, fun _ => ⟨host, rfl, domain_ne_empty hhost⟩⟩
  · next hother =>
    obtain ⟨host, -, h⟩ := bind_ok.1 h
    obtain ⟨port, -, h⟩ := bind_ok.1 h
    cases h
    exact ⟨rfl, rfl, rfl, fun hinternet => absurd hinternet hother⟩

theorem ofFile_scheme {u : Url} (h : ofFile w = .ok u) : u.scheme = "file" := by
  unfold ofFile at h
  dsimp only at h
  split at h
  · split_ifs at h
    · cases h
      rfl
    · obtain ⟨host, -, h⟩ := bind_ok.1 h
      split_ifs at h <;> cases h <;> rfl
    · obtain ⟨host, -, h⟩ := bind_ok.1 h
      split_ifs at h <;> cases h <;> rfl
  · cases h
    rfl

theorem ofParts_scheme {scheme : String} {more : Bool} {u : Url}
    (h : ofParts scheme more w = .ok u) : u.scheme = scheme := by
  unfold ofParts at h
  split_ifs at h with hfile hport
  · rw [ofFile_scheme h, hfile]
  · exact (ofAuthority_ok h).1
  · split at h
    · exact (ofAuthority_ok h).1
    · cases h
      rfl
    · cases h
      rfl
/-- Reads a URL whose query and fragment have been cut off. -/
def ofCut (cs : List Char) (query fragment : Option (List Char)) : Except UrlProblem Url := do
  let some (scheme, rest) := scheme? cs | throw .relative
  let internet := (usualPort? scheme).isSome || scheme = "file"
  let u ← ofParts scheme (query.isSome || fragment.isSome) rest
  return { u with
    query := query.map (encoded (isQueryChar internet))
    fragment := fragment.map (encoded isFragmentChar) }

/-- Reads a URL of characters that all count. -/
def ofSignificant (w : List Char) : Except UrlProblem Url :=
  ofCut (cut '?' (cut '#' w).1).1 (cut '?' (cut '#' w).1).2 (cut '#' w).2

theorem parse_eq (w : List Char) : parse (String.ofList w) = ofSignificant (significant w) := by
  rw [parse, String.toList_ofList]
  rfl

/-- The schemes that are spoken with a server of buckets. -/
def IsHttp (scheme : String) : Prop := scheme = "http" ∨ scheme = "https"

theorem ofParts_of_isHttp {scheme : String} (hs : IsHttp scheme) (more : Bool)
    (rest : List Char) : ofParts scheme more rest
      = ofAuthority scheme true more (rest.dropWhile (isSlash true)) := by
  rcases hs with rfl | rfl <;> rfl

theorem isInternet_of_isHttp {scheme : String} (hs : IsHttp scheme) :
    ((usualPort? scheme).isSome || scheme = "file") = true := by
  rcases hs with rfl | rfl <;> rfl

variable {cs rest : List Char} {query fragment : Option (List Char)} {u u₀ : Url}

/-- A URL of such a scheme is read from a scheme and an authority. -/
theorem ofCut_of_parts (hs : IsHttp u₀.scheme) (hscheme : scheme? cs = some (u₀.scheme, rest))
    (hu₀ : ofAuthority u₀.scheme true (query.isSome || fragment.isSome)
      (rest.dropWhile (isSlash true)) = .ok u₀) :
    ofCut cs query fragment = .ok { u₀ with
      query := query.map (encoded (isQueryChar true))
      fragment := fragment.map (encoded isFragmentChar) } := by
  rw [ofCut, hscheme]
  dsimp only
  rw [ofParts_of_isHttp hs, isInternet_of_isHttp hs, hu₀]
  rfl

theorem parts_of_ofCut (hs : IsHttp u.scheme) (h : ofCut cs query fragment = .ok u) :
    ∃ rest u₀, scheme? cs = some (u₀.scheme, rest)
      ∧ ofAuthority u₀.scheme true (query.isSome || fragment.isSome)
        (rest.dropWhile (isSlash true)) = .ok u₀
      ∧ u = { u₀ with
        query := query.map (encoded (isQueryChar true))
        fragment := fragment.map (encoded isFragmentChar) } := by
  rw [ofCut] at h
  split at h
  · next scheme rest hscheme =>
    obtain ⟨u₀, hu₀, h⟩ := bind_ok.1 h
    obtain rfl := ofParts_scheme hu₀
    have hu := Except.ok.inj h
    have hs₀ : IsHttp u₀.scheme := by
      rw [← hu] at hs
      exact hs
    rw [isInternet_of_isHttp hs₀] at hu
    rw [ofParts_of_isHttp hs₀] at hu₀
    exact ⟨rest, u₀, hscheme, hu₀, hu.symm⟩
  · cases h

/-! ## Longer URLs -/

/-- A path of letters, digits and slashes, or no path. -/
structure IsSuffix (x : List Char) : Prop where
  plain : ∀ c ∈ x, IsPlain c
  slash : ∀ c ∈ x.head?, c = '/'

theorem isSuffix_slashes {s : List Char} (hs : ∀ c ∈ s, c = '/') : IsSuffix s :=
  ⟨fun c hc => .inr (hs c hc), fun c hc => hs c (List.mem_of_mem_head? hc)⟩

theorem IsPlain.all {f : Char → Bool} {c : Char} (hc : IsPlain c)
    (hf : ∀ n : Fin 128, (Char.ofNat n).isAlphanum = true → f (Char.ofNat n) = true)
    (hslash : f '/' = true) : f c = true := by
  rcases hc with hc | rfl
  · exact of_isAlphanum hc hf
  · exact hslash

/-- A text whose URL goes on with whatever path is written behind it: there is a site such that the
URL of the longer text is the site with the path, or with a slash if there is no path. -/
def GoesOn (w : List Char) (scheme : String) : Prop :=
  ∃ site : List Char, ∀ x, IsSuffix x → ∃ u, ofSignificant (w ++ x) = .ok u ∧ u.scheme = scheme
    ∧ u.hasHost = true ∧ (u.withoutCredentials.text = String.ofList (site ++ x)
      ∨ x = [] ∧ u.withoutCredentials.text = String.ofList (site ++ ['/']))

/-- The text of a URL with a host, up to its path. -/
def front (u : Url) (host : Host) : String :=
  u.scheme ++ "://" ++ String.ofList host.chars ++ u.port.elim "" fun p => ":" ++ Decimal.text p

theorem text_withoutCredentials {u : Url} {host : Host} (h : u.host = some host) :
    u.withoutCredentials.text = u.front host ++ u.path.text ++ (u.query.elim "" fun q => "?" ++ q)
      ++ u.fragment.elim "" fun f => "#" ++ f := by
  have hauthority : u.withoutCredentials.authority
      = "//" ++ String.ofList host.chars ++ u.port.elim "" fun p => ":" ++ Decimal.text p := by
    rw [authority, withoutCredentials]
    simp only [h, credentials]
    rfl
  rw [text, hauthority]
  simp only [front, target, withoutCredentials, String.append_assoc]
  rfl

theorem hasHost_of_ne {u : Url} {host : Host} (h : u.host = some host) (hne : host ≠ .name "") :
    u.hasHost = true := by
  rw [hasHost, h]
  exact decide_eq_true hne

namespace IsSuffix

variable {x : List Char}

theorem not_mem (hx : IsSuffix x) {s : Char} (hs : ¬ IsPlain s) : s ∉ x :=
  fun hmem => hs (hx.plain s hmem)

/-- What stands for itself in a path stands for itself in a query and in a fragment. -/
theorem encoded_fragment (hx : IsSuffix x) (f : List Char) :
    (encoded isFragmentChar (f ++ x)).toList = Percent.encode isFragmentChar f ++ x := by
  have hplain : ∀ c ∈ x, isFragmentChar c = true := fun c hc =>
    (hx.plain c hc).all (by decide) (by decide)
  rw [encoded, encode_append, encode_plain hplain, String.toList_ofList]

theorem encoded_query (hx : IsSuffix x) (q : List Char) :
    (encoded (isQueryChar true) (q ++ x)).toList = Percent.encode (isQueryChar true) q ++ x := by
  have hplain : ∀ c ∈ x, isQueryChar true c = true := fun c hc =>
    (hx.plain c hc).all (by decide) (by decide)
  rw [encoded, encode_append, encode_plain hplain, String.toList_ofList]

end IsSuffix

theorem not_isPlain_hash : ¬ IsPlain '#' := by decide

theorem not_isPlain_question : ¬ IsPlain '?' := by decide

/-- A fragment goes on. -/
theorem goesOn_of_fragment {w a f s : List Char} {b : Url} (hw : cut '#' w = (a, some f))
    (hs : IsSuffix s) (hb : ofSignificant (w ++ s) = .ok b) (hhttp : IsHttp b.scheme) :
    GoesOn w b.scheme := by
  have hread : ∀ x, IsSuffix x → ofSignificant (w ++ x)
      = ofCut (cut '?' a).1 (cut '?' a).2 (some (f ++ x)) := by
    intro x hx
    rw [ofSignificant, cut_append (hx.not_mem not_isPlain_hash), hw]
  rw [hread s hs] at hb
  obtain ⟨rest, u₀, hscheme, hu₀, rfl⟩ := parts_of_ofCut hhttp hb
  obtain ⟨-, -, -, hhost⟩ := ofAuthority_ok hu₀
  obtain ⟨host, hhost, hne⟩ := hhost rfl
  let query := (cut '?' a).2.map (encoded (isQueryChar true))
  refine ⟨(u₀.front host ++ u₀.path.text ++ (query.elim "" fun q => "?" ++ q)).toList
    ++ '#' :: Percent.encode isFragmentChar f, fun x hx => ?_⟩
  let u : Url := { u₀ with query := query, fragment := some (encoded isFragmentChar (f ++ x)) }
  have hu : u.host = some host := hhost
  refine ⟨u, ?_, rfl, hasHost_of_ne hu hne, .inl ?_⟩
  · rw [hread x hx]
    exact ofCut_of_parts hhttp hscheme hu₀
  · apply String.toList_injective
    rw [text_withoutCredentials hu]
    simp [u, query, front, hx.encoded_fragment]

/-- A query goes on. -/
theorem goesOn_of_query {w a q s : List Char} {b : Url} (hw : cut '#' w = (w, none))
    (hq : cut '?' w = (a, some q)) (hs : IsSuffix s) (hb : ofSignificant (w ++ s) = .ok b)
    (hhttp : IsHttp b.scheme) : GoesOn w b.scheme := by
  have hread : ∀ x, IsSuffix x → ofSignificant (w ++ x) = ofCut a (some (q ++ x)) none := by
    intro x hx
    rw [ofSignificant, cut_append (hx.not_mem not_isPlain_hash), hw]
    dsimp only
    rw [cut_append (hx.not_mem not_isPlain_question), hq]
  rw [hread s hs] at hb
  obtain ⟨rest, u₀, hscheme, hu₀, rfl⟩ := parts_of_ofCut hhttp hb
  obtain ⟨-, -, -, hhost⟩ := ofAuthority_ok hu₀
  obtain ⟨host, hhost, hne⟩ := hhost rfl
  refine ⟨(u₀.front host ++ u₀.path.text).toList ++ '?' :: Percent.encode (isQueryChar true) q,
    fun x hx => ?_⟩
  let u : Url := { u₀ with query := some (encoded (isQueryChar true) (q ++ x)), fragment := none }
  have hu : u.host = some host := hhost
  refine ⟨u, ?_, rfl, hasHost_of_ne hu hne, .inl ?_⟩
  · rw [hread x hx]
    exact ofCut_of_parts hhttp hscheme hu₀
  · apply String.toList_injective
    rw [text_withoutCredentials hu]
    simp [u, front, hx.encoded_query]

/-- What stands behind a scheme, if it is more than slashes, falls into an authority and a path that
goes on. -/
theorem exists_authority {r : List Char} (hr : ∃ c ∈ r, isSlash true c = false) :
    ∃ authority path : List Char, (∀ c ∈ authority, isSlash true c = false)
      ∧ (∀ c ∈ path.head?, isSlash true c = true)
      ∧ ∀ x, (r ++ x).dropWhile (isSlash true) = authority ++ (path ++ x) := by
  let r' := r.dropWhile (isSlash true)
  refine ⟨r'.takeWhile (fun c => !isSlash true c), r'.dropWhile (fun c => !isSlash true c),
    ?authority, ?path, ?whole⟩
  case authority =>
    intro c hc
    simpa using List.mem_takeWhile_imp hc
  case path =>
    intro c hc
    have h := List.head?_dropWhile_not (fun c => !isSlash true c) r'
    rw [Option.mem_def] at hc
    rw [hc] at h
    simpa using h
  case whole =>
    intro x
    have hne : ¬ (r.dropWhile (isSlash true)).isEmpty := by
      rw [List.isEmpty_iff, List.dropWhile_eq_nil_iff]
      obtain ⟨c, hc, hslash⟩ := hr
      exact fun hall => absurd (hall c hc) (by rw [hslash]; exact Bool.false_ne_true)
    rw [List.dropWhile_append, if_neg hne, ← List.append_assoc, List.takeWhile_append_dropWhile]

/-- Slashes alone are no authority. -/
theorem exists_not_slash {scheme : String} {r s : List Char} {u : Url} (hs : ∀ c ∈ s, c = '/')
    (hu : ofAuthority scheme true false ((r ++ s).dropWhile (isSlash true)) = .ok u) :
    ∃ c ∈ r, isSlash true c = false := by
  by_contra hall
  have hnil : (r ++ s).dropWhile (isSlash true) = [] := by
    rw [List.dropWhile_eq_nil_iff]
    intro c hc
    rcases List.mem_append.1 hc with hc | hc
    · simpa using fun h => hall ⟨c, hc, h⟩
    · rw [hs c hc]
      rfl
  rw [hnil] at hu
  cases hu

/-- The text of a path that goes on, or of the same path with a slash. -/
theorem text_pathOf_suffix (path : List Char) {x : List Char} (hx : IsSuffix x) :
    (pathOf true (path ++ x)).text = String.ofList (beginning path ++ x)
      ∨ x = [] ∧ (pathOf true (path ++ x)).text = String.ofList (beginning path ++ ['/']) := by
  cases x with
  | nil =>
    rw [List.append_nil, List.append_nil]
    exact (text_pathOf path).imp_right fun h => ⟨rfl, h⟩
  | cons d x =>
    obtain rfl := hx.slash d rfl
    exact .inl (text_pathOf_append fun c hc => hx.plain c (List.mem_cons_of_mem _ hc))

/-- A path goes on. -/
theorem goesOn_of_path {w s : List Char} {b : Url} (hw : cut '#' w = (w, none))
    (hq : cut '?' w = (w, none)) (hs : ∀ c ∈ s, c = '/')
    (hb : ofSignificant (w ++ s) = .ok b) (hhttp : IsHttp b.scheme) : GoesOn w b.scheme := by
  have hsuffix := isSuffix_slashes hs
  have hread : ∀ x, IsSuffix x → ofSignificant (w ++ x) = ofCut (w ++ x) none none := by
    intro x hx
    rw [ofSignificant, cut_append (hx.not_mem not_isPlain_hash), hw]
    dsimp only
    rw [cut_append (hx.not_mem not_isPlain_question), hq]
  rw [hread s hsuffix] at hb
  obtain ⟨rest, u₀, hscheme, hu₀, rfl⟩ := parts_of_ofCut hhttp hb
  rw [scheme?_append hsuffix.slash, Option.map_eq_some_iff] at hscheme
  obtain ⟨⟨scheme, r⟩, hscheme, heq⟩ := hscheme
  cases heq
  obtain ⟨a, path, ha, hpath, hwhole⟩ := exists_authority (exists_not_slash hs hu₀)
  have hslash : ∀ x, IsSuffix x → ∀ c ∈ (path ++ x).head?, isSlash true c = true := by
    intro x hx c hc
    cases path with
    | nil =>
      rw [hx.slash c hc]
      rfl
    | cons d path => exact hpath c hc
  rw [hwhole s, ofAuthority_append ha (hslash s hsuffix)] at hu₀
  cases hu₁ : ofAuthority u₀.scheme true false a with
  | error e =>
    rw [hu₁] at hu₀
    cases hu₀
  | ok u₁ =>
    rw [hu₁] at hu₀
    obtain rfl := Except.ok.inj hu₀
    obtain ⟨-, -, -, hhost⟩ := ofAuthority_ok hu₁
    obtain ⟨host, hhost, hne⟩ := hhost rfl
    refine ⟨(u₁.front host).toList ++ beginning path, fun x hx => ?_⟩
    let u : Url := { u₁ with path := pathOf true (path ++ x), query := none, fragment := none }
    have hu : u.host = some host := hhost
    have htext : u.withoutCredentials.text = u₁.front host ++ (pathOf true (path ++ x)).text := by
      rw [text_withoutCredentials hu]
      simp [u, front]
    refine ⟨u, ?_, rfl, hasHost_of_ne hu hne, ?_⟩
    · have hscheme' : scheme? (w ++ x) = some (u₁.scheme, r ++ x) := by
        rw [scheme?_append hx.slash, hscheme]
        rfl
      have hauthority : ofAuthority u₁.scheme true false ((r ++ x).dropWhile (isSlash true))
          = .ok { u₁ with path := pathOf true (path ++ x) } := by
        rw [hwhole x, ofAuthority_append ha (hslash x hx), hu₁]
        rfl
      have hhttp' : IsHttp ({ u₁ with path := pathOf true (path ++ x) } : Url).scheme := hhttp
      rw [hread x hx]
      exact ofCut_of_parts hhttp' hscheme' hauthority
    · rw [htext]
      have hbehind (t : List Char) : u₁.front host ++ String.ofList (beginning path ++ t)
          = String.ofList ((u₁.front host).toList ++ beginning path ++ t) := by
        apply String.toList_injective
        simp
      rcases text_pathOf_suffix path hx with h | ⟨hnil, h⟩
      · exact .inl (by rw [h, hbehind])
      · exact .inr ⟨hnil, by rw [h, hbehind]⟩

/-- A text goes on if it is the text of a URL of a server but for some slashes. -/
theorem goesOn_of_read {w s : List Char} {b : Url} (hs : ∀ c ∈ s, c = '/')
    (hb : ofSignificant (w ++ s) = .ok b) (hhttp : IsHttp b.scheme) : GoesOn w b.scheme := by
  have hsuffix := isSuffix_slashes hs
  cases hw : cut '#' w with
  | mk a fragment =>
    cases fragment with
    | some f => exact goesOn_of_fragment hw hsuffix hb hhttp
    | none =>
      obtain rfl := eq_of_cut_none hw
      cases hq : cut '?' a with
      | mk a' query =>
        cases query with
        | some q => exact goesOn_of_query hw hq hsuffix hb hhttp
        | none =>
          obtain rfl := eq_of_cut_none hq
          exact goesOn_of_path hw hq hs hb hhttp

/-- Slashes alone are no URL. -/
theorem ofSignificant_slashes {s : List Char} (hs : ∀ c ∈ s, c = '/') :
    ofSignificant s = .error .relative := by
  have hsuffix := isSuffix_slashes hs
  have hhash := cut_append (w := []) (hsuffix.not_mem not_isPlain_hash)
  have hquestion := cut_append (w := []) (hsuffix.not_mem not_isPlain_question)
  have hscheme := scheme?_append (w := []) hsuffix.slash
  rw [List.nil_append] at hhash hquestion hscheme
  rw [ofSignificant, hhash]
  change ofCut (cut '?' s).1 (cut '?' s).2 none = _
  rw [hquestion]
  change ofCut s none none = _
  rw [ofCut, hscheme]
  rfl

/-- The text of a URL has a character that is not blank before its slashes. -/
theorem exists_black {w s : List Char} {b : Url} (hs : ∀ c ∈ s, c = '/')
    (hb : parse (String.ofList (w ++ s)) = .ok b) : ∃ c ∈ w, ' ' < c := by
  by_contra hall
  have hdrop : (w ++ s).dropWhile (· ≤ ' ') = s.dropWhile (· ≤ ' ') := by
    have hnil : w.dropWhile (· ≤ ' ') = [] := by
      rw [List.dropWhile_eq_nil_iff]
      intro c hc
      simpa using fun hlt => hall ⟨c, hc, hlt⟩
    rw [List.dropWhile_append, hnil]
    rfl
  have hslashes : ∀ c ∈ significant (w ++ s), c = '/' := by
    intro c hc
    rw [significant, trim, hdrop] at hc
    have hc := List.mem_reverse.1 (List.mem_of_mem_filter hc)
    have hc := List.mem_reverse.1 (List.dropWhile_subset _ hc)
    exact hs c (List.dropWhile_subset _ hc)
  rw [parse_eq, ofSignificant_slashes hslashes] at hb
  cases hb

/-- **What is written behind the text of a URL stands at the end of the longer URL.**  Let the text
of a URL of a server, if its slashes are left out, be `w`.  Then there is a site such that the URL is
this site with slashes behind it, and for any path of letters, digits and slashes, the URL of `w` with
this path is the site with the path. -/
theorem parse_append {w s : List Char} {b : Url} (hs : ∀ c ∈ s, c = '/')
    (hend : ∀ c ∈ (w ++ s).getLast?, ' ' < c) (hb : parse (String.ofList (w ++ s)) = .ok b)
    (hhttp : IsHttp b.scheme) : ∃ site : List Char,
      (∃ s', (∀ c ∈ s', c = '/') ∧ b.withoutCredentials.text = String.ofList (site ++ s'))
      ∧ ∀ t, (∀ c ∈ t, IsPlain c) → ∃ u, parse (String.ofList (w ++ '/' :: t)) = .ok u
        ∧ u.scheme = b.scheme ∧ u.hasHost = true
        ∧ u.withoutCredentials.text = String.ofList (site ++ '/' :: t) := by
  have hread : ∀ x, IsSuffix x → (x = [] → s = []) →
      parse (String.ofList (w ++ x)) = ofSignificant (started w ++ x) := by
    intro x hx hnil
    have hblack : ∀ c ∈ x, ' ' < c := fun c hc => by
      simpa using (hx.plain c hc).all (f := fun c => ' ' < c) (by decide) (by decide)
    rw [parse_eq, significant_append (exists_black hs hb) hblack]
    intro hx c hc
    rw [hnil hx, List.append_nil] at hend
    exact hend c hc
  have hsuffix := isSuffix_slashes hs
  have hb' := hb
  rw [hread s hsuffix id] at hb'
  obtain ⟨site, hsite⟩ := goesOn_of_read hs hb' hhttp
  refine ⟨site, ?_, fun t ht => ?_⟩
  · obtain ⟨u, hu, -, -, htext⟩ := hsite s hsuffix
    rw [hb'] at hu
    cases hu
    rcases htext with htext | ⟨-, htext⟩
    · exact ⟨s, hs, htext⟩
    · exact ⟨['/'], by simp, htext⟩
  · have hx : IsSuffix ('/' :: t) := by
      constructor
      · simpa [IsPlain] using ht
      · simp
    obtain ⟨u, hu, hscheme, hhost, htext⟩ := hsite _ hx
    refine ⟨u, ?_, hscheme, hhost, ?_⟩
    · rw [hread _ hx nofun, hu]
    · simpa using htext

end FluxCorpus.Url
