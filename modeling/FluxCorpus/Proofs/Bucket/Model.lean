import FluxCorpus.Bucket.Model
import FluxCorpus.Proofs.Json.Meaning
import FluxCorpus.Proofs.Json.Reading

/-!
# Messages about buckets in every spelling

A message is read back from its text, and from every other text that a server may write for it: with
the members of its objects in another order, with blanks between the tokens, and with members that
nobody knows.  A `Draft` is a message of which members may be left out; what is missing is empty if
it may be, and a mismatch otherwise.

* `write_array`, `write_object` — what is written is a value without blanks.
* `means_array`, `Fits.entry` — what lists and fields mean that are given or left out.
* `Faithful`, `faithful_of` — what is decoded from the texts of one kind of message.
* `messages_faithful` — **all four kinds of messages are decoded faithfully.**
-/

namespace FluxCorpus

open Json

/-! ## Values that are written -/

namespace Json

/-- A string as a value. -/
def Value.ofText (s : String) : Value := .string (.ofString s)

/-- An integer as a value. -/
def Value.ofInt (i : Int) : Value := .number (.ofInt i)

theorem write_text (s : String) : write .text (.text s) = (Value.ofText s).tokens.flatten := by
  simp [write, Value.ofText, Value.tokens, Literal.text_ofString]

theorem write_integer (i : Int) :
    write .integer (.integer i) = (Value.ofInt i).tokens.flatten := by
  simp [write, Value.ofInt, Value.tokens, NumberLiteral.text_ofInt]

/-- The written items of a list are those of an array without blanks. -/
theorem write_array {α : Type} {item : Shape} {toDatum : α → Datum} {value : α → Value}
    (h : ∀ a, write item (toDatum a) = (value a).tokens.flatten) (as : List α) :
    write (.list item) (.list (as.map toDatum)) = (Value.array (as.map value)).tokens.flatten := by
  have hmore (as : List α) : (writeItems item (as.map toDatum)).flatMap (',' :: ·) ++ [']']
      = (itemTokens false (as.map value)).flatten := by
    induction as with
    | nil => rfl
    | cons a as ih =>
      rw [List.map_cons, List.map_cons, writeItems, List.flatMap_cons, h, itemTokens,
        List.append_assoc, ih]
      simp [comma]
  cases as with
  | nil => rfl
  | cons a as =>
    rw [List.map_cons, List.map_cons, write, writeItems, separated_cons, h, Value.tokens, itemTokens]
    simp [comma, ← hmore as]

/-- Each field of a record is written as the value that is given for it. -/
inductive Writes : List Field → List Datum → List (String × Option Value) → Prop
  | nil : Writes [] [] []
  | cons {name : String} {default : Option Datum} {shape : Shape} {d : Datum} {v : Value}
      {fields : List Field} {ds : List Datum} {entries : List (String × Option Value)} :
      write shape d = v.tokens.flatten → Writes fields ds entries →
      Writes ((name, default, shape) :: fields) (d :: ds) ((name, some v) :: entries)

/-- The written fields of a record are the members of an object without blanks. -/
theorem write_object {fields : List Field} {ds : List Datum} {entries : List (String × Option Value)}
    (h : Writes fields ds entries) :
    write (.record fields) (.record ds) = (Value.object (members entries)).tokens.flatten := by
  have hmore {fields : List Field} {ds : List Datum} {entries : List (String × Option Value)}
      (h : Writes fields ds entries) :
      (writeFields fields ds).flatMap (',' :: ·) ++ ['\x7d']
        = (memberTokens false (members entries)).flatten := by
    induction h with
    | nil => rfl
    | cons hd _ ih =>
      rw [writeFields, List.flatMap_cons, hd, members_given, memberTokens, List.append_assoc, ih]
      simp [comma, member, Literal.text_ofString]
  cases h with
  | nil => rfl
  | cons hd htail =>
    rw [write, writeFields, separated_cons, hd, Value.tokens, members_given, memberTokens]
    simp [comma, member, Literal.text_ofString, ← hmore htail]

/-! ## What lists and fields mean -/

theorem means_ofText (s : String) : Means .text (some (.text s)) (Value.ofText s) := by
  rw [Value.ofText, Means]
  exact ⟨s, Literal.string?_ofString s, rfl⟩

theorem means_ofInt {i : Int} (hi : Representable i) :
    Means .integer (some (.integer i)) (Value.ofInt i) := by
  rw [Value.ofInt, Means]
  exact ⟨i, hi, rfl, rfl⟩

/-- A list means what its items mean, if all of them mean something. -/
theorem means_array {α δ : Type} {item : Shape} {whole? : δ → Option α} {toDatum : α → Datum}
    {value : δ → Value} {ds : List δ}
    (h : ∀ d ∈ ds, Means item ((whole? d).map toDatum) (value d)) :
    Means (.list item) ((ds.mapM whole?).map fun as => .list (as.map toDatum))
      (.array (ds.map value)) := by
  rw [Means]
  refine ⟨ds.map fun d => (whole? d).map toDatum, ?_, ?_⟩
  · rw [List.forall₂_map_left_iff, List.forall₂_map_right_iff, List.forall₂_same]
    exact h
  · have hmapM : (ds.map fun d => (whole? d).map toDatum).mapM id
        = (ds.mapM whole?).map fun as => as.map toDatum := by
      clear h
      induction ds with
      | nil => rfl
      | cons d ds ih =>
        rw [List.map_cons, List.mapM_cons, List.mapM_cons, ih]
        cases whole? d with
        | none => rfl
        | some a => cases ds.mapM whole? <;> rfl
    rw [hmapM, Option.map_map]
    rfl

/-- A field that may be given means its default if it is not. -/
theorem Fits.entry {α : Type} {name : String} {default : Option Datum} {shape : Shape}
    {fields : List Field} {entries : List (String × Option Value)} {rs : List (Option Datum)}
    {a? : Option α} {value : α → Value} {meaning : α → Option Datum}
    (ha : ∀ a ∈ a?, Means shape (meaning a) (value a)) (h : Fits fields entries rs) :
    Fits ((name, default, shape) :: fields) ((name, a?.map value) :: entries)
      (a?.elim default meaning :: rs) := by
  cases a? with
  | none => exact .missing h
  | some a => exact .given (ha a rfl) h

theorem Fits.text {name : String} {default : Option Datum} {fields : List Field}
    {entries : List (String × Option Value)} {rs : List (Option Datum)} (s? : Option String)
    (h : Fits fields entries rs) :
    Fits ((name, default, .text) :: fields) ((name, s?.map .ofText) :: entries)
      (s?.elim default (fun s => some (.text s)) :: rs) :=
  .entry (fun s _ => means_ofText s) h

/-! ## Faithful decoding -/

/-- A text of a value that a reader of the shape cannot tell from the given one. -/
def Respelled (shape : Shape) (v : Value) (text : String) : Prop :=
  ∃ w, Respells shape v w ∧ w.Spells text

end Json

/-- A kind of message is decoded faithfully.  `draft` gives every member of a message, `value` is a
draft in JSON, and `whole?` is the message that a draft stands for, if there is one. -/
structure Faithful {α δ : Type} (shape : Shape) (encode : α → String)
    (decode : String → Except Problem α) (draft : α → δ) (value : δ → Value)
    (whole? : δ → Option α) (InRange : δ → Prop) : Prop where
  /-- What is encoded is the value of a message without blanks. -/
  encode_eq : ∀ a, encode a = (value (draft a)).compact
  /-- Decoding undoes encoding. -/
  decode_encode : ∀ a, InRange (draft a) → decode (encode a) = .ok a
  /-- A message is decoded from every text of its value, whatever the order of the members, the
  blanks, and the members that nobody knows. -/
  decode_respelled : ∀ a text, InRange (draft a) → Respelled shape (value (draft a)) text →
    decode text = .ok a
  /-- The same holds if members are left out, and if one of them is required it is a mismatch. -/
  decode_draft : ∀ d text, InRange d → Respelled shape (value d) text →
    decode text = orMismatch (whole? d)

theorem faithful_of {α δ : Type} {shape : Shape} {toDatum : α → Datum} {ofDatum? : Datum → Option α}
    {draft : α → δ} {value : δ → Value} {whole? : δ → Option α} {InRange : δ → Prop}
    (hof : ∀ a, ofDatum? (toDatum a) = some a) (hwhole : ∀ a, whole? (draft a) = some a)
    (hwrite : ∀ a, write shape (toDatum a) = (value (draft a)).tokens.flatten)
    (hmeans : ∀ d, InRange d → Means shape ((whole? d).map toDatum) (value d)) :
    Faithful shape (fun a => shape.encode (toDatum a))
      (fun text => shape.decode text >>= fromDatum ofDatum?) draft value whole? InRange := by
  have hencode (a : α) : shape.encode (toDatum a) = (value (draft a)).compact := by
    rw [Shape.encode, hwrite, Value.compact]
  have hdraft (d : δ) (text : String) (hd : InRange d) (htext : Respelled shape (value d) text) :
      (shape.decode text >>= fromDatum ofDatum?) = orMismatch (whole? d) := by
    obtain ⟨w, hrespells, hspells⟩ := htext
    rw [decode_of_means ((hmeans d hd).respells hrespells _) hspells]
    cases whole? d with
    | none => rfl
    | some a => simp [orMismatch, fromDatum, hof, bind, Except.bind, pure, Except.pure]
  have hrespelled (a : α) (text : String) (ha : InRange (draft a))
      (htext : Respelled shape (value (draft a)) text) :
      (shape.decode text >>= fromDatum ofDatum?) = .ok a := by
    rw [hdraft _ text ha htext, hwhole]
    rfl
  refine ⟨hencode, fun a ha => hrespelled a _ ha ?_, hrespelled, hdraft⟩
  exact ⟨_, .refl _ _, hencode a ▸ Value.spells_compact _⟩

/-! ## The four kinds of messages -/

namespace Bucket

/-- A bucket of which members may be left out. -/
structure Draft where
  id : Option String
  name : Option String
  kind : Option String

/-- A draft with every member. -/
def draft (b : Bucket) : Draft := ⟨some b.id, some b.name, some b.kind⟩

/-- A draft in JSON. -/
def Draft.value (d : Draft) : Value :=
  .object (members [("id", d.id.map .ofText), ("name", d.name.map .ofText),
    ("type", d.kind.map .ofText)])

/-- The bucket of a draft.  It has a name; whatever else is missing is empty. -/
def Draft.bucket? (d : Draft) : Option Bucket :=
  d.name.map fun name => ⟨d.id.getD "", name, d.kind.getD ""⟩

theorem ofDatum?_toDatum (b : Bucket) : ofDatum? b.toDatum = some b := rfl

theorem bucket?_draft (b : Bucket) : b.draft.bucket? = some b := rfl

theorem write_draft (b : Bucket) : write shape b.toDatum = b.draft.value.tokens.flatten :=
  write_object (.cons (write_text _) (.cons (write_text _) (.cons (write_text _) .nil)))

theorem Draft.means (d : Draft) : Means shape (d.bucket?.map toDatum) d.value := by
  have hfields : Means shape _ d.value :=
    means_object (.text d.id (.text d.name (.text d.kind .nil))) (by decide)
  convert hfields using 1
  obtain ⟨id, name, kind⟩ := d
  cases name with
  | none => cases id <;> rfl
  | some name => cases id <;> cases kind <;> rfl

theorem faithful :
    Faithful shape encode decode draft Draft.value Draft.bucket? fun _ => True :=
  faithful_of ofDatum?_toDatum bucket?_draft write_draft fun d _ => d.means

end Bucket

namespace BucketListing

/-- A listing of which members may be left out. -/
structure Draft where
  buckets : Option (List Bucket.Draft)

/-- A draft with every member. -/
def draft (l : BucketListing) : Draft := ⟨some (l.buckets.map Bucket.draft)⟩

/-- A draft in JSON. -/
def Draft.value (d : Draft) : Value :=
  .object (members [("buckets", d.buckets.map fun bs => .array (bs.map Bucket.Draft.value))])

/-- The listing of a draft.  It is empty if it has no buckets. -/
def Draft.listing? (d : Draft) : Option BucketListing :=
  (d.buckets.elim (some []) fun bs => bs.mapM Bucket.Draft.bucket?).map BucketListing.mk

theorem write_draft (l : BucketListing) : write shape l.toDatum = l.draft.value.tokens.flatten := by
  refine write_object (.cons ?_ .nil)
  dsimp only
  rw [List.map_map]
  exact write_array Bucket.write_draft l.buckets

theorem Draft.means (d : Draft) : Means shape (d.listing?.map toDatum) d.value := by
  have hfields : Means shape _ d.value :=
    means_object (.entry (fun _ _ => means_array fun b _ => b.means) .nil) (by decide)
  convert hfields using 1
  obtain ⟨_ | bs⟩ := d
  · rfl
  · cases hbs : bs.mapM Bucket.Draft.bucket? <;> simp [listing?, hbs, toDatum]

theorem faithful :
    Faithful shape encode decode draft Draft.value Draft.listing? fun _ => True := by
  refine faithful_of (fun l => ?_) (fun l => ?_) write_draft fun d _ => d.means
  · simp [toDatum, ofDatum?, items?, mapM_map_some Bucket.ofDatum?_toDatum]
  · simp [draft, Draft.listing?, mapM_map_some Bucket.bucket?_draft]

end BucketListing

namespace RetentionRule

/-- A rule of which members may be left out. -/
structure Draft where
  kind : Option String
  everySeconds : Option Int

/-- A draft with every member. -/
def draft (r : RetentionRule) : Draft := ⟨some r.kind, some r.everySeconds⟩

/-- A draft in JSON. -/
def Draft.value (d : Draft) : Value :=
  .object (members [("type", d.kind.map .ofText), ("everySeconds", d.everySeconds.map .ofInt)])

/-- The rule of a draft.  No member may be missing. -/
def Draft.rule? (d : Draft) : Option RetentionRule := do return ⟨← d.kind, ← d.everySeconds⟩

/-- The integer of a draft has at most 64 bits. -/
def Draft.InRange (d : Draft) : Prop := ∀ i ∈ d.everySeconds, Representable i

theorem ofDatum?_toDatum (r : RetentionRule) : ofDatum? r.toDatum = some r := rfl

theorem rule?_draft (r : RetentionRule) : r.draft.rule? = some r := rfl

theorem write_draft (r : RetentionRule) : write shape r.toDatum = r.draft.value.tokens.flatten :=
  write_object (.cons (write_text _) (.cons (write_integer _) .nil))

theorem Draft.means (d : Draft) (hd : d.InRange) : Means shape (d.rule?.map toDatum) d.value := by
  have hfields : Means shape _ d.value :=
    means_object (.text d.kind (.entry (fun i hi => means_ofInt (hd i hi)) .nil)) (by decide)
  convert hfields using 1
  obtain ⟨kind, everySeconds⟩ := d
  cases kind with
  | none => rfl
  | some kind => cases everySeconds <;> rfl

theorem faithful : Faithful shape encode decode draft Draft.value Draft.rule? Draft.InRange :=
  faithful_of ofDatum?_toDatum rule?_draft write_draft Draft.means

end RetentionRule

namespace BucketRequest

/-- A request of which members may be left out. -/
structure Draft where
  name : Option String
  organization : Option String
  kind : Option String
  retentionRules : Option (List RetentionRule.Draft)
  description : Option String

/-- A draft with every member. -/
def draft (r : BucketRequest) : Draft :=
  ⟨some r.name, some r.organization, some r.kind, some (r.retentionRules.map RetentionRule.draft),
    some r.description⟩

/-- A draft in JSON. -/
def Draft.value (d : Draft) : Value :=
  .object (members [("name", d.name.map .ofText), ("orgID", d.organization.map .ofText),
    ("type", d.kind.map .ofText),
    ("retentionRules", d.retentionRules.map fun rs => .array (rs.map RetentionRule.Draft.value)),
    ("description", d.description.map .ofText)])

/-- The request of a draft.  No member may be missing, and none of a rule. -/
def Draft.request? (d : Draft) : Option BucketRequest := do
  return ⟨← d.name, ← d.organization, ← d.kind,
    ← (← d.retentionRules).mapM RetentionRule.Draft.rule?, ← d.description⟩

/-- The integers of a draft have at most 64 bits. -/
def Draft.InRange (d : Draft) : Prop := ∀ rs ∈ d.retentionRules, ∀ r ∈ rs, r.InRange

theorem write_draft (r : BucketRequest) : write shape r.toDatum = r.draft.value.tokens.flatten := by
  refine write_object (.cons (write_text _) (.cons (write_text _) (.cons (write_text _)
    (.cons ?_ (.cons (write_text _) .nil)))))
  dsimp only
  rw [List.map_map]
  exact write_array RetentionRule.write_draft r.retentionRules

theorem Draft.means (d : Draft) (hd : d.InRange) : Means shape (d.request?.map toDatum) d.value := by
  have hfields : Means shape _ d.value :=
    means_object (.text d.name (.text d.organization (.text d.kind
      (.entry (fun rs hrs => means_array fun r hr => r.means (hd rs hrs r hr))
        (.text d.description .nil))))) (by decide)
  convert hfields using 1
  obtain ⟨name, organization, kind, retentionRules, description⟩ := d
  cases name with
  | none => rfl
  | some name =>
  cases organization with
  | none => rfl
  | some organization =>
  cases kind with
  | none => rfl
  | some kind =>
  cases retentionRules with
  | none => rfl
  | some rs =>
  cases hrs : rs.mapM RetentionRule.Draft.rule? with
  | none => simp [request?, hrs]
  | some rules => cases description <;> simp [request?, hrs, toDatum]

theorem faithful : Faithful shape encode decode draft Draft.value Draft.request? Draft.InRange := by
  refine faithful_of (fun r => ?_) (fun r => ?_) write_draft Draft.means
  · simp [toDatum, ofDatum?, items?, mapM_map_some RetentionRule.ofDatum?_toDatum]
  · simp [draft, Draft.request?, mapM_map_some RetentionRule.rule?_draft]

end BucketRequest

/-- **All four kinds of messages are decoded faithfully.**  Decoding undoes encoding; it goes by
neither the order of the members, nor the blanks between the tokens, nor any further members; and of
the members only three may be left out. -/
theorem messages_faithful :
    Faithful Bucket.shape Bucket.encode Bucket.decode Bucket.draft Bucket.Draft.value
        Bucket.Draft.bucket? (fun _ => True)
      ∧ Faithful BucketListing.shape BucketListing.encode BucketListing.decode BucketListing.draft
        BucketListing.Draft.value BucketListing.Draft.listing? (fun _ => True)
      ∧ Faithful BucketRequest.shape BucketRequest.encode BucketRequest.decode BucketRequest.draft
        BucketRequest.Draft.value BucketRequest.Draft.request? BucketRequest.Draft.InRange
      ∧ Faithful RetentionRule.shape RetentionRule.encode RetentionRule.decode RetentionRule.draft
        RetentionRule.Draft.value RetentionRule.Draft.rule? RetentionRule.Draft.InRange :=
  ⟨Bucket.faithful, BucketListing.faithful, BucketRequest.faithful, RetentionRule.faithful⟩

/-- A bucket without an identifier, with its members in another order and among others. -/
theorem messages_faithful_reordered :
    Bucket.decode "\n\x7b \"type\" : \"system\",\"links\":[\x7b\x7d], \"name\":\"b\"\x7d "
      = .ok ⟨"", "b", "system"⟩ := by
  have hpermute : Respells Bucket.shape (Bucket.Draft.value ⟨none, some "b", some "system"⟩)
      (.object ([(.ofString "type", .ofText "system")] ++ [(.ofString "name", .ofText "b")])) :=
    .permute (.swap _ _ [])
  have hinsert : Respells Bucket.shape
      (.object ([(.ofString "type", .ofText "system")] ++ [(.ofString "name", .ofText "b")]))
      (.object ([(.ofString "type", .ofText "system")]
        ++ (.ofString "links", .array [.object []]) :: [(.ofString "name", .ofText "b")])) :=
    .insert _ (Literal.string?_ofString "links") (by decide)
  have htokens : (Value.object ([(.ofString "type", .ofText "system")]
      ++ (.ofString "links", .array [.object []]) :: [(.ofString "name", .ofText "b")])).tokens
      = [['\x7b'], string "type", [':'], string "system", [','], string "links", [':'], ['['],
        ['\x7b'], ['\x7d'], [']'], [','], string "name", [':'], string "b", ['\x7d']] := rfl
  have hblank {ts : List (List Char)} {t text : List Char} (c : Char) (hc : isBlank c = true)
      (h : Spaced ts text) : Spaced (t :: ts) (c :: (t ++ text)) :=
    @Spaced.cons [c] _ _ _ (by simpa using hc) h
  have hname : Spaced [string "name", [':'], string "b", ['\x7d']] _ :=
    hblank ' ' rfl Spaced.nil.tight.tight.tight
  have hspaced : Spaced [['\x7b'], string "type", [':'], string "system", [','], string "links",
      [':'], ['['], ['\x7b'], ['\x7d'], [']'], [','], string "name", [':'], string "b", ['\x7d']] _ :=
    hblank '\n' rfl (hblank ' ' rfl (hblank ' ' rfl (hblank ' ' rfl
      hname.tight.tight.tight.tight.tight.tight.tight.tight)))
  exact messages_faithful.1.decode_draft _ _ trivial
    ⟨_, .trans hpermute hinsert, _, [' '], rfl, htokens ▸ hspaced, rfl⟩

end FluxCorpus
