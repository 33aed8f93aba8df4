import FluxCorpus.Program.Run
import FluxCorpus.Proofs.Http.Dialogue
import FluxCorpus.Proofs.Url.Extension

/-!
# Buckets are removed one by one, and only the right ones

Removing buckets by their name is a dialogue of several requests, any of which can fail.  Whatever the
server replies, the buckets that are deleted are among those that it has listed under this name, none
of them is its own, and the first deletion that fails is the last.

* `Reaches` — the requests of a client go to one site; `exists_reaches` says which one.
* `listing?`, `IsDeleted` — what a reply says about buckets.
* `Deletions` — the exchanges in which buckets are deleted up to the first failure.
* `removeByName_safe` — **what is sent, whatever is replied.**
-/

namespace FluxCorpus.Client

open Http Http.Dialogue Url

variable {c : Client} {site : String} (otherwise : Reply)

/-! ## Requests -/

/-- The requests of a client go to a site: the URL of a plain path is the site with the path. -/
def Reaches (c : Client) (site : String) : Prop :=
  ∀ (method : Method) (path : List Char) (content : Option Content),
    (∀ ch ∈ path, IsPlain ch) → ∃ url : Url,
      url.text = site ++ String.ofList ('/' :: path)
        ∧ c.request method (String.ofList ('/' :: path)) content
          = .ok ⟨method, url, c.authorization, content⟩

/-- A token of characters that may stand in a header fits into one. -/
theorem authorization_all {url token : String}
    (htoken : ∀ ch ∈ token.toList, isHeaderChar ch = true) :
    ((create url token).authorization.all fun a => a.toList.all isHeaderChar) = true := by
  rw [create]
  dsimp only
  split
  · rfl
  · have hprefix : "Token ".toList.all isHeaderChar = true := by decide
    change ("Token " ++ token).toList.all isHeaderChar = true
    rw [String.toList_append, List.all_append, hprefix, Bool.true_and, List.all_eq_true]
    exact htoken

/-- **The site of a client** for a URL of a server and a token that fits into a header is the URL
without the slashes at its end. -/
theorem exists_reaches {base token : String} {b : Url} (hb : Url.parse base = .ok b)
    (hhttp : IsHttp b.scheme) (hend : ∀ ch ∈ base.toList.getLast?, ' ' < ch)
    (htoken : ∀ ch ∈ token.toList, isHeaderChar ch = true) : ∃ site : String,
      (∃ slashes : List Char, (∀ ch ∈ slashes, ch = '/')
        ∧ b.withoutCredentials.text = site ++ String.ofList slashes)
      ∧ (create base token).Reaches site := by
  let w := (base.toList.reverse.dropWhile (· = '/')).reverse
  let s := (base.toList.reverse.takeWhile (· = '/')).reverse
  have hbase : w ++ s = base.toList := by
    rw [← List.reverse_append, List.takeWhile_append_dropWhile, List.reverse_reverse]
  have hs : ∀ ch ∈ s, ch = '/' := by
    intro ch hch
    simpa using List.mem_takeWhile_imp (List.mem_reverse.1 hch)
  have hb' : Url.parse (String.ofList (w ++ s)) = .ok b := by
    rw [hbase, String.ofList_toList, hb]
  obtain ⟨site, ⟨slashes, hslashes, htext⟩, hsite⟩ := parse_append hs (hbase ▸ hend) hb' hhttp
  refine ⟨String.ofList site, ⟨slashes, hslashes, ?_⟩, ?_⟩
  · rw [htext, String.ofList_append]
  · intro method path content hpath
    obtain ⟨u, hu, hscheme, hhost, hutext⟩ := hsite path hpath
    refine ⟨u.withoutCredentials, ?_, ?_⟩
    · rw [hutext, String.ofList_append]
    · have hurl : (create base token).url ++ String.ofList ('/' :: path)
          = String.ofList (w ++ '/' :: path) := by
        rw [String.ofList_append]
        rfl
      have hspoken : ¬ (u.withoutCredentials.scheme ≠ "http"
          ∧ u.withoutCredentials.scheme ≠ "https") := by
        rintro ⟨hnot, hnot'⟩
        rcases hhttp with h | h
        · exact hnot (hscheme.trans h)
        · exact hnot' (hscheme.trans h)
      have hhost' : u.withoutCredentials.hasHost = true := hhost
      rw [request, hurl, hu]
      dsimp only
      rw [hhost', authorization_all htoken, if_neg hspoken]
      rfl

/-! ## What is replied -/

/-- The buckets that a reply lists. -/
def listing? : Reply → Option (List Bucket)
  | .ok a =>
    if a.status = .ok then
      (BucketListing.decode (String.ofList (Json.ofBytes a.body))).toOption.map
        BucketListing.buckets
    else none
  | .error _ => none

/-- The reply says that a bucket was deleted. -/
def IsDeleted (r : Reply) : Prop := ∃ a, r = .ok a ∧ a.status = .noContent

/-- What is made of the reply to a request. -/
def verdict (r : Request) (expected : Status) : Reply → Except ClientFault Answer
  | .error reasons => .error (.noAnswer r.url reasons)
  | .ok a => if a.status = expected then .ok a else .error (.refused a.status a.text)

/-- Bytes that are no character do not spoil a listing where nobody reads them. -/
example : listing? (.ok ⟨.ok, none, "\x7b\"links\":\"".toUTF8.toList ++ 255
    :: "\",\"buckets\":[\x7b\"name\":\"b\"\x7d]\x7d".toUTF8.toList⟩) = some [⟨"", "b", ""⟩] := by
  decide +kernel

/-- A deletion is carried out if the verdict on its reply is favourable. -/
theorem isDeleted_iff {r : Request} {reply : Reply} :
    IsDeleted reply ↔ ∃ a, verdict r .noContent reply = .ok a := by
  cases reply with
  | error reasons => exact ⟨fun ⟨_, h, _⟩ => (nomatch h), fun ⟨_, h⟩ => (nomatch h)⟩
  | ok a =>
    rw [verdict]
    split
    · next hstatus => exact ⟨fun _ => ⟨a, rfl⟩, fun _ => ⟨a, rfl, hstatus⟩⟩
    · next hstatus =>
      refine ⟨?_, fun ⟨_, h⟩ => nomatch h⟩
      rintro ⟨_, ⟨⟩, h⟩
      exact absurd h hstatus

/-- A request is one exchange, of which the verdict is the result. -/
theorem play_send {method : Method} {path : String} {content : Option Content} {r : Request}
    (h : c.request method path content = .ok r) (expected : Status) (replies : List Reply) :
    (c.send method path content expected).run.play otherwise replies =
      ⟨verdict r expected (replies.headD otherwise), [⟨r, replies.headD otherwise⟩],
        replies.tail⟩ := by
  have hrequest : (send.liftExcept (c.request method path content)).run.play otherwise replies
      = ⟨.ok r, [], replies⟩ := by
    rw [h]
    rfl
  have hreply : (ExceptT.lift (Dialogue.reply r) : Talk Reply).run.play otherwise replies
      = ⟨.ok (replies.headD otherwise), [⟨r, replies.headD otherwise⟩], replies.tail⟩ := rfl
  rw [send, play_run_bind, hrequest]
  dsimp only
  rw [play_run_bind, hreply]
  dsimp only
  cases replies.headD otherwise with
  | error reasons => rfl
  | ok a =>
    rw [verdict]
    dsimp only
    split <;> rfl

/-- A body is decoded without an exchange. -/
theorem play_decodeBody {α : Type} (decode : String → Except Json.Problem α) (a : Answer)
    (replies : List Reply) : ∃ result : Except ClientFault α,
      (decodeBody decode a).run.play otherwise replies = ⟨result, [], replies⟩
        ∧ result.toOption = (decode (String.ofList (Json.ofBytes a.body))).toOption := by
  rw [decodeBody]
  cases decode (String.ofList (Json.ofBytes a.body)) with
  | error problem => exact ⟨_, rfl, rfl⟩
  | ok x => exact ⟨_, rfl, rfl⟩

theorem plain_listing : ∀ ch ∈ "api/v2/buckets".toList, IsPlain ch := isPlain_of_all (by decide)

/-- The listing of a client is one exchange, and what its reply lists is the result. -/
theorem play_list (hc : c.Reaches site) (replies : List Reply) :
    ∃ (url : Url) (result : Except ClientFault (List Bucket)),
      url.text = site ++ "/api/v2/buckets"
        ∧ c.list.run.play otherwise replies = ⟨result,
          [⟨⟨.get, url, c.authorization, none⟩, replies.headD otherwise⟩], replies.tail⟩
        ∧ result.toOption = listing? (replies.headD otherwise) := by
  obtain ⟨url, htext, hrequest⟩ := hc .get _ none plain_listing
  refine ⟨url, ?_⟩
  have hsend := play_send otherwise hrequest Status.ok replies
  change (c.send .get bucketsPath none .ok).run.play otherwise replies = _ at hsend
  rw [list, play_run_bind, hsend]
  dsimp only
  cases hreply : replies.headD otherwise with
  | error reasons => exact ⟨_, htext, rfl, rfl⟩
  | ok a =>
    by_cases hstatus : a.status = .ok
    · obtain ⟨result, hplay, hresult⟩ :=
        play_decodeBody otherwise BucketListing.decode a replies.tail
      rw [verdict, if_pos hstatus]
      dsimp only
      rw [play_run_bind, hplay, listing?, if_pos hstatus]
      refine ⟨result.map BucketListing.buckets, htext, ?_, ?_⟩
      · cases result <;> rfl
      · calc (result.map BucketListing.buckets).toOption
            = result.toOption.map BucketListing.buckets := by cases result <;> rfl
          _ = _ := by rw [hresult]
    · rw [verdict, if_neg hstatus, listing?, if_neg hstatus]
      exact ⟨_, htext, rfl, rfl⟩

/-! ## Deletions -/

/-- The exchange asks the server to delete the bucket with an identifier. -/
def IsDeletion (site id : String) (e : Exchange) : Prop :=
  e.request.method = .delete ∧ e.request.content = none
    ∧ e.request.url.text = site ++ "/api/v2/buckets/" ++ id

/-- Buckets are deleted one after the other, until one of them is not. -/
inductive Deletions (site : String) : List Bucket → List Exchange → Prop
  | nil : Deletions site [] []
  | next {b : Bucket} {bs : List Bucket} {e : Exchange} {es : List Exchange} :
    IsDeletion site b.id e → IsDeleted e.reply → Deletions site bs es →
    Deletions site (b :: bs) (e :: es)
  | stop {b : Bucket} {bs : List Bucket} {e : Exchange} :
    IsDeletion site b.id e → ¬ IsDeleted e.reply → Deletions site (b :: bs) [e]

/-- A deletion is one exchange, and it succeeds if the reply says so. -/
theorem play_deleteBucket (hc : c.Reaches site) {id : String}
    (hid : ∀ ch ∈ id.toList, ch.isAlphanum = true) (replies : List Reply) :
    ∃ (e : Exchange) (result : Except ClientFault Unit), IsDeletion site id e
      ∧ (c.deleteBucket id).run.play otherwise replies = ⟨result, [e], replies.tail⟩
      ∧ (result = .ok () ↔ IsDeleted e.reply) := by
  have hprefix : ∀ ch ∈ "api/v2/buckets/".toList, IsPlain ch := isPlain_of_all (by decide)
  have hplain : ∀ ch ∈ "api/v2/buckets/".toList ++ id.toList, IsPlain ch := by
    intro ch hch
    rcases List.mem_append.1 hch with hch | hch
    · exact hprefix ch hch
    · exact .inl (hid ch hch)
  obtain ⟨url, htext, hrequest⟩ := hc .delete _ none hplain
  have hpath : String.ofList ('/' :: ("api/v2/buckets/".toList ++ id.toList))
      = bucketsPath ++ "/" ++ id := by
    apply String.toList_injective
    simp [bucketsPath]
  have hwritten : bucketsPath ++ "/" = "/api/v2/buckets/" := by decide
  rw [hpath] at htext hrequest
  have htext' : url.text = site ++ "/api/v2/buckets/" ++ id := by
    rw [htext, hwritten, String.append_assoc]
  let e : Exchange := ⟨⟨.delete, url, c.authorization, none⟩, replies.headD otherwise⟩
  have hdeletion : IsDeletion site id e := ⟨rfl, rfl, htext'⟩
  have hsend := play_send otherwise hrequest Status.noContent replies
  rw [deleteBucket, play_run_bind, hsend]
  dsimp only
  cases hverdict : verdict e.request .noContent e.reply with
  | error f =>
    refine ⟨e, .error f, hdeletion, rfl, ?_⟩
    rw [isDeleted_iff (r := e.request), hverdict]
    exact ⟨nofun, fun ⟨_, h⟩ => nomatch h⟩
  | ok a =>
    refine ⟨e, .ok (), hdeletion, rfl, ?_⟩
    rw [isDeleted_iff (r := e.request), hverdict]
    exact ⟨fun _ => ⟨a, rfl⟩, fun _ => rfl⟩

/-- Of several buckets all are deleted, or those before the first failure. -/
theorem play_deletions (hc : c.Reaches site) {targets : List Bucket}
    (hids : ∀ b ∈ targets, ∀ ch ∈ b.id.toList, ch.isAlphanum = true) (replies : List Reply) :
    ∃ (es : List Exchange) (result : Except ClientFault PUnit) (unused : List Reply),
      (targets.forM fun b => c.deleteBucket b.id).run.play otherwise replies
          = ⟨result, es, unused⟩
        ∧ Deletions site targets es
        ∧ (result = .ok () ↔ ∀ e ∈ es, IsDeleted e.reply) := by
  induction targets generalizing replies with
  | nil => exact ⟨[], .ok (), replies, rfl, .nil, by simp⟩
  | cons b bs ih =>
    obtain ⟨e, result, hdeletion, hplay, hresult⟩ :=
      play_deleteBucket otherwise hc (hids b (List.mem_cons_self ..)) replies
    obtain ⟨es, rest, unused, hrest, hdeletions, hok⟩ :=
      ih (fun b hb => hids b (List.mem_cons_of_mem _ hb)) replies.tail
    have hstep : ((b :: bs).forM fun b => c.deleteBucket b.id)
        = c.deleteBucket b.id >>= fun _ => bs.forM fun b => c.deleteBucket b.id := rfl
    rw [hstep, play_run_bind, hplay]
    dsimp only
    by_cases hdeleted : IsDeleted e.reply
    · rw [hresult.2 hdeleted]
      dsimp only
      rw [hrest]
      refine ⟨e :: es, rest, unused, rfl, .next hdeletion hdeleted hdeletions, ?_⟩
      simp [hok, hdeleted]
    · cases result with
      | ok u => exact absurd (hresult.1 rfl) hdeleted
      | error f =>
        refine ⟨[e], .error f, replies.tail, rfl, .stop hdeletion hdeleted, ?_⟩
        simp [hdeleted]

/-! ## Removal -/

/-- The buckets that are meant by a name: those that the server has not made for its own use. -/
def targets (name : String) (l : List Bucket) : List Bucket :=
  l.filter fun b => b.name = name ∧ b.kind ≠ "system"

theorem filter_filter_eq_targets (name : String) (l : List Bucket) :
    ((l.filter fun b => !b.isSystem).filter fun b => b.name = name) = targets name l := by
  rw [List.filter_filter, targets]
  refine List.filter_congr fun b _ => ?_
  simp [Bucket.isSystem]

/-- The first exchange asks the server for its buckets. -/
def IsListing (site : String) (e : Exchange) : Prop :=
  e.request.method = .get ∧ e.request.content = none
    ∧ e.request.url.text = site ++ "/api/v2/buckets"

/-- What is sent to remove buckets, and what it leads to. -/
theorem play_removeByName (hc : c.Reaches site) (name : String) (replies : List Reply)
    (hids : ∀ l, listing? (replies.headD otherwise) = some l → ∀ b ∈ targets name l,
      ∀ ch ∈ b.id.toList, ch.isAlphanum = true) :
    ∃ (first : Exchange) (rest : List Exchange) (result : Except ClientFault Bool)
      (unused : List Reply), IsListing site first ∧ first.reply = replies.headD otherwise
        ∧ (c.removeByName name).run.play otherwise replies = ⟨result, first :: rest, unused⟩
        ∧ (listing? first.reply = none → rest = [] ∧ ∃ f, result = .error f)
        ∧ ∀ l, listing? first.reply = some l → Deletions site (targets name l) rest
          ∧ ((∀ e ∈ rest, IsDeleted e.reply) → result = .ok !(targets name l).isEmpty)
          ∧ (¬ (∀ e ∈ rest, IsDeleted e.reply) → ∃ f, result = .error f) := by
  obtain ⟨url, listed, htext, hlist, hlisted⟩ := play_list otherwise hc replies
  let first : Exchange := ⟨⟨.get, url, c.authorization, none⟩, replies.headD otherwise⟩
  have hfirst : IsListing site first := ⟨rfl, rfl, htext⟩
  rw [removeByName, userBuckets, bind_assoc, play_run_bind, hlist]
  dsimp only
  cases listed with
  | error f =>
    refine ⟨first, [], .error f, replies.tail, hfirst, rfl, rfl, fun _ => ⟨rfl, f, rfl⟩, ?_⟩
    intro l hl
    rw [← show (none : Option (List Bucket)) = listing? first.reply from hlisted] at hl
    cases hl
  | ok l =>
    have hl : listing? (replies.headD otherwise) = some l := hlisted.symm
    obtain ⟨es, result, unused, hplay, hdeletions, hresult⟩ :=
      play_deletions otherwise hc (hids l hl) replies.tail
    simp only [pure_bind, filter_filter_eq_targets]
    rw [play_run_bind, hplay]
    have hsome : ∀ {l'}, listing? first.reply = some l' → l' = l :=
      fun h => Option.some.inj (h.symm.trans hl)
    cases result with
    | error f =>
      refine ⟨first, es, .error f, unused, hfirst, rfl, rfl, ?_, ?_⟩
      · intro h
        exact absurd (h.symm.trans hl) (by simp)
      · intro l' h
        obtain rfl := hsome h
        refine ⟨hdeletions, fun hall => ?_, fun _ => ⟨f, rfl⟩⟩
        exact nomatch hresult.2 hall
    | ok u =>
      refine ⟨first, es, .ok !(targets name l).isEmpty, unused, hfirst, rfl, ?_, ?_, ?_⟩
      · simp [pure, ExceptT.pure, ExceptT.run, ExceptT.mk, play, first]
      · intro h
        exact absurd (h.symm.trans hl) (by simp)
      · intro l' h
        obtain rfl := hsome h
        exact ⟨hdeletions, fun _ => rfl, fun hnot => absurd (hresult.1 rfl) hnot⟩

/-- The result says whether all buckets were deleted, and whether there were any. -/
theorem result_of_deletions {ts : List Bucket} {es : List Exchange}
    {result : Except ClientFault Bool} (hdeletions : Deletions site ts es)
    (hall : (∀ e ∈ es, IsDeleted e.reply) → result = .ok !ts.isEmpty)
    (hnot : ¬ (∀ e ∈ es, IsDeleted e.reply) → ∃ f, result = .error f) :
    (result = .ok true ↔ ts ≠ [] ∧ ∀ e ∈ es, IsDeleted e.reply)
      ∧ (result = .ok false ↔ ts = [])
      ∧ ((∃ f, result = .error f) ↔ ∃ e ∈ es, ¬ IsDeleted e.reply) := by
  by_cases hdeleted : ∀ e ∈ es, IsDeleted e.reply
  · rw [hall hdeleted]
    refine ⟨?_, ?_, ?_⟩
    · simpa using fun _ => hdeleted
    · simp
    · constructor
      · rintro ⟨f, h⟩
        cases h
      · rintro ⟨e, he, h⟩
        exact absurd (hdeleted e he) h
  · obtain ⟨f, rfl⟩ := hnot hdeleted
    have hts : ts ≠ [] := by
      rintro rfl
      cases hdeletions
      exact hdeleted (by simp)
    refine ⟨?_, ?_, ?_⟩
    · exact ⟨nofun, fun h => absurd h.2 hdeleted⟩
    · exact ⟨nofun, fun h => absurd h hts⟩
    · exact ⟨fun _ => by simpa using hdeleted, fun _ => ⟨f, rfl⟩⟩

/-- Whether there is a bucket of a name is asked in one exchange. -/
theorem play_hasBucket (hc : c.Reaches site) (name : String) (replies : List Reply) :
    ((c.hasBucket name).run.play otherwise replies).result.toOption
      = (listing? (replies.headD otherwise)).map fun l => !(targets name l).isEmpty := by
  obtain ⟨url, listed, -, hlist, hlisted⟩ := play_list otherwise hc replies
  rw [hasBucket, userBuckets, bind_assoc, play_run_bind, hlist, ← hlisted]
  cases listed with
  | error f => rfl
  | ok l =>
    have hany : ((l.filter fun b => !b.isSystem).any fun b => b.name = name)
        = !(targets name l).isEmpty := by
      rw [← filter_filter_eq_targets, Bool.eq_iff_iff]
      simp [and_comm]
    exact congrArg some hany

/-- The request to make a bucket is one exchange. -/
theorem play_createBucket (hc : c.Reaches site) (organization name : String)
    (replies : List Reply) : ∃ e : Exchange, e.request.method = .post
      ∧ e.request.url.text = site ++ "/api/v2/buckets"
      ∧ ((c.createBucket organization name).run.play otherwise replies).exchanges = [e] := by
  let content : Content :=
    ⟨"application/json", (BucketRequest.forUser organization name).encode⟩
  obtain ⟨url, htext, hrequest⟩ := hc .post _ (some content) plain_listing
  let e : Exchange :=
    ⟨⟨.post, url, c.authorization, some content⟩, replies.headD otherwise⟩
  have hsend : (c.send .post bucketsPath (some content) .created).run.play otherwise replies
      = ⟨verdict e.request .created e.reply, [e], replies.tail⟩ :=
    play_send otherwise hrequest Status.created replies
  refine ⟨e, rfl, htext, ?_⟩
  rw [createBucket, play_run_bind, hsend]
  dsimp only
  split
  · next a _ =>
    obtain ⟨result, hplay, -⟩ := play_decodeBody otherwise Bucket.decode a replies.tail
    rw [hplay]
    rfl
  · rfl

/-- An exchange that follows a success only. -/
def ifOk {ε α : Type} (e : Exchange) : Except ε α → List Exchange
  | .ok _ => [e]
  | .error _ => []

/-- The program asks for a new bucket if and only if those of its name are removed. -/
theorem exchanges_createBucket (hc : c.Reaches site) (organization name : String)
    (replies : List Reply) : ∃ e : Exchange, e.request.method = .post
      ∧ e.request.url.text = site ++ "/api/v2/buckets"
      ∧ ((Program.createBucket c organization name).play otherwise replies).exchanges =
        ((c.removeByName name).run.play otherwise replies).exchanges
          ++ ifOk e ((c.removeByName name).run.play otherwise replies).result := by
  obtain ⟨e, hmethod, htext, hplay⟩ := play_createBucket otherwise hc organization
    name ((c.removeByName name).run.play otherwise replies).unused
  refine ⟨e, hmethod, htext, ?_⟩
  rw [Program.createBucket, play_bind]
  dsimp only
  cases ((c.removeByName name).run.play otherwise replies).result with
  | error f => rfl
  | ok removed =>
    dsimp only
    rw [play_bind]
    dsimp only
    rw [hplay]
    cases ((c.createBucket organization name).run.play otherwise
      ((c.removeByName name).run.play otherwise replies).unused).result <;> rfl

/-- A listing of two buckets with one name, the second of them the server's own. -/
def twoBuckets : Answer where
  status := .ok
  contentType := none
  body := ("\x7b\"buckets\":[\x7b\"id\":\"7\",\"name\":\"b\"\x7d,"
    ++ "\x7b\"id\":\"8\",\"name\":\"b\",\"type\":\"system\"\x7d]\x7d").toUTF8.toList

end FluxCorpus.Client
