import FluxCorpus.Bucket.Model
import FluxCorpus.Http.Dialogue
import FluxCorpus.Json.Bytes
import FluxCorpus.Url.Parse

/-!
# A client for buckets

A `Client` knows the address of a server and the token that opens it.  Its operations are dialogues
with the server about buckets: `list`, `create`, `delete`, and what is made of them.  Buckets of the
server's own are never removed, and the first request that fails ends an operation.
-/

namespace FluxCorpus

open Http (Answer Content Dialogue Method Reply Request Status)

/-- Why an operation of a client fails. -/
inductive ClientFault
  | malformedUrl (problem : UrlProblem)
  | unsupportedUrl (url : Url)
  | malformedToken
  | noAnswer (url : Url) (reasons : List String)
  | undecodable (problem : Json.Problem)
  | refused (status : Status) (text : String)
deriving DecidableEq, Repr

namespace ClientFault

/-- The reasons of a failure that is not the server's word, the outermost first. -/
def layers : ClientFault → List String
  | malformedUrl p => ["builder error", p.message]
  | unsupportedUrl u => ["builder error for url (" ++ u.text ++ ")", "URL scheme is not allowed"]
  | malformedToken => ["builder error", "failed to parse header value"]
  | noAnswer u reasons => ("error sending request for url (" ++ u.text ++ ")") :: reasons
  | undecodable .truncated => ["error decoding response body", "unexpected end of text"]
  | undecodable .mismatch => ["error decoding response body", "unexpected value"]
  | undecodable .malformed => ["error decoding response body", "malformed text"]
  | refused .. => []

/-- A list with all lists that are left when items are taken off its front. -/
def endings {α : Type} : List α → List (List α)
  | [] => []
  | a :: as => (a :: as) :: endings as

/-- The message for the user. -/
def message : ClientFault → String
  | refused status text =>
    "HTTP request returned an error: " ++ status.text ++ ", `" ++ text ++ "`"
  | f => "Error while processing the HTTP request: " ++ ": ".intercalate f.layers

/-- The message, followed by every reason with those within it. -/
def report (f : ClientFault) : String :=
  ": ".intercalate (f.message :: (endings f.layers).map (": ".intercalate ·))

end ClientFault

/-- A dialogue with a server that may fail. -/
abbrev Talk := ExceptT ClientFault Dialogue

/-- What is needed to talk to a server. -/
structure Client where
  url : String
  authorization : Option String
deriving DecidableEq, Repr

namespace Client

/-- A text without slashes at its end. -/
def withoutSlashes (s : String) : String :=
  String.ofList (s.toList.reverse.dropWhile (· = '/')).reverse

/-- The client for a server and a token.  An empty token is none. -/
def create (url token : String) : Client :=
  ⟨withoutSlashes url, if token.isEmpty then none else some ("Token " ++ token)⟩

/-- A character that may stand in a header: any but a control, of which only the tab may. -/
def isHeaderChar (c : Char) : Bool := (' ' ≤ c && c ≠ '\x7f') || c = '\t'

/-- The request for a path on the server.  Its URL must have a host, the token must fit into a
header, and the scheme must be one that is spoken here. -/
def request (c : Client) (method : Method) (path : String) (content : Option Content) :
    Except ClientFault Request :=
  match Url.parse (c.url ++ path) with
  | .error p => throw (.malformedUrl p)
  | .ok u =>
    let url := u.withoutCredentials
    if !url.hasHost then throw (.unsupportedUrl u)
    else if !c.authorization.all fun a => a.toList.all isHeaderChar then throw .malformedToken
    else if url.scheme ≠ "http" ∧ url.scheme ≠ "https" then throw (.unsupportedUrl url)
    else return ⟨method, url, c.authorization, content⟩

/-- Makes a request and waits for the answer, which must have an expected status. -/
def send (c : Client) (method : Method) (path : String) (content : Option Content)
    (expected : Status) : Talk Answer := do
  let r ← liftExcept (c.request method path content)
  match ← ExceptT.lift (Dialogue.reply r) with
  | .error reasons => throw (.noAnswer r.url reasons)
  | .ok a => if a.status = expected then return a else throw (.refused a.status a.text)
where
  /-- A computation without requests as part of a dialogue. -/
  liftExcept {α : Type} (x : Except ClientFault α) : Talk α := ExceptT.mk (pure x)

/-- Reads the body of an answer. -/
def decodeBody {α : Type} (decode : String → Except Json.Problem α) (a : Answer) : Talk α :=
  match decode (String.ofList (Json.ofBytes a.body)) with
  | .ok x => return x
  | .error p => throw (.undecodable p)

/-- The path of all buckets. -/
def bucketsPath : String := "/api/v2/buckets"

/-- The buckets of the server. -/
def list (c : Client) : Talk (List Bucket) := do
  let a ← c.send .get bucketsPath none .ok
  return (← decodeBody BucketListing.decode a).buckets

/-- The buckets that the server did not make for its own use. -/
def userBuckets (c : Client) : Talk (List Bucket) := do
  return (← c.list).filter fun b => !b.isSystem

/-- There is a bucket of a user with a name. -/
def hasBucket (c : Client) (name : String) : Talk Bool := do
  return (← c.userBuckets).any fun b => b.name = name

/-- Makes a bucket of a user, which keeps its data forever. -/
def createBucket (c : Client) (organization name : String) : Talk Bucket := do
  let content := ⟨"application/json", (BucketRequest.forUser organization name).encode⟩
  let a ← c.send .post bucketsPath (some content) .created
  decodeBody Bucket.decode a

/-- Removes the bucket with an identifier. -/
def deleteBucket (c : Client) (id : String) : Talk Unit := do
  let _ ← c.send .delete (bucketsPath ++ "/" ++ id) none .noContent

/-- Removes the buckets of users with a name, and says whether there was one. -/
def removeByName (c : Client) (name : String) : Talk Bool := do
  let targets := (← c.userBuckets).filter fun b => b.name = name
  targets.forM fun b => c.deleteBucket b.id
  return !targets.isEmpty

end Client

end FluxCorpus
