import FluxCorpus.Text.Pieces
import FluxCorpus.Url.Host

/-!
# URLs

The parts of a URL, each in the form in which it is written, and the text of the whole.
-/

namespace FluxCorpus

/-- What a URL names within its host: a list of segments, or a text without structure. -/
inductive UrlPath
  | segments (ss : List String)
  | unstructured (s : String)
deriving DecidableEq, Repr

/-- A URL that stands for itself. -/
structure Url where
  scheme : String
  user : String := ""
  password : Option String := none
  /-- A URL may have a host with an empty name, which is not the same as no host. -/
  host : Option Host := none
  /-- The port, unless it is the usual one of the scheme. -/
  port : Option Nat := none
  path : UrlPath
  query : Option String := none
  fragment : Option String := none
deriving DecidableEq, Repr

/-- The path as it stands in a URL. -/
def UrlPath.text : UrlPath → String
  | segments ss => String.join (ss.map fun s => "/" ++ s)
  | unstructured s => s

namespace Url

/-- The usual port of a scheme that means a host on the internet. -/
def usualPort? : String → Option Nat
  | "http" => some 80
  | "https" => some 443
  | "ws" => some 80
  | "wss" => some 443
  | "ftp" => some 21
  | _ => none

/-- The URL says which host it means. -/
def hasHost (u : Url) : Bool :=
  match u.host with
  | none => false
  | some h => h ≠ .name ""

/-- The user and the password, if there are any, up to the sign that ends them. -/
def credentials (u : Url) : String :=
  if u.user = "" ∧ u.password = none then ""
  else u.user ++ (u.password.elim "" fun p => ":" ++ p) ++ "@"

/-- What stands between the scheme and the path.  A path that begins with an empty segment is kept
apart from the scheme, as it would look like a host. -/
def authority (u : Url) : String :=
  match u.host, u.path with
  | some h, _ =>
    "//" ++ u.credentials ++ String.ofList h.chars
      ++ u.port.elim "" fun p => ":" ++ Text.Decimal.text p
  | none, .segments ("" :: _ :: _) => "/."
  | none, _ => ""

/-- The path and the query. -/
def target (u : Url) : String := u.path.text ++ u.query.elim "" fun q => "?" ++ q

/-- The whole URL. -/
def text (u : Url) : String :=
  u.scheme ++ ":" ++ u.authority ++ u.target ++ u.fragment.elim "" fun f => "#" ++ f

/-- The URL without user and password. -/
def withoutCredentials (u : Url) : Url := { u with user := "", password := none }

end Url

end FluxCorpus
