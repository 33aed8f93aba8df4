import FluxCorpus.Url.Basic

/-!
# Reading URLs

`Url.parse` cuts a text into the parts of a URL and brings each part into the form in which it is
written: characters that may not stand for themselves are percent-encoded, dots among the segments
of a path are resolved, and the usual port of a scheme is left out.
-/

namespace FluxCorpus.Url

open Text

/-! ## Which characters stand for themselves -/

/-- A visible character of ASCII that is not in a list. -/
def isPlainBut (others : String) (c : Char) : Bool :=
  ' ' < c && c ≤ '~' && !others.toList.contains c

/-- A character that stands for itself in a fragment. -/
def isFragmentChar : Char → Bool := isPlainBut "\"<>`"

/-- A character that stands for itself in a path. -/
def isPathChar : Char → Bool := isPlainBut "\"<>`#?\x7b\x7d"

/-- A character that stands for itself in a user or a password. -/
def isCredentialChar : Char → Bool := isPlainBut "\"<>`#?\x7b\x7d/:;=@[\\]^|"

/-- A character that stands for itself in a query. -/
def isQueryChar (internet : Bool) (c : Char) : Bool :=
  isPlainBut "\"#<>" c && !(internet && c = '\'')

/-- A text in which the characters of a class stand for themselves. -/
def encoded (plain : Char → Bool) (cs : List Char) : String :=
  String.ofList (Percent.encode plain cs)

/-! ## The parts -/

/-- The characters of a text that count: not the blanks and controls at its ends, and no tabs and
line ends at all. -/
def significant (cs : List Char) : List Char :=
  (trim (· ≤ ' ') cs).filter fun c => c ≠ '\t' ∧ c ≠ '\n' ∧ c ≠ '\r'

/-- A character of a scheme. -/
def isSchemeChar (c : Char) : Bool := c.isAlphanum || c = '+' || c = '-' || c = '.'

/-- The scheme of a URL in lower case, and the text behind the colon that ends it. -/
def scheme? (cs : List Char) : Option (String × List Char) :=
  match cs.span isSchemeChar with
  | (c :: name, ':' :: rest) =>
    if c.isAlpha then some (String.ofList ((c :: name).map Char.toLower), rest) else none
  | _ => none

/-- Cuts off a port: at the first colon that is not between brackets. -/
def cutPort (bracket : Bool) : List Char → List Char × Option (List Char)
  | [] => ([], none)
  | c :: cs =>
    if c = ':' ∧ bracket = false then ([], some cs)
    else
      let bracket := if c = '[' then true else if c = ']' then false else bracket
      let (before, behind) := cutPort bracket cs
      (c :: before, behind)

/-- Reads a port, which is nothing if it is missing or the usual one, and gives the text behind it.
A backslash ends it. -/
def readPort (usual : Option Nat) (cs : List Char) :
    Except UrlProblem (Option Nat × List Char) :=
  let (digits, rest) := cs.span (· ≠ '\\')
  if digits.isEmpty then return (none, rest)
  else match (Decimal.nat? digits).filter (· < 65536) with
    | some n => return (if usual = some n then none else some n, rest)
    | none => throw .invalidPort

/-- Cuts a text at the last at sign. -/
def cutCredentials (cs : List Char) : Option (List Char) × List Char :=
  match cs.reverse.span (· ≠ '@') with
  | (host, _ :: before) => (some before.reverse, host.reverse)
  | (_, []) => (none, cs)

/-- The user and the password before an at sign.  An empty password is none. -/
def readCredentials (cs : List Char) : String × Option String :=
  let (user, password) := cut ':' cs
  let password := password.filter fun p => !p.isEmpty
  (encoded isCredentialChar user, password.map (encoded isCredentialChar))

/-- A separator of segments. -/
def isSlash (internet : Bool) (c : Char) : Bool := c = '/' || (internet && c = '\\')

/-- The segment that stands for the place where it is. -/
def isHere (cs : List Char) : Bool := [".", "%2e"].contains (String.ofList (cs.map Char.toLower))

/-- The segment that stands for the place one up. -/
def isUp (cs : List Char) : Bool :=
  ["..", ".%2e", "%2e.", "%2e%2e"].contains (String.ofList (cs.map Char.toLower))

/-- A drive: a letter and a colon or a bar. -/
def isDrive : List Char → Bool
  | [c, d] => c.isAlpha && (d = ':' || d = '|')
  | _ => false

/-- A drive in the form in which it is written. -/
def driveForm (s : List Char) : List Char := if isDrive s then s.take 1 ++ [':'] else s

/-- The way up from a segment.  It does not lead out of a drive. -/
def leave : List (List Char) → List (List Char)
  | [] => []
  | s :: done => if isDrive (s.takeWhile (· ≠ '\\')) then s :: done else done

/-- Resolves the dots among segments.  `done` holds the segments so far, the last one first; dots at
the end leave an empty segment, and `form` is applied to the first segment. -/
def resolve (form : List Char → List Char) (done : List (List Char)) :
    List (List Char) → List (List Char)
  | [] => done.reverse
  | s :: rest =>
    let last := rest.isEmpty
    if isUp s then resolve form (if last then [] :: leave done else leave done) rest
    else if isHere s then resolve form (if last then [] :: done else done) rest
    else resolve form ((if done.isEmpty then form s else s) :: done) rest

/-- Reads a path behind its first slash. -/
def segments (internet : Bool) (cs : List Char) : UrlPath :=
  .segments ((resolve id [] (pieces (isSlash internet) cs)).map (encoded isPathChar))

/-- Reads the path of a URL with a host. -/
def pathOf (internet : Bool) : List Char → UrlPath
  | [] => if internet then .segments [""] else .segments []
  | _ :: cs => segments internet cs

/-! ## The whole -/

/-- Reads what stands behind the slashes before a host.  `more` says that something follows the
path. -/
def ofAuthority (scheme : String) (internet more : Bool) (cs : List Char) :
    Except UrlProblem Url := do
  let (authority, path) := cs.span fun c => !isSlash internet c
  let (before, hostPort) := cutCredentials authority
  if before = some [] && hostPort.isEmpty && (more || !path.isEmpty) then throw .emptyHost
  let (user, password) := before.elim ("", none) readCredentials
  let (hostText, portText) := cutPort false hostPort
  let nameless := hostText.isEmpty
  if nameless && (internet || portText.isSome || user ≠ "" || password.isSome) then
    throw .emptyHost
  let host ← if internet then Host.domain hostText else Host.other hostText
  let (port, rest) ← readPort (usualPort? scheme) (portText.getD [])
  let path := if rest.isEmpty then path else '/' :: rest ++ path
  return { scheme, user, password, host := some host, port, path := pathOf internet path }

/-- The URL of a file on a host.  A drive is always on this computer, and empty segments do not
stand at the beginning of its path. -/
def file (host : Host) (ss : List (List Char)) : Url :=
  let ss := resolve driveForm [] ss
  let host := if ss.head?.any isDrive then .name "" else host
  let ss := match ss.dropWhile List.isEmpty with
    | [] => [[]]
    | ss => ss
  { scheme := "file", host := some host, path := .segments (ss.map (encoded isPathChar)) }

/-- Reads the URL of a file.  The host of this computer goes without a name; the slash behind it
opens a segment of its own. -/
def ofFile (cs : List Char) : Except UrlProblem Url :=
  let here : Host := .name ""
  match cs.span (isSlash true) with
  | (_ :: _ :: more, rest) => do
    let cs := more ++ rest
    let (hostText, path) := cs.span fun c => !isSlash true c
    if isDrive hostText then return file here (pieces (isSlash true) cs)
    let host ← if hostText.isEmpty then pure here else Host.domain hostText
    if host = here || host = .name "localhost" then
      return file here (pieces (isSlash true) path)
    else return file host (pieces (isSlash true) (path.drop 1))
  | (_, rest) => return file here (pieces (isSlash true) rest)

/-- Reads the part of a URL between the scheme and the query. -/
def ofParts (scheme : String) (more : Bool) (cs : List Char) : Except UrlProblem Url :=
  if scheme = "file" then ofFile cs
  else if (usualPort? scheme).isSome then ofAuthority scheme true more (cs.dropWhile (isSlash true))
  else match cs with
    | '/' :: '/' :: cs => ofAuthority scheme false more cs
    | '/' :: cs => return { scheme, path := segments false cs }
    | cs => return { scheme, path := .unstructured (encoded (fun c => ' ' ≤ c ∧ c ≤ '~') cs) }

/-- Reads a URL. -/
def parse (s : String) : Except UrlProblem Url := do
  let (cs, fragment) := cut '#' (significant s.toList)
  let (cs, query) := cut '?' cs
  let some (scheme, rest) := scheme? cs | throw .relative
  let internet := (usualPort? scheme).isSome || scheme = "file"
  let u ← ofParts scheme (query.isSome || fragment.isSome) rest
  return { u with
    query := query.map (encoded (isQueryChar internet))
    fragment := fragment.map (encoded isFragmentChar) }

end FluxCorpus.Url
