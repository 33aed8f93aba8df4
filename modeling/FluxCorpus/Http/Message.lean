import FluxCorpus.Http.Status
import FluxCorpus.Text.Charset
import FluxCorpus.Url.Basic

/-!
# Requests and answers

What is sent to a server and what comes back.
-/

namespace FluxCorpus.Http

/-- What a request does at its target. -/
inductive Method
  | get
  | post
  | delete
deriving DecidableEq, Repr

/-- The name of a method. -/
def Method.name : Method → String
  | get => "GET"
  | post => "POST"
  | delete => "DELETE"

/-- A text that is sent along, and the name of the format it is in. -/
structure Content where
  type : String
  text : String
deriving DecidableEq, Repr

/-- A request to a server. -/
structure Request where
  method : Method
  url : Url
  authorization : Option String
  content : Option Content
deriving DecidableEq, Repr

/-- The answer of a server. -/
structure Answer where
  status : Status
  /-- The name of the format of the body. -/
  contentType : Option String
  body : List UInt8
deriving DecidableEq, Repr

open Text

/-- The value of a parameter, which may stand between quotes. -/
def unquoted (cs : List Char) : List Char :=
  match cs with
  | '"' :: rest =>
    match rest.reverse with
    | '"' :: inner => inner.reverse
    | _ => cs
  | _ => cs

/-- The character set that the name of a format gives as a parameter. -/
def charsetOf (contentType : String) : Option String :=
  ((pieces (· = ';') contentType.toList).tail.map (cut '=')).findSome? fun (name, value) =>
    if (trim (· = ' ') name).map Char.toLower = "charset".toList then
      value.map fun v => String.ofList (unquoted (trim (· = ' ') v))
    else none

/-- The body of an answer as text for the user. -/
def Answer.text (a : Answer) : String :=
  (Charset.ofLabel ((a.contentType.bind charsetOf).getD "utf-8")).decode a.body

/-- What becomes of a request: an answer, or the reasons why none came, the outermost first. -/
abbrev Reply := Except (List String) Answer

/-- The reply on a computer from which no server can be reached. -/
def noRoute : Reply :=
  .error ["error trying to connect", "tcp connect error", "Network is unreachable (os error 101)"]

end FluxCorpus.Http
