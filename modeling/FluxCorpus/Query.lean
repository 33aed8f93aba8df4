import FluxCorpus.Json.Writer
import FluxCorpus.Text.Decimal

/-!
# Query records

A `Query` is a request that a benchmark can send again, with a label and a description for the
reader.  In a corpus it is one line of JSON that starts with its number.
-/

namespace FluxCorpus

/-- A request to a database, with what it is about. -/
structure Query where
  humanLabel : String
  humanDescription : String
  method : String
  path : String
  rawQuery : String
  body : String
deriving DecidableEq, Repr

namespace Query

/-- The record with nothing in it. -/
def empty : Query := ⟨"", "", "", "", "", ""⟩

/-- Nothing in a record is filled in. -/
def isEmpty (q : Query) : Bool := q = empty

/-- The record of a Flux script: it is posted to the query path, as both raw text and body. -/
def ofFlux (label description flux : String) : Query where
  humanLabel := label
  humanDescription := description
  method := "POST"
  path := "/api/v2/query"
  rawQuery := flux
  body := flux

/-- The fields of a record with their names, in the order in which they are written. -/
def fields (q : Query) : List (String × String) :=
  [("humanLabel", q.humanLabel), ("humanDescription", q.humanDescription), ("method", q.method),
    ("path", q.path), ("rawQuery", q.rawQuery), ("body", q.body)]

/-- The members of a record as a JSON object. -/
def members (q : Query) : List (String × List Char) :=
  q.fields.map fun f => (f.1, Json.string f.2)

/-- A record as JSON. -/
def json (q : Query) : String := String.ofList (Json.object q.members)

/-- A record as JSON, with its number as the first member. -/
def numberedJson (q : Query) (id : Nat) : String :=
  String.ofList (Json.object (("id", Text.Decimal.digits id) :: q.members))

end Query

end FluxCorpus
