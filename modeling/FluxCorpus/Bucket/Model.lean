import FluxCorpus.Json.Shape

/-!
# Buckets and what is said about them

The messages about buckets that are exchanged with a server.  Each type has a `shape`, a function to
its datum and one back, and through them `encode` and `decode` between values and JSON.
-/

namespace FluxCorpus

open Json (Datum Shape Problem)

/-- Reads a list of data item by item. -/
def Json.items? {α : Type} (f : Datum → Option α) (ds : List Datum) : Option (List α) := ds.mapM f

/-- The value in a datum that was read, or a mismatch. -/
def Json.fromDatum {α : Type} (f : Datum → Option α) (d : Datum) : Except Problem α :=
  match f d with
  | some a => return a
  | none => throw .mismatch

/-! ## A bucket -/

/-- A bucket of a server, as far as it matters here. -/
structure Bucket where
  id : String
  name : String
  kind : String
deriving DecidableEq, Repr

namespace Bucket

/-- The server made this bucket for its own use. -/
def isSystem (b : Bucket) : Bool := b.kind = "system"

/-- Only the name of a bucket must be given. -/
def shape : Shape :=
  .record [("id", some (.text ""), .text), ("name", none, .text), ("type", some (.text ""), .text)]

/-- A bucket as a datum. -/
def toDatum (b : Bucket) : Datum := .record [.text b.id, .text b.name, .text b.kind]

/-- The bucket of a datum. -/
def ofDatum? : Datum → Option Bucket
  | .record [.text id, .text name, .text kind] => some ⟨id, name, kind⟩
  | _ => none

/-- A bucket as JSON. -/
def encode (b : Bucket) : String := shape.encode b.toDatum

/-- Reads a bucket from JSON. -/
def decode (s : String) : Except Problem Bucket := do Json.fromDatum ofDatum? (← shape.decode s)

end Bucket

/-! ## A listing -/

/-- The answer to a request for the buckets of a server. -/
structure BucketListing where
  buckets : List Bucket
deriving DecidableEq, Repr

namespace BucketListing

/-- A listing without its member is empty. -/
def shape : Shape := .record [("buckets", some (.list []), .list Bucket.shape)]

/-- A listing as a datum. -/
def toDatum (l : BucketListing) : Datum := .record [.list (l.buckets.map Bucket.toDatum)]

/-- The listing of a datum. -/
def ofDatum? : Datum → Option BucketListing
  | .record [.list ds] => (Json.items? Bucket.ofDatum? ds).map BucketListing.mk
  | _ => none

/-- A listing as JSON. -/
def encode (l : BucketListing) : String := shape.encode l.toDatum

/-- Reads a listing from JSON. -/
def decode (s : String) : Except Problem BucketListing := do
  Json.fromDatum ofDatum? (← shape.decode s)

end BucketListing

/-! ## A rule of retention -/

/-- How long the data of a bucket are kept. -/
structure RetentionRule where
  kind : String
  everySeconds : Int
deriving DecidableEq, Repr

namespace RetentionRule

/-- Both members of a rule must be given. -/
def shape : Shape := .record [("type", none, .text), ("everySeconds", none, .integer)]

/-- A rule as a datum. -/
def toDatum (r : RetentionRule) : Datum := .record [.text r.kind, .integer r.everySeconds]

/-- The rule of a datum. -/
def ofDatum? : Datum → Option RetentionRule
  | .record [.text kind, .integer everySeconds] => some ⟨kind, everySeconds⟩
  | _ => none

/-- A rule as JSON. -/
def encode (r : RetentionRule) : String := shape.encode r.toDatum

/-- Reads a rule from JSON. -/
def decode (s : String) : Except Problem RetentionRule := do
  Json.fromDatum ofDatum? (← shape.decode s)

end RetentionRule

/-! ## A bucket to be made -/

/-- A request to make a bucket. -/
structure BucketRequest where
  name : String
  organization : String
  kind : String
  retentionRules : List RetentionRule
  description : String
deriving DecidableEq, Repr

namespace BucketRequest

/-- The request for a bucket of a user that keeps its data forever. -/
def forUser (organization name : String) : BucketRequest :=
  ⟨name, organization, "user", [], "tsbs load test"⟩

/-- Every member of a request must be given. -/
def shape : Shape :=
  .record [("name", none, .text), ("orgID", none, .text), ("type", none, .text),
    ("retentionRules", none, .list RetentionRule.shape), ("description", none, .text)]

/-- A request as a datum. -/
def toDatum (r : BucketRequest) : Datum :=
  .record [.text r.name, .text r.organization, .text r.kind,
    .list (r.retentionRules.map RetentionRule.toDatum), .text r.description]

/-- The request of a datum. -/
def ofDatum? : Datum → Option BucketRequest
  | .record [.text name, .text organization, .text kind, .list rules, .text description] =>
    (Json.items? RetentionRule.ofDatum? rules).map fun rs =>
      ⟨name, organization, kind, rs, description⟩
  | _ => none

/-- A request as JSON. -/
def encode (r : BucketRequest) : String := shape.encode r.toDatum

/-- Reads a request from JSON. -/
def decode (s : String) : Except Problem BucketRequest := do
  Json.fromDatum ofDatum? (← shape.decode s)

end BucketRequest

end FluxCorpus
