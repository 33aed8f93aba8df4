/-!
# Use cases

A workload is about the hosts of a data centre or about the trucks of a fleet.
-/

namespace FluxCorpus

/-- The family that a query belongs to. -/
inductive UseCase
  | devops
  | iot
deriving DecidableEq, Repr

namespace UseCase

/-- The name of a use case. -/
def name : UseCase → String
  | devops => "devops"
  | iot => "iot"

/-- All use cases. -/
def all : List UseCase := [devops, iot]

/-- The text with its ASCII letters in lower case. -/
def lowerAscii (s : String) : String := String.ofList (s.toList.map Char.toLower)

/-- The use case of a name, in which the case of ASCII letters may be ignored. -/
def ofName? (ignoreCase : Bool) (s : String) : Option UseCase :=
  all.find? fun u => if ignoreCase then lowerAscii s = u.name else s = u.name

/-- The message about a text that names no use case. -/
def unknownMessage (s : String) : String := "invalid variant: " ++ s

end UseCase

end FluxCorpus
