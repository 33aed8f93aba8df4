/-!
# The environment of a run

Variables with their values.  A variable that is set stays as it is: adding it again changes
nothing.
-/

namespace FluxCorpus

/-- The variables that are set, in the order in which they were set. -/
structure Environment where
  entries : List (String × String)
deriving DecidableEq, Repr

namespace Environment

/-- The value of a variable. -/
def get? (e : Environment) (name : String) : Option String :=
  (e.entries.find? fun v => v.1 = name).map Prod.snd

/-- Sets a variable, unless it is set. -/
def add (e : Environment) (name value : String) : Environment :=
  if (e.get? name).isSome then e else ⟨e.entries ++ [(name, value)]⟩

end Environment

end FluxCorpus
