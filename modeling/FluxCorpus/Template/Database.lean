/-!
# The database

What all templates say about the database that they are written for.
-/

namespace FluxCorpus

/-- The name of the database, at the head of every label. -/
def databaseName : String := "Influx 2.x"

end FluxCorpus
