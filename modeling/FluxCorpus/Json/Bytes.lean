import FluxCorpus.Json.Token

/-!
# Bytes as JSON

JSON that comes as bytes is read without a look at those that nobody asked for: a string that is
passed over may hold bytes that are no characters, and one that is read may not.  Half a pair of
surrogates is treated in the same way, so this is what stands in the text for such bytes.
-/

namespace FluxCorpus.Json

/-- What stands for bytes that are no character: the second half of a pair of surrogates without the
first.  The letter in front of it is out of place everywhere but inside a string. -/
def unreadable : List Char := ['x', '\\', 'u', 'd', 'c', '0', '0']

/-- The text of characters and of what is none. -/
def ofUnits (units : List (Option Char)) : List Char :=
  units.flatMap fun
    | some c => [c]
    | none => unreadable

/-- The text of bytes. -/
def ofBytes (bs : List UInt8) : List Char := ofUnits (Text.Utf8.units bs)

end FluxCorpus.Json
