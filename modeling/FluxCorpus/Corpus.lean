import FluxCorpus.QueryType

/-!
# Corpora

A corpus is a text of queries of one type, one JSON object a line, numbered from 1.  Each query is
composed on an empty record, by one and the same generator; the first one that cannot be composed
ends the corpus.
-/

namespace FluxCorpus

/-- A corpus as far as it was composed. -/
structure Corpus where
  /-- The lines, the last one first. -/
  lines : List String
  generator : Generator
  /-- Why the corpus ends before its time. -/
  failure : Option Stop := none
deriving DecidableEq

namespace Corpus

/-- The corpus of a generator that has not composed anything. -/
def empty (g : Generator) : Corpus := ⟨[], g, none⟩

/-- The number of the next query. -/
def nextNumber (c : Corpus) : Nat := c.lines.length + 1

/-- Composes one more query, with a given number. -/
def extend (t : QueryType) (number : Nat) (c : Corpus) : Option Corpus := do
  match ← t.compose.outcome ⟨c.generator, Query.empty⟩ with
  | (.ok _, d) => return ⟨d.record.numberedJson number :: c.lines, d.generator, none⟩
  | (.error e, d) => return { c with generator := d.generator, failure := some e }

/-- Composes `count` more queries, numbered from `number` on. -/
def extendBy (t : QueryType) (number : Nat) : Nat → Corpus → Option Corpus
  | 0, c => return c
  | count + 1, c => do
    let c ← extend t number c
    if c.failure.isSome then return c else extendBy t (number + 1) count c

/-- The corpus of `count` queries of a type, if every query comes to an end. -/
def compose (t : QueryType) (count : Nat) (g : Generator) : Option Corpus :=
  extendBy t 1 count (empty g)

/-- The text of a corpus: every line with its end. -/
def text (c : Corpus) : String :=
  String.join (c.lines.reverse.map fun l => l ++ "\n")

end Corpus

end FluxCorpus
