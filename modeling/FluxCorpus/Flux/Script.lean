import FluxCorpus.Time.Interval

/-!
# The layout of a script

A script is a list of paragraphs, and a paragraph a list of lines.  Every line is introduced by a
line break and a tab, and paragraphs are set apart by one more line break.
-/

namespace FluxCorpus.Flux

/-- The lines of one paragraph. -/
def paragraph : List String → String
  | [] => ""
  | l :: ls => "\n\t" ++ l ++ paragraph ls

/-- Paragraphs with a blank line between them. -/
def paragraphs : List (List String) → String
  | [] => ""
  | [p] => paragraph p
  | p :: ps => paragraph p ++ "\n" ++ paragraphs ps

/-- The line that reads the benchmark's bucket. -/
def fromBenchmark : String := "from(bucket: \"benchmark\")"

/-- The line that selects the records in a range of time. -/
def range (arguments : String) : String := "|> range(" ++ arguments ++ ")"

/-- The line that selects all records. -/
def rangeAll : String := range "start: 0"

/-- The range before a text of a time. -/
def boundsBefore (stop : String) : String := "start: 0, stop: " ++ stop

/-- The range between the bounds of an interval. -/
def boundsOf (i : Interval) : String := "start: " ++ i.startText ++ ", stop: " ++ i.stopText

/-- The line that selects the records before a text of a time. -/
def rangeBefore (stop : String) : String := range (boundsBefore stop)

/-- The line that selects the records of an interval. -/
def rangeOf (i : Interval) : String := range (boundsOf i)

/-- The line that selects the records that meet a condition. -/
def filter (condition : String) : String := "|> filter(fn: (r) => " ++ condition ++ ")"

/-- The line that makes a column of every field. -/
def pivotFields : String :=
  "|> pivot(rowKey:[\"_time\"], columnKey: [\"_field\"], valueColumn: \"_value\")"

end FluxCorpus.Flux
