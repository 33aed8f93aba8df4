import FluxCorpus.Program.Run

/-!
# The program

Carries out what `Program.run` decides.  No network can be reached from here, so every request meets
the reply of a computer without a route.
-/

namespace FluxCorpus

/-- The variables that the program can be asked to read: those of its options, and all that a file
of variables mentions. -/
def mentioned (definitions : Option String) : List String :=
  let settings := Config.options ++ Program.commonOptions ++ Program.createCommand.options
  let text := (definitions.getD "").toList
  let names := Text.pieces (fun c => !Environment.isNameChar c) text
    ++ Text.pieces (fun c => !Text.isAlphanumeric c) text
  settings.filterMap (·.envName) ++ names.map String.ofList

/-- The values of those variables that are set. -/
def readEnvironment (names : List String) : IO Environment := do
  let pairs ← names.eraseDups.filterMapM fun name => do
    if name.isEmpty then return none
    return (← IO.getEnv name).map fun value => (name, value)
  return ⟨pairs⟩

/-- The text of the file of variables in the current folder or the nearest one above it. -/
def readDefinitions : IO (Option String) := do
  for above in List.range 32 do
    let path := String.join (List.replicate above "../") ++ ".env"
    try
      return some (← IO.FS.readFile path)
    catch _ => pure ()
  return none

/-- The reason for which a file could not be opened. -/
def fileProblem : IO.Error → FileProblem
  | .noFileOrDirectory .. => .missingFolder
  | .inappropriateType _ 20 _ => .notInFolder
  | .inappropriateType .. => .isFolder
  | .permissionDenied .. => .denied
  | .invalidArgument _ 36 _ => .nameTooLong
  | e => .other e.toString

/-- Carries out an action as far as the report that it leads to. -/
def perform : Program.Action → IO Program.Report
  | .finish r => return r
  | .save path text saved unsaved => do
    try
      IO.FS.writeFile path text
      return saved
    catch e => return unsaved (fileProblem e)
  | .talk d => return (d.play Http.noRoute []).result

end FluxCorpus

open FluxCorpus in
/-- Runs the program and prints its report. -/
def main (arguments : List String) : IO UInt32 := do
  let definitions ← readDefinitions
  let environment ← readEnvironment (mentioned definitions)
  let clockSeed : Int := (← IO.monoNanosNow) + 1
  -- a run without an action draws words for ever and does not get here
  let some action := Program.run { arguments, environment, definitions, clockSeed } | return 1
  let report ← perform action
  IO.print report.out
  IO.eprint report.err
  return report.status.toUInt32
