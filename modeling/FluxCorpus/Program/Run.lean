import FluxCorpus.Bucket.Client
import FluxCorpus.Corpus
import FluxCorpus.Environment.File
import FluxCorpus.Files
import FluxCorpus.LogFilter
import FluxCorpus.Program.Arguments
import FluxCorpus.Text.Aligned

/-!
# A run of the program

`run` decides everything that happens in a run before it happens.  Its result is an `Action`: either
the run is over, with what it prints, or a file has to be saved first, or a server has to be talked
to.  Whoever carries out the action goes on with the report that it leads to.  A run that draws
words for ever has no action.
-/

namespace FluxCorpus.Program

open Http (Dialogue)
open Text.Quoted (quote)

/-- How a run ends: the status for the caller, and what was printed. -/
structure Report where
  status : Nat := 0
  out : String := ""
  err : String := ""
deriving DecidableEq, Repr

/-- The end of a run that failed. -/
def Report.failure (message : String) : Report := { status := 1, err := message ++ "\n" }

/-- The end of a run that came to a step that should never have been asked for. -/
def Report.breach (message : String) : Report := { status := 101, err := message ++ "\n" }

/-- What has to happen. -/
inductive Action
  | finish (report : Report)
  | save (path text : String) (saved : Report) (unsaved : FileProblem → Report)
  | talk (dialogue : Dialogue Report)

/-- What a run is given. -/
structure Invocation where
  arguments : List String
  environment : Environment
  /-- The text of the file of variables, if there is one. -/
  definitions : Option String := none
  /-- The seed for a run that is not given one. -/
  clockSeed : Int

/-! ## Generating -/

/-- What is needed for a corpus: the query type and a generator, once everything has been checked
that can be checked in advance. -/
def prepare (clockSeed : Int) (c : Config) : Except Stop (QueryType × Generator) := do
  c.validate
  let t ← Stop.ofCheck c.resolve
  let g ← c.generator (c.effectiveSeed.getD clockSeed)
  return (t, g)

/-- The end of a run that was stopped. -/
def stopReport (context : String) : Stop → Report
  | .fault f => .failure ("Generate command failed: " ++ context ++ f.message)
  | .breach b => .breach b.message
  | .exhausted => .breach "no more words to draw from"

/-- The end of a run that has composed a corpus, apart from the text of the corpus. -/
def corpusReport (t : QueryType) (context : String) (c : Corpus) : Report :=
  c.failure.elim {} <| stopReport <|
    context ++ "generating query " ++ Text.Decimal.text c.nextNumber ++ " of type " ++ t.name ++ ": "

/-- Writes a corpus to a file or prints it. -/
def deliver (t : QueryType) (file : Option String) (corpus : Corpus) : Action :=
  match file with
  | none => .finish { corpusReport t "" corpus with out := corpus.text }
  | some path =>
    .save path corpus.text (corpusReport t ("writing queries to " ++ path ++ ": ") corpus)
      fun p => .failure ("Generate command failed: creating output file " ++ path ++ ": "
        ++ p.message)

/-- Composes a corpus and delivers it. -/
def generate (clockSeed : Int) (c : Config) : Option Action :=
  match prepare clockSeed c with
  | .error e => some (.finish (stopReport "" e))
  | .ok (t, g) => (Corpus.compose t c.queries g).map (deliver t c.file)

/-! ## Listing -/

/-- A table of query types, a line each. -/
def table (ts : List QueryType) : String :=
  let width := ts.foldl (fun w t => max w t.name.length) 0
  String.join (ts.map fun t =>
    Text.alignLeft width t.name ++ "  " ++ Text.alignLeft 6 t.useCase.name ++ "  "
      ++ t.description ++ "\n")

/-- Prints the query types of a use case, or all. -/
def listQueryTypes (u : Option UseCase) : Report :=
  { out := table (u.elim QueryType.catalog QueryType.ofUseCase) }

/-! ## Looking after buckets -/

/-- The end of a run whose dialogue failed. -/
def bucketFailure (context : String) (f : ClientFault) : Report :=
  .failure ("Bucket command failed: " ++ context ++ f.report)

/-- The line for a bucket. -/
def bucketLine (b : Bucket) : String := b.name ++ "\t" ++ b.id ++ "\n"

/-- Prints the buckets of users. -/
def listBuckets (host : Url) (c : Client) : Dialogue Report := do
  match ← c.userBuckets.run with
  | .ok bs => return { out := String.join (bs.map bucketLine) }
  | .error f => return bucketFailure ("listing buckets on " ++ host.text ++ ": ") f

/-- Makes a bucket in the place of those of its name. -/
def createBucket (c : Client) (organization name : String) : Dialogue Report := do
  match ← (c.removeByName name).run with
  | .error f => return bucketFailure "" f
  | .ok _ =>
    match ← (c.createBucket organization name).run with
    | .ok b => return { out := bucketLine b }
    | .error f =>
      let context := "creating bucket " ++ quote name ++ " in org " ++ organization ++ ": "
      return bucketFailure context f

/-- Removes the buckets of a name. -/
def deleteBucket (c : Client) (name : String) : Dialogue Report := do
  match ← (c.removeByName name).run with
  | .ok true => return {}
  | .ok false => return { err := "bucket " ++ quote name ++ " does not exist\n" }
  | .error f => return bucketFailure ("deleting bucket " ++ quote name ++ ": ") f

/-- Carries out a task with a bucket. -/
def runBucketTask (host : Url) (token : String) (t : BucketTask) : Dialogue Report :=
  let c := Client.create host.text token
  match t with
  | .list => listBuckets host c
  | .create organization name => createBucket c organization name
  | .delete name => deleteBucket c name

/-! ## The whole -/

/-- The name and the version of the program. -/
def version : String := "influxdb2_query_generator 0.1.0\n"

/-- How the program is used. -/
def usage : String :=
  "Benchmark query generator for InfluxDB 2.x\n\n"
    ++ "Usage: influxdb2_query_generator [OPTIONS] [COMMAND]\n\n"
    ++ "Commands:\n"
    ++ "  generate     Generate benchmark queries\n"
    ++ "  query-types  List the query types that can be generated\n"
    ++ "  bucket       Manage buckets on an InfluxDB 2.x server\n"

/-- The end of a run whose arguments name no task. -/
def refusalReport : CommandLine.Refusal → Report
  | .displayHelp => { out := usage }
  | .displayVersion => { out := version }
  | r => { status := 2, err := "error: " ++ r.message ++ "\n" }

/-- Carries out a task. -/
def runTask (clockSeed : Int) : Task → Option Action
  | .nothing => some (.finish { out := "command required, -h/--help for help\n" })
  | .generate c => generate clockSeed c
  | .queryTypes u => some (.finish (listQueryTypes u))
  | .bucket host token t => some (.talk (runBucketTask host token t))

/-- The environment with the variables of the file. -/
def environment (i : Invocation) : Except Environment.Problem Environment :=
  match i.definitions with
  | none => return i.environment
  | some text => i.environment.load text

/-- The run of the program.  The file of variables comes first, then the arguments, then the filter
of log messages. -/
def run (i : Invocation) : Option Action :=
  match environment i with
  | .error (.badLine b) =>
    some (.finish (.failure ("FATAL Error loading config from: " ++ b.message ++ "\nAborting")))
  | .error p => some (.finish (.breach p.message))
  | .ok env =>
    match readArguments env.get? i.arguments with
    | .error r => some (.finish (refusalReport r))
    | .ok order =>
      match LogFilter.check order.logFilter with
      | .error .splitCharacter => some (.finish (.breach LogFilter.Problem.splitCharacter.message))
      | .error p => some (.finish (.failure ("Initializing logs failed: " ++ p.message)))
      | .ok () => runTask i.clockSeed order.task

end FluxCorpus.Program
