import FluxCorpus.Config

/-!
# The arguments of the program

The program has three commands.  `generate` writes a corpus, `query-types` lists what a corpus can
be made of, and `bucket` looks after the buckets of a server.  The options about log messages can be
given anywhere, those about the server anywhere behind `bucket`.
-/

namespace FluxCorpus.Program

open CommandLine

/-- The options that every command has. -/
def commonOptions : List Setting :=
  [{ name := "log-filter", envName := some "LOG_FILTER", check := Reader.text.check },
    { name := "verbose", letter := some 'v', kind := .count },
    helpOption]

/-- The command that writes a corpus. -/
def generateCommand : Command := { options := Config.options ++ commonOptions }

/-- The command that lists query types. -/
def queryTypesCommand : Command :=
  { options := { name := "use-case", envName := some "INFLUX2_QUERY_GEN_USE_CASE",
                  check := Reader.useCase.check } :: commonOptions }

/-- The options that say which server is meant and how to be let in. -/
def serverOptions : List Setting :=
  [{ name := "host", letter := some 'H', envName := some "INFLUX2_HOST_URL",
      fallback := some "http://localhost:8086", check := Reader.url.check },
    { name := "token", envName := some "INFLUX2_AUTH_TOKEN", check := Reader.text.check }]

/-- The name of a bucket. -/
def bucketName : Setting :=
  { name := "name", fallback := some "benchmark", check := Reader.text.check }

/-- The command that makes a bucket. -/
def createCommand : Command :=
  { options := { name := "org-id", envName := some "INFLUX2_ORG_ID", required := true,
                  check := Reader.text.check } :: serverOptions ++ commonOptions
    operands := [bucketName] }

/-- The command that removes a bucket. -/
def deleteCommand : Command :=
  { options := serverOptions ++ commonOptions
    operands := [bucketName] }

/-- The command for the buckets of a server. -/
def bucketCommand : Command :=
  { options := serverOptions ++ commonOptions
    subcommands := [("list", { options := serverOptions ++ commonOptions }),
      ("create", createCommand), ("delete", deleteCommand)]
    subcommandRequired := true }

/-- The whole program. -/
def command : Command :=
  { options := commonOptions ++ [versionOption]
    subcommands := [("generate", generateCommand), ("query-types", queryTypesCommand),
      ("bucket", bucketCommand)] }

/-- What to do with the buckets of a server. -/
inductive BucketTask
  | list
  | create (organization name : String)
  | delete (name : String)
deriving DecidableEq, Repr

/-- What to do. -/
inductive Task
  | nothing
  | generate (config : Config)
  | queryTypes (useCase : Option UseCase)
  | bucket (host : Url) (token : String) (task : BucketTask)
deriving DecidableEq, Repr

/-- What to do, and which log messages to show. -/
structure Order where
  task : Task
  logFilter : String
deriving DecidableEq, Repr

/-- The filter of log messages.  To ask for more messages counts more than any filter that is
given. -/
def logFilter (r : Reading) : String :=
  match r.count "verbose" with
  | 0 => (r.text? "log-filter").getD "warn"
  | 1 => "info"
  | 2 => "debug"
  | _ => "trace"

/-- The task with a bucket in what was given. -/
def bucketTask (r : Reading) : List String → Except Refusal BucketTask
  | "list" :: _ => return .list
  | "create" :: _ => return .create (← r.get "org-id" .text) (← r.get "name" .text)
  | "delete" :: _ => return .delete (← r.get "name" .text)
  | _ => throw .missingSubcommand

/-- The task in what was given. -/
def task (r : Reading) : Except Refusal Task :=
  match r.path with
  | "generate" :: _ => return .generate (← Config.ofReading r)
  | "query-types" :: _ => return .queryTypes (← r.get? "use-case" .useCase)
  | "bucket" :: rest =>
    return .bucket (← r.get "host" .url) ((← r.get? "token" .text).getD "") (← bucketTask r rest)
  | _ => return .nothing

/-- Reads the arguments of the program. -/
def readArguments (env : String → Option String) (args : List String) : Except Refusal Order := do
  let r ← command.read env args
  return ⟨← task r, logFilter r⟩

end FluxCorpus.Program
