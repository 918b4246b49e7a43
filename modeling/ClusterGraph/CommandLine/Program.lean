import ClusterGraph.Client.Connect
import ClusterGraph.CommandLine.Arguments
import ClusterGraph.Instance.Commands
import ClusterGraph.Resource.Kind
import ClusterGraph.Settings.Basic

/-!
# ClusterGraph.CommandLine.Program

**What the program does when it is started: read its settings, get in touch with the
database, and carry out one task.**

Design points:

* the world outside of the program is a value: variables, files, the time, and a database
  with what came of the first question to it. So a run of the program is a function;
* the first thing that fails ends the program with an error, and what went wrong is said in
  one line;
* following a cluster takes one that can be reached; the other tasks need the database only.
-/

namespace ClusterGraph

/-- All that the program reads of the world outside. -/
structure Outside (σ : Type) where
  environment : Variables
  /-- The text of the file with a name, if it can be read. -/
  fileText : String → Option String
  /-- The hash for an instance that is given none. -/
  madeUpHash : String
  now : Instant
  database : Database σ
  /-- The reply to the first question to the database. -/
  first : Settings → Reply σ

/-- Why `carryOut` failed. -/
inductive ProgramError where
  | settings (e : SettingsError)
  | command (e : CommandError)
  /-- The task `run` found no cluster to follow. -/
  | noCluster
deriving DecidableEq

/-- The text of the error, or `none` where it would be that of the database. -/
def ProgramError.message? : ProgramError → Option String
  | settings e => some e.message
  | command e => e.message?
  | noCluster => some "Failed to create Kubernetes client"

/-- How the program ended. -/
inductive Outcome where
  /-- The task was done, and printed `lines`. -/
  | finished (lines : List String)
  | failed (e : ProgramError)
  | refused (r : Refusal)
deriving DecidableEq

/-- The exit code: 0 after success and after help, 1 after a failure, 2 after a malformed command
line. -/
def Outcome.exitCode : Outcome → Nat
  | finished _ => 0
  | failed _ => 1
  | refused .help => 0
  | refused .usage => 2

namespace Program

/-- The variable that names the settings file. -/
def fileVariable : String := "KUBEGRAPH_CONFIG"

/-- The file that `withVariablesFile` reads. -/
def variablesFile : String := ".env"

/-- The width of the column of kinds in the lines of `counts`. -/
def kindWidth : Nat := 28

/-- The line of `counts` for a kind. -/
def countLine (c : KindCount) : String :=
  c.kind.pushn ' ' (kindWidth - c.kind.length) ++ " " ++ toString c.count

/-- The labels for which `ensureConstraints` is called: those of the kinds with a handler, and
`Cluster`. -/
def labels (s : Settings) : List String :=
  (Kind.watched s.eventDays).map Kind.name ++ [Label.cluster]

/-- The plan of a task, whose result is the lines to print. The task `run` has none, since it is not
made of calls alone. -/
def plan? (s : Settings) (now : Instant) :
    Task → Option (Plan (Except CommandError (List String)))
  | .run => none
  | .cleanup => some <|
      (Command.configured s.isGenerated
        (Retention.sweep s.identity ((Kind.watched s.eventDays).map Kind.name))).bind fun result =>
          .done (result.map fun _ => [])
  | .pruneEvents => some <|
      (Command.onStore (Retention.prune s.cluster s.eventDays now)).bind fun result =>
        .done (result.map fun _ => [])
  | .counts => some <|
      (Command.configured s.isGenerated (Command.counts s.identity)).bind fun result =>
        .done (result.map fun counts => counts.map countLine)

/-- Connect to the database and call `ensureConstraints`. -/
def open_ {σ : Type} (world : Outside σ) (s : Settings) : Except StoreError σ := do
  let state ← connect s.uri s.connectTimeout (world.first s)
  let (result, state) := world.database.ensureConstraints (labels s) state
  result.map fun _ => state

/-- Load the settings, open the database, and run the plan of the task. -/
def carryOut {σ : Type} (world : Outside σ) (i : Invocation) : Except ProgramError (List String) :=
  match Settings.load i.file world.fileText world.environment world.madeUpHash with
  | .error e => .error (.settings e)
  | .ok s =>
      match open_ world s with
      | .error e => .error (.command (.store e))
      | .ok state =>
          match plan? s world.now i.task with
          | none => .error .noCluster
          | some plan =>
              match (plan.run world.database.perform state).1 with
              | .error e => .error (.command e)
              | .ok lines => .ok lines

/-- The world with the variables of `variablesFile` in its environment (`withFile`). -/
def withVariablesFile {σ : Type} (world : Outside σ) : Outside σ :=
  match world.fileText variablesFile with
  | some text => { world with environment := world.environment.withFile text }
  | none => world

/-- Run the program on the words of a command line. -/
def run {σ : Type} (world : Outside σ) (words : List String) : Outcome :=
  let world := withVariablesFile world
  match Invocation.parse (world.environment.find? fileVariable) words with
  | .error r => .refused r
  | .ok i =>
      match carryOut world i with
      | .error e => .failed e
      | .ok lines => .finished lines

end Program

end ClusterGraph
