import ClusterGraph.CommandLine.Program
import Std.Time.DateTime.Timestamp

/-!
# ClusterGraph.Main

**The program: it looks at the world, runs `Program.run` on what it saw, and says what came
of it.**

Nothing is decided here. No database protocol is spoken either, so every database is one that
does not answer.
-/

namespace ClusterGraph.Program

/-- The text of a file, or `none` if it cannot be read. -/
def readText (name : String) : IO (Option String) := do
  try
    return some (← IO.FS.readFile name)
  catch _ =>
    return none

/-- The variables that the program reads: `fileVariable` and `variableNames`. -/
def readVariables : IO Variables := do
  let mut environment := Dict.empty
  for name in fileVariable :: Settings.variableNames do
    if let some value ← IO.getEnv name then
      environment := environment.insert name value
  return environment

/-- A hash of 32 hexadecimal digits from 16 random bytes, for `madeUpHash`. -/
def makeUpHash : IO String := do
  let bytes ← IO.getRandomBytes 16
  return String.ofList <| bytes.toList.flatMap fun b =>
    [Nat.digitChar (b.toNat / 16), Nat.digitChar (b.toNat % 16)]

/-- The time, in whole seconds. -/
def readClock : IO Instant := do
  let t ← Std.Time.Timestamp.now
  return ⟨t.toSecondsSinceUnixEpoch.val, 0⟩

/-- The settings file that a command line makes `carryOut` read. -/
def filesOf (environment : Variables) (words : List String) : List String :=
  match Invocation.parse (environment.find? fileVariable) words with
  | .ok i => [i.file.getD Settings.usualFile]
  | .error _ => []

/-- Read the world that `Program.run` needs. There is no database behind it: the first reply is
silence. -/
def look (words : List String) : IO (Outside Unit) := do
  let environment ← readVariables
  let extra ← readText variablesFile
  let filled := (extra.map environment.withFile).getD environment
  let mut texts : Dict String := Dict.empty
  for name in filesOf filled words do
    if let some text ← readText name then
      texts := texts.insert name text
  if let some text := extra then
    texts := texts.insert variablesFile text
  return {
    environment
    fileText := texts.find?
    madeUpHash := ← makeUpHash
    now := ← readClock
    database := fun _ s => (.error (.database none), s)
    first := fun _ => .silence
  }

/-- The usage text, which names the words of all tasks. -/
def usageText : String :=
  String.intercalate "\n"
    [ "Keep the state of a Kubernetes cluster in a Neo4j graph",
      "",
      "Usage: kubegraph [--config FILE] TASK",
      "",
      "Tasks: " ++ String.intercalate ", " (Task.all.map Task.word) ]

/-- Print the lines of an outcome, or its error. -/
def report : Outcome → IO Unit
  | .finished lines => lines.forM fun line => IO.println line
  | .failed e => IO.eprintln ("Error: " ++ e.message?.getD "the database reported a failure")
  | .refused .help => IO.println usageText
  | .refused .usage => IO.eprintln usageText

end ClusterGraph.Program

/-- Run `Program.run` on the words of a command line, and return its exit code. -/
def main (words : List String) : IO UInt32 := do
  let world ← ClusterGraph.Program.look words
  let outcome := ClusterGraph.Program.run world words
  ClusterGraph.Program.report outcome
  return UInt32.ofNat outcome.exitCode
