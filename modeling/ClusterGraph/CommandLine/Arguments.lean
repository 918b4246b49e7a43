/-!
# ClusterGraph.CommandLine.Arguments

**The words of a command line: one task, and options that may stand before and after it.**

Design points:

* words are read from the first to the last, and the first one that asks for help or makes
  no sense decides;
* the option for the settings file takes the next word, or what is attached to it. It may be
  given once on either side of the task, and then what comes after the task counts. Both come
  before the environment.
-/

namespace ClusterGraph

/-- A command of the program. -/
inductive Task where
  /-- The command `run`: follow the cluster until told to stop. -/
  | run
  /-- The command `cleanup`: delete what other instances of the cluster left. -/
  | cleanup
  /-- The command `prune-events`: delete expired events. -/
  | pruneEvents
  /-- The command `counts`: print the number of nodes of each kind. -/
  | counts
deriving DecidableEq

namespace Task

/-- All tasks, in the order of the usage text. -/
def all : List Task :=
  [run, cleanup, pruneEvents, counts]

/-- The word for the task on the command line. -/
def word : Task → String
  | run => "run"
  | cleanup => "cleanup"
  | pruneEvents => "prune-events"
  | counts => "counts"

/-- The task of which `s` is the `word`. -/
def ofWord? (s : String) : Option Task :=
  all.find? fun t => t.word = s

end Task

/-- A command line that was understood: the task and the settings file. -/
structure Invocation where
  task : Task
  /-- The settings file that `--config` or the environment names. -/
  file : Option String
deriving DecidableEq

/-- Why a command line is not carried out. The exit code depends on it. -/
inductive Refusal where
  /-- The command line has `--help` or `help`. -/
  | help
  /-- The command line is malformed. -/
  | usage
deriving DecidableEq

namespace Invocation

/-- What `read` has found so far. -/
structure Reading where
  task : Option Task
  /-- The file of a `--config` before the task. -/
  outer : Option String
  /-- The file of a `--config` after the task. -/
  inner : Option String

/-- Take the file of a `--config`. It must not be empty, and may be given once before the task and
once after it. -/
def Reading.nameFile (r : Reading) (file : String) : Except Refusal Reading :=
  if file.isEmpty then .error .usage
  else
    match r.task, r.outer, r.inner with
    | none, none, _ => .ok { r with outer := some file }
    | some _, _, none => .ok { r with inner := some file }
    | _, _, _ => .error .usage

/-- Take the word of the task, which may be given once. -/
def Reading.setTask (r : Reading) (word : String) : Except Refusal Reading :=
  match r.task, Task.ofWord? word with
  | none, some task => .ok { r with task := some task }
  | _, _ => .error .usage

/-- Whether the word begins with `-` and is more than that, so that it cannot be the file of a
`--config`. -/
def isOption (word : String) : Bool :=
  word ≠ "-" && word.startsWith "-"

/-- The file in `-cFILE` or `-c=FILE`, given what follows `-c`. -/
def attached (cs : List Char) : String :=
  match cs with
  | '=' :: rest => String.ofList rest
  | _ => String.ofList cs

/-- What a word of the command line means. -/
inductive Word where
  /-- The word is `--config` or `-c`, and the next one is the file. -/
  | fileOption
  /-- The word is `--config=FILE`, or `-c` with the file attached. -/
  | fileGiven (file : String)
  | help
  /-- The word is `--`. -/
  | endOfOptions
  | plain (word : String)
  | unknown

/-- The meaning of a word. -/
def Word.of (word : String) : Word :=
  if word = "--" then endOfOptions
  else if word = "--config" || word = "-c" then fileOption
  else if word = "--help" then help
  else
    match word.toList with
    | '-' :: '-' :: rest =>
        if "config=".toList.isPrefixOf rest then fileGiven (String.ofList (rest.drop 7))
        else unknown
    | '-' :: 'c' :: rest => fileGiven (attached rest)
    | '-' :: 'h' :: _ => help
    | ['-'] => plain word
    | '-' :: _ => unknown
    | _ => plain word

/-- Read the words after `help`: none, or the task that help is asked for. -/
def readHelp : List String → Refusal
  | [] => .help
  | [word] => if word = "help" || (Task.ofWord? word).isSome then .help else .usage
  | _ => .usage

/-- Read the words one by one. -/
def read (r : Reading) : List String → Except Refusal Reading
  | [] => .ok r
  | word :: rest =>
      match Word.of word with
      | .help => .error .help
      | .unknown => .error .usage
      | .endOfOptions => if rest.isEmpty then .ok r else .error .usage
      | .fileGiven file =>
          match r.nameFile file with
          | .ok r => read r rest
          | .error e => .error e
      | .fileOption =>
          match rest with
          | [] => .error .usage
          | file :: rest =>
              if isOption file then .error .usage
              else
                match r.nameFile file with
                | .ok r => read r rest
                | .error e => .error e
      | .plain word =>
          if r.task = none ∧ word = "help" then .error (readHelp rest)
          else
            match r.setTask word with
            | .ok r => read r rest
            | .error e => .error e

/-- Understand a command line, where `environment` is the settings file that a variable names. That
file must not be empty, unless both sides of the task have a `--config`. -/
def parse (environment : Option String) (words : List String) : Except Refusal Invocation := do
  let r ← read ⟨none, none, none⟩ words
  match r.task with
  | none => .error .usage
  | some task =>
      if environment = some "" && (r.outer.isNone || r.inner.isNone) then .error .usage
      else .ok ⟨task, (r.inner.or r.outer).or environment⟩

end Invocation

end ClusterGraph
