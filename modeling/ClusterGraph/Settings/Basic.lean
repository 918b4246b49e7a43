import ClusterGraph.Graph.NodeRef
import ClusterGraph.Settings.File
import ClusterGraph.Settings.Variables
import ClusterGraph.Time.Span

/-!
# ClusterGraph.Settings.Basic

**The settings of an instance: the environment comes first, then the file, then the defaults.**

Design points:

* a file that is named has to be there, and the usual one need not be. One that cannot be
  understood counts as empty;
* a number in the environment that cannot be read counts as not given, but a text that is
  given always counts, even an empty one;
* intervals and the number of workers are at least one, and events are kept for a century at
  most;
* a cluster must have a name, and one of blanks is none. An instance without a hash gets one
  made up, and it is remembered that it was.
-/

namespace ClusterGraph

/-- The settings of an instance, after the environment and the file have been read. -/
structure Settings where
  uri : String
  user : String
  password : String
  database : String
  maxConnections : Nat
  fetchSize : Nat
  connectTimeout : Span
  cluster : String
  instanceHash : String
  /-- Whether `instanceHash` was made up, and not given by the user. -/
  isGenerated : Bool
  syncTimeout : Span
  livenessInterval : Span
  eventDays : Int
  pruneInterval : Span
  workers : Nat
deriving DecidableEq

/-- Why `load` returns no settings. -/
inductive SettingsError where
  /-- The file at `path` was named by the user and cannot be read. -/
  | unreadableFile (path : String)
  /-- The name of the cluster is blank in the environment and in the file. -/
  | noClusterName
deriving DecidableEq

/-- The text of the error. -/
def SettingsError.message : SettingsError → String
  | unreadableFile path => "Failed to read config file " ++ path
  | noClusterName => "cluster name is not configured (set CLUSTER_NAME or cluster.name)"

namespace Settings

/-- The file that is read where none is named. -/
def usualFile : String := "config.yaml"

/-- The variables that `resolve` reads. -/
def variableNames : List String :=
  ["CLUSTER_NAME", "INSTANCE_HASH", "NEO4J_URI", "NEO4J_USER", "NEO4J_PASSWORD",
    "NEO4J_DATABASE", "NEO4J_MAX_CONNECTIONS", "SYNC_TIMEOUT_SECS", "LIVENESS_INTERVAL_SECS",
    "EVENT_RETENTION_DAYS"]

/-- The largest number of days for which events can be kept. -/
def longestEventDays : Int := 36500

/-- Read the settings file at `path`, or at `usualFile`. A file that cannot be read is an error only
if it was named, and one that `SettingsFile.parse?` does not understand counts as empty. -/
def file (path : Option String) (textOf : String → Option String) :
    Except SettingsError SettingsFile :=
  match textOf (path.getD usualFile), path with
  | some text, _ => .ok ((SettingsFile.parse? text).getD {})
  | none, some path => .error (.unreadableFile path)
  | none, none => .ok {}

/-- The hash in `INSTANCE_HASH`, or else in the file. An empty one that is found first hides the
other and counts as none. -/
def configuredHash? (env : Variables) (f : SettingsFile) : Option String :=
  ((env.find? "INSTANCE_HASH").or f.cluster.instanceHash).filter fun h => !h.isEmpty

/-- Settle every setting by the environment, the file and the defaults, in this order. The hash
`madeUp` is used where `configuredHash?` is `none`. -/
def resolve (env : Variables) (f : SettingsFile) (madeUp : String) :
    Except SettingsError Settings :=
  let cluster := (env.find? "CLUSTER_NAME").getD f.cluster.name
  if Text.isBlankText cluster then .error .noClusterName
  else
    let configured := configuredHash? env f
    let seconds (name : String) (given : Nat) : Span :=
      .ofSeconds (max ((env.unsigned? name).getD given) 1)
    .ok
      { uri := (env.find? "NEO4J_URI").getD f.database.uri
        user := (env.find? "NEO4J_USER").getD f.database.user
        password := (env.find? "NEO4J_PASSWORD").getD f.database.password
        database := (env.find? "NEO4J_DATABASE").getD f.database.database
        maxConnections := (env.unsigned? "NEO4J_MAX_CONNECTIONS").getD f.database.maxConnections
        fetchSize := f.database.fetchSize
        connectTimeout := .ofSeconds f.database.connectTimeout
        cluster
        instanceHash := configured.getD madeUp
        isGenerated := configured.isNone
        syncTimeout := seconds "SYNC_TIMEOUT_SECS" f.sync.syncTimeout
        livenessInterval := seconds "LIVENESS_INTERVAL_SECS" f.sync.livenessInterval
        eventDays := min ((env.signed? "EVENT_RETENTION_DAYS").getD f.sync.eventDays)
          longestEventDays
        pruneInterval := .ofSeconds (max f.sync.pruneInterval 1)
        workers := max f.sync.workers 1 }

/-- The settings of an instance that is started with a file, `textOf` files, and an environment. -/
def load (path : Option String) (textOf : String → Option String) (env : Variables)
    (madeUp : String) : Except SettingsError Settings := do
  resolve env (← file path textOf) madeUp

/-- The cluster and the hash under which the instance writes. -/
def identity (s : Settings) : Identity :=
  ⟨s.cluster, s.instanceHash⟩

end Settings

end ClusterGraph
