import ClusterGraph.Yaml.Reading

/-!
# ClusterGraph.Settings.File

**The settings file: three sections, each with fields that may all be left out.**

Whatever is not in the file has its default. Fields that are not known are passed over, so
that a file may serve other programs as well. But one known field with a value that it
cannot have spoils the whole file.
-/

namespace ClusterGraph

/-- The section `neo4j`: how the database is reached. -/
structure DatabaseSection where
  uri : String := "bolt://localhost:7687"
  user : String := "neo4j"
  password : String := "kubegraph"
  database : String := "neo4j"
  maxConnections : Nat := 16
  fetchSize : Nat := 200
  connectTimeout : Nat := 10
deriving DecidableEq

/-- The section `cluster`: which cluster is watched, and as which instance. -/
structure ClusterSection where
  name : String := ""
  instanceHash : Option String := none
deriving DecidableEq

/-- The section `sync`: how the cluster is followed, and for how many days events are kept. -/
structure SyncSection where
  syncTimeout : Nat := 300
  livenessInterval : Nat := 30
  eventDays : Int := 7
  pruneInterval : Nat := 3600
  workers : Nat := 8
deriving DecidableEq

/-- The three sections of a settings file. Times are in seconds. -/
structure SettingsFile where
  database : DatabaseSection := {}
  cluster : ClusterSection := {}
  sync : SyncSection := {}
deriving DecidableEq

/-- Read the section `neo4j`. A field that is missing has its default. -/
def DatabaseSection.ofNode? (n : Yaml.Node) : Option DatabaseSection := do
  let d ← n.fields? ["uri", "user", "password", "database", "max_connections", "fetch_size",
    "connect_timeout_secs"]
  let none_ : DatabaseSection := {}
  return {
    uri := ← fieldOr d "uri" Yaml.Node.text? none_.uri
    user := ← fieldOr d "user" Yaml.Node.text? none_.user
    password := ← fieldOr d "password" Yaml.Node.text? none_.password
    database := ← fieldOr d "database" Yaml.Node.text? none_.database
    maxConnections := ← fieldOr d "max_connections" Yaml.Node.unsigned? none_.maxConnections
    fetchSize := ← fieldOr d "fetch_size" Yaml.Node.unsigned? none_.fetchSize
    connectTimeout := ← fieldOr d "connect_timeout_secs" Yaml.Node.unsigned? none_.connectTimeout
  }

/-- Read the section `cluster`. A field that is missing has its default. -/
def ClusterSection.ofNode? (n : Yaml.Node) : Option ClusterSection := do
  let d ← n.fields? ["name", "instance_hash"]
  return {
    name := ← fieldOr d "name" Yaml.Node.text? ""
    instanceHash := ← fieldOr d "instance_hash" Yaml.Node.optionalText? none
  }

/-- Read the section `sync`. A field that is missing has its default. -/
def SyncSection.ofNode? (n : Yaml.Node) : Option SyncSection := do
  let d ← n.fields? ["sync_timeout_secs", "liveness_interval_secs", "event_retention_days",
    "ttl_sweep_interval_secs", "workers_per_kind"]
  let none_ : SyncSection := {}
  return {
    syncTimeout := ← fieldOr d "sync_timeout_secs" Yaml.Node.unsigned? none_.syncTimeout
    livenessInterval :=
      ← fieldOr d "liveness_interval_secs" Yaml.Node.unsigned? none_.livenessInterval
    eventDays := ← fieldOr d "event_retention_days" Yaml.Node.signed? none_.eventDays
    pruneInterval := ← fieldOr d "ttl_sweep_interval_secs" Yaml.Node.unsigned? none_.pruneInterval
    workers := ← fieldOr d "workers_per_kind" Yaml.Node.unsigned? none_.workers
  }

namespace SettingsFile

/-- Read the sections of a file. One that is missing has its defaults. -/
def ofNode? (n : Yaml.Node) : Option SettingsFile := do
  let d ← n.fields? ["neo4j", "cluster", "sync"]
  return {
    database := ← fieldOr d "neo4j" DatabaseSection.ofNode? {}
    cluster := ← fieldOr d "cluster" ClusterSection.ofNode? {}
    sync := ← fieldOr d "sync" SyncSection.ofNode? {}
  }

/-- Read the text of a settings file with `Yaml.Node.parse?` and `ofNode?`. -/
def parse? (s : String) : Option SettingsFile :=
  (Yaml.Node.parse? s).bind ofNode?

end SettingsFile

end ClusterGraph
