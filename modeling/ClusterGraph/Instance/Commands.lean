import ClusterGraph.Retention.Sweep
import ClusterGraph.Retention.Expiry
import ClusterGraph.Projection.Properties

/-!
# ClusterGraph.Instance.Commands

**What an instance does to the graph on its own account: it enters itself, cleans up after
others, and counts what belongs to it.**

An instance is told from others by its hash. A hash that was made up for this one run names
no instance that ever wrote anything, so commands that act on what an instance wrote refuse
it.
-/

namespace ClusterGraph

/-- Failure of a command: the hash of the instance is not configured, or the store failed. -/
inductive CommandError where
  | instanceNotConfigured
  | store (e : StoreError)
deriving DecidableEq

namespace CommandError

/-- The message of a failed command. A failure that the database reported has none of its own
(`StoreError.message?`). -/
def message? : CommandError → Option String
  | instanceNotConfigured =>
      some ("instance hash is not configured; set INSTANCE_HASH (or cluster.instance_hash) "
        ++ "to the hash of the running synchronizer")
  | store e => e.message?

end CommandError

namespace Command

/-- Refuse a command with `instanceNotConfigured` if the hash was `generated`: such a hash is that
of no other run, so there is nothing the command could be about. -/
def requireConfigured (generated : Bool) : Except CommandError Unit :=
  if generated then .error .instanceNotConfigured else .ok ()

/-- The properties of the cluster node of an instance. Its `uid` is `Identity.uid`. -/
def clusterFields (id : Identity) (now : Instant) : Dict Json :=
  Dict.ofList
    [ (Key.uid, .text id.uid),
      (Key.name, .text id.cluster),
      (Key.clusterName, .text id.cluster),
      (Key.instanceHash, .text id.hash),
      (Key.startedAt, .text now.format) ]

/-- Upsert the cluster node of an instance, in a transaction of its own. -/
def register (id : Identity) (now : Instant) : Plan (Except StoreError Unit) :=
  .call (.upsert .transaction [Label.cluster] (clusterFields id now) Key.uid) fun
    | .ok _ => .done (.ok ())
    | .error e => .done (.error (.during "Failed to register cluster node" e))

/-- Run a plan of the store as a command: its failures become `CommandError.store`. -/
def onStore {α : Type} (plan : Plan (Except StoreError α)) : Plan (Except CommandError α) :=
  plan.bind fun result => .done (result.mapError .store)

/-- Run `plan` as a command that is about what this instance wrote, so that the hash must not be
`generated` (`requireConfigured`). -/
def configured {α : Type} (generated : Bool) (plan : Plan (Except StoreError α)) :
    Plan (Except CommandError α) :=
  match requireConfigured generated with
  | .error e => .done (.error e)
  | .ok _ => onStore plan

/-- Ask for the number of nodes of each kind that the instance wrote. -/
def counts (id : Identity) : Plan (Except StoreError (List KindCount)) :=
  Plan.ask (.count id)

end Command

end ClusterGraph
