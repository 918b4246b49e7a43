import ClusterGraph.Projection.Links
import ClusterGraph.Resource.RawObject

/-!
# ClusterGraph.Projection.Sync

**How the graph follows an object: it is written when it appears or changes, and deleted
when it goes.**

`Sync.create` writes the node of an object and then makes its relationships; `Sync.delete`
takes the node away. Both are plans, and both say what went wrong. `Sync.create?` is `Sync.create`
as the program runs it, where adding up the restarts of a pod can panic.

Design points:

* nothing is written before the object has been read in full and has an identity;
* once the node is written the notification has succeeded: a relationship that cannot be
  made holds up neither the others nor the result;
* events are not deleted with their objects. They expire;
* a step that panics is no plan (`Sync.create?`). What `Sync.create` and all that is built on it
  say is said of steps that get as far as their first call or their result.
-/

namespace ClusterGraph

/-- Failure of a handling step: the object could not be read, or the store failed. -/
inductive SyncError where
  | conversion (e : ConversionError)
  | store (e : StoreError)
deriving DecidableEq

namespace Sync

/-- The `uid` in the metadata, which must be there and not be empty. -/
def identify (kind : String) (m : ObjectMeta) : Except ConversionError String :=
  match m.uid with
  | none => .error (.missingUid kind)
  | some uid => if uid = "" then .error (.missingUid kind) else .ok uid

/-- The properties of the node of an object (`ObjectOf.fields`), if `identify` finds its `uid`. -/
def properties (w : Writer) (now : Instant) (k : Kind) (o : ObjectOf k) :
    Except ConversionError (Dict Json) :=
  (identify k.name (ObjectOf.objectMeta k o)).map fun uid => ObjectOf.fields w.id now uid k o

/-- Reference to the node of an object, by its `uid`. -/
def self (k : Kind) (m : ObjectMeta) : NodeRef :=
  .byUid k.name (m.uid.getD "")

/-- Make the calls of `links` one after the other, ignoring their failures. -/
def linkAll (links : List Link) : Plan Unit :=
  Plan.forEach (fun l => Plan.attempt l.call) links

/-- List the candidates of a search and link those that match (`Search.link?`). If the list fails,
nothing is linked. -/
def select (w : Writer) (s : Search) : Plan Unit :=
  .call (s.call w) fun
    | .ok found => linkAll (found.filterMap s.link?)
    | .error _ => .done ()

/-- Make the links of an object: those that `ObjectOf.links` gives, and then those that
`ObjectOf.search?` finds. -/
def relate (w : Writer) (k : Kind) (o : ObjectOf k) : Plan Unit := do
  let self := self k (ObjectOf.objectMeta k o)
  linkAll (ObjectOf.links w self k o)
  match ObjectOf.search? self k o with
  | some s => select w s
  | none => return ()

/-- Upsert the node of an object, and then `relate` it. Once the node is written the result is a
success. -/
def write (w : Writer) (now : Instant) (k : Kind) (o : ObjectOf k) :
    Plan (Except SyncError Unit) :=
  match properties w now k o with
  | .error e => .done (.error (.conversion e))
  | .ok fields =>
      .call (.upsert .direct [k.name] fields Key.uid) fun
        | .error e => .done (.error (.store e))
        | .ok _ => (relate w k o).bind fun _ => .done (.ok ())

/-- Handling step for an object that appeared or changed: convert it to the kind, and `write` it. -/
def create (w : Writer) (now : Instant) (k : Kind) (raw : RawObject) :
    Plan (Except SyncError Unit) :=
  match raw.convert k k.name with
  | .error e => .done (.error (.conversion e))
  | .ok o => write w now k o

/-- Whether `create` would have to add up restarts that do not fit 32 bits. They are added once the
object has been read and has an identity, and before any call. -/
def panics (k : Kind) (raw : RawObject) : Bool :=
  match raw.convert k k.name with
  | .error _ => false
  | .ok o => (identify k.name (ObjectOf.objectMeta k o)).isOk && ObjectOf.overflows k o

/-- Follow an object that appeared or changed, as a step that may panic: `none` if it `panics`, and
then no call is made and there is no result. Otherwise the step is the plan `create`. -/
def create? (w : Writer) (now : Instant) (k : Kind) (raw : RawObject) :
    Option (Plan (Except SyncError Unit)) :=
  if panics k raw then none else some (create w now k raw)

/-- Handling step for an object that is gone: delete the nodes of its `uid`. Events are not deleted
with their objects, they expire. -/
def delete (k : Kind) (raw : RawObject) : Plan (Except SyncError Unit) :=
  if k = .event then .done (.ok ())
  else
    match raw.requireUid k.name with
    | .error e => .done (.error (.conversion e))
    | .ok uid =>
        .call (.delete k.name Key.uid uid) fun
          | .error e => .done (.error (.store e))
          | .ok _ => .done (.ok ())

end Sync

end ClusterGraph
