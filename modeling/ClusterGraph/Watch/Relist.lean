import ClusterGraph.Watch.Listed
import ClusterGraph.Watch.Notification

/-!
# ClusterGraph.Watch.Relist

**From the raw events of a watch to notifications: who is missing after a re-list is gone.**

A watch that loses its place starts over with a new listing. What was deleted in the
meantime is not mentioned in it, so the known objects are remembered, and when a listing is
complete, those that did not occur in it are reported as deleted.

Design points:

* an object that changes while a listing is under way counts as listed;
* a listing that is interrupted by another one reports nothing, the new one starts afresh;
* objects without a unique identifier are passed on but not remembered;
* the deletions that end a listing come in the order of the identifiers, before the marker
  that the kind is in sync; what comes of them is the same in any order
  (`RelistTracker.comesTo_run_of_perm`).
-/

namespace ClusterGraph

/-- Raw event of a watch, before it is tracked. -/
inductive WatchEvent where
  /-- A listing begins. -/
  | init
  /-- The listing mentions `object`. -/
  | initApply (object : ListedObject)
  /-- The listing is complete. -/
  | initDone
  /-- The API reports that `object` appeared or changed. -/
  | apply (object : ListedObject)
  /-- The API reports that `object` was deleted. -/
  | delete (object : ListedObject)

/-- State of the tracker of one kind. Objects are `known` by their `uid`, and an object without one
is passed on but not remembered. -/
structure RelistTracker where
  apiVersion : String
  kind : String
  /-- For each `uid` that is known, what to hand on when its object is gone
  (`ListedObject.stub`). -/
  known : Dict Json
  /-- The `uid`s that the listing under way has mentioned; `none` while there is no listing. -/
  listed : Option (List String)

namespace RelistTracker

/-- The tracker before the first event: nothing is `known`, and no listing is under way. -/
def start (apiVersion kind : String) : RelistTracker :=
  ⟨apiVersion, kind, Dict.empty, none⟩

/-- The object that a notification carries for `o` (`ListedObject.toJson`). -/
def raw (t : RelistTracker) (o : ListedObject) : RawObject :=
  .unstructured (o.toJson t.apiVersion t.kind)

/-- Add `o` to the `known` objects, and to those that the listing has mentioned, if one is under
way. -/
def remember (t : RelistTracker) (o : ListedObject) : RelistTracker :=
  match o.uid? with
  | none => t
  | some uid =>
      { t with
        known := t.known.insert uid (o.stub t.apiVersion t.kind uid)
        listed := t.listed.map (uid :: ·) }

/-- Remove `o` from the `known` objects. -/
def forget (t : RelistTracker) (o : ListedObject) : RelistTracker :=
  match o.uid? with
  | none => t
  | some uid => { t with known := t.known.erase uid }

/-- The `known` objects that are not among `listed`, in the order of their `uid`. -/
def missing (t : RelistTracker) (listed : List String) : List (String × Json) :=
  t.known.entries.filter fun entry => !listed.contains entry.1

/-- End the listing under way: tell of a `delete` for each of the `missing` objects and forget them.
The deletions come in the order of the `uid`s. They are about different objects, so another order
comes to the same (`RelistTracker.comesTo_run_of_perm`). -/
def complete (t : RelistTracker) : List Notification × RelistTracker :=
  match t.listed with
  | none => ([], t)
  | some listed =>
      ((t.missing listed).map fun entry => .delete (.unstructured entry.2),
        { t with
          known := ⟨t.known.entries.filter fun entry => listed.contains entry.1⟩
          listed := none })

/-- The notifications for one event, and the tracker after it. -/
def step (t : RelistTracker) : WatchEvent → List Notification × RelistTracker
  | .init => ([], { t with listed := some [] })
  | .initApply o => ([.add (t.raw o)], t.remember o)
  | .apply o => ([.update (t.raw o)], t.remember o)
  | .delete o => ([.delete (t.raw o)], t.forget o)
  | .initDone =>
      let (gone, t) := t.complete
      (gone ++ [.synced], t)

/-- The notifications for each of a list of events, and the tracker after the last. -/
def run (t : RelistTracker) : List WatchEvent → List (List Notification) × RelistTracker
  | [] => ([], t)
  | e :: rest =>
      let (told, t) := t.step e
      let (more, t) := t.run rest
      (told :: more, t)

/-- The `uid`s of the `known` objects. -/
def knownUids (t : RelistTracker) : List String :=
  t.known.keys

end RelistTracker

end ClusterGraph
