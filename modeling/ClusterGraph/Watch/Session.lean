import ClusterGraph.Watch.Api
import ClusterGraph.Watch.Relist

/-!
# ClusterGraph.Watch.Session

**Watching the objects of a type through the API: list them once, then follow the changes.**

A watch begins with a listing, page by page, and goes on with the changes after the version
that the listing shows. An answer about changes that ends is followed by the next one, from
the last version seen. Only when the API has forgotten that version, or an object comes
without one, does the watch start over with a new listing. An error never ends a watch.

Design points:

* a watch asks one thing at a time, so it is at one of two points, and an answer leads from
  one to the next: `WatchPoint.receive`;
* an answer that stays open is the last that is seen of the API.
-/

namespace ClusterGraph

/-- Output of a watch before it is tracked: an event, or an error whose details do not matter. -/
inductive WatchOutput where
  | event (e : WatchEvent)
  | failure

/-- Position of a watch: which answer it waits for. -/
inductive WatchPoint where
  /-- Waiting for a page of the listing under way: the first, or the one that `token` stands for. -/
  | listing (token : Option String)
  /-- Waiting for changes after `version`. -/
  | following (version : String)
deriving DecidableEq

namespace WatchPoint

/-- The request that a watch makes at a position. -/
def request : WatchPoint → ApiRequest
  | listing token => .page token
  | following version => .changes version

/-- Begin a new listing after an error. Its event `init` tells the tracker that what was listed
before does not count. -/
def restart : List WatchOutput × WatchPoint :=
  ([.failure, .event .init], .listing none)

/-- Status of the error that a version is too old (`410 Gone`). It leads to `restart`, other errors
do not. -/
def goneCode : Int := 410

/-- Take in a page. With a `token` another page follows; otherwise the listing is complete and
changes follow, which takes a `version` to start from. -/
def receivePage (page : ListPage) : List WatchOutput × WatchPoint :=
  let found := page.items.map fun o => WatchOutput.event (.initApply o)
  match page.token, page.version with
  | some token, _ => (found, .listing (some token))
  | none, some version => (found ++ [.event .initDone], .following version)
  | none, none => restart

/-- Pass on the event `e` about `o`, and go on from the `resourceVersion` of `o`. Without one the
watch has lost its place and has to `restart`. -/
def receiveObject (o : ListedObject) (e : WatchEvent) : List WatchOutput × WatchPoint :=
  match o.metaText? "resourceVersion" with
  | none | some "" => restart
  | some version => ([.event e], .following version)

/-- Take in one line about changes. A line that is `cut` is passed over, and one that is
`unreadable` is an error that changes nothing; only a failure with `goneCode` and an object without
a version lead to `restart`. -/
def receiveLine (version : String) : ChangeLine → List WatchOutput × WatchPoint
  | .cut => ([], .following version)
  | .unreadable => ([.failure], .following version)
  | .change (.stored o) => receiveObject o (.apply o)
  | .change (.removed o) => receiveObject o (.delete o)
  | .change (.bookmark version) => ([], .following version)
  | .change (.failure f) =>
      if f.code = goneCode then restart else ([.failure], .following version)

/-- Take in lines up to the first that leads to `restart`; the truth value says whether there was
one. -/
def receiveLines (version : String) : List ChangeLine → List WatchOutput × WatchPoint × Bool
  | [] => ([], .following version, false)
  | line :: rest =>
      match receiveLine version line with
      | (out, .following version) =>
          let (more, next) := receiveLines version rest
          (out ++ more, next)
      | (out, .listing token) => (out, .listing token, true)

/-- Take in an answer. The new position is `none` while the rest of the answer is awaited
(`isOpen`). -/
def receive (p : WatchPoint) (a : ApiAnswer) : List WatchOutput × Option WatchPoint :=
  match p with
  | listing _ =>
      if a.isOpen then ([], none)
      else
        let (out, next) :=
          match a.page with
          | .page page => receivePage page
          | .refused _ | .unreadable => restart
        (out, some next)
  | following version =>
      let (out, next, restarted) := receiveLines version (a.lines.map ChangeLine.ofText)
      (out, if a.isOpen && !restarted then none else some next)

end WatchPoint

/-- Record of a watch: what it put out, and the requests it made. -/
structure WatchHistory where
  outputs : List WatchOutput
  requests : List ApiRequest

namespace WatchHistory

/-- The record of a watch that stands at `p` and then gets the given answers. It waits for the next
one at the end. -/
def follow (p : WatchPoint) : List ApiAnswer → WatchHistory
  | [] => ⟨[], [p.request]⟩
  | a :: rest =>
      match p.receive a with
      | (out, none) => ⟨out, [p.request]⟩
      | (out, some next) =>
          let later := follow next rest
          ⟨out ++ later.outputs, p.request :: later.requests⟩

/-- The record of a watch from its first request, which follows the event `init`. -/
def ofAnswers (answers : List ApiAnswer) : WatchHistory :=
  let later := follow (.listing none) answers
  ⟨.event .init :: later.outputs, later.requests⟩

end WatchHistory

namespace RelistTracker

/-- Track the output of a watch: an event has the notifications of `step`, and an error is passed on
and leaves the tracker as it is. -/
def track (t : RelistTracker) : List WatchOutput → List (Except Unit Notification)
  | [] => []
  | .failure :: rest => .error () :: t.track rest
  | .event e :: rest =>
      let (told, t) := t.step e
      told.map .ok ++ t.track rest

end RelistTracker

/-- The tracker for objects of the type `t`, which knows none yet. -/
def ResourceType.tracker (t : ResourceType) : RelistTracker :=
  .start t.apiVersion t.kind

/-- The message of every error that a watch passes on. -/
def watchFailureMessage : String :=
  "watch stream error"

end ClusterGraph
