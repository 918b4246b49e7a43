import ClusterGraph.Resource.RawObject
import ClusterGraph.Text.Quoted

/-!
# ClusterGraph.Watch.Notification

**What a watch tells about the objects of a kind, and whether a kind can be watched.**
-/

namespace ClusterGraph

/-! ### Notifications -/

/-- Message that a watch sends to its consumer. -/
inductive Notification where
  /-- A listing mentions `object`. -/
  | add (object : RawObject)
  /-- The API reports that `object` appeared or changed. -/
  | update (object : RawObject)
  /-- The API reports that `object` is gone, or a listing no longer mentions it. -/
  | delete (object : RawObject)
  /-- Marker: the listing is complete. -/
  | synced

namespace Notification

/-- The name under which a notification is counted (`Metrics.recordNotification`). -/
def name : Notification → String
  | add _ => "add"
  | update _ => "update"
  | delete _ => "delete"
  | synced => "synced"

/-- The object that a notification is about; `none` for the marker `synced`. -/
def object? : Notification → Option RawObject
  | add o | update o | delete o => some o
  | synced => none

/-- The `uid` of the object that a notification is about. It decides the lane (`laneFor`). -/
def uid? (n : Notification) : Option String :=
  n.object?.bind RawObject.uid?

end Notification

/-! ### Probes -/

/-- Failure of the probe of a kind. -/
inductive ProbeError where
  /-- The API does not serve the type (404). -/
  | notFound (detail : String)
  /-- The API refuses access to the type (403). -/
  | forbidden (detail : String)
  /-- Any other failure. It may be gone at the next try. -/
  | other (subject : String)
deriving DecidableEq

namespace ProbeError

/-- The message of a failed probe. -/
def message : ProbeError → String
  | notFound detail => "resource type not served: " ++ detail
  | forbidden detail => "access forbidden: " ++ detail
  | other subject => "probing " ++ subject

/-- Whether there is no point in subscribing: the kind is `notFound` or `forbidden`, and its state
will be `skipped` (`probedState`). -/
def isUnavailable : ProbeError → Bool
  | notFound _ | forbidden _ => true
  | other _ => false

/-- The failure for a response with `code` and `message`: `notFound` for 404, `forbidden` for 403,
and `other` for the rest. -/
def ofStatus (t : ResourceType) (code : Int) (message : String) : ProbeError :=
  if code = 404 then .notFound (t.display ++ ": " ++ message)
  else if code = 403 then .forbidden (t.display ++ ": " ++ message)
  else .other t.display

end ProbeError

end ClusterGraph
