import ClusterGraph.Json.Parser
import ClusterGraph.Text.FormEncoded
import ClusterGraph.Watch.Listed
import ClusterGraph.Watch.Notification

/-!
# ClusterGraph.Watch.Api

**What is asked of the cluster's API about the objects of a type, and how its answers read.**

Design points:

* an answer is the text that came, whether or not it is JSON: what it means depends on the
  request, and is read off here;
* an answer that reports an error says so by its status, and explains it in its text. If the
  text is an explanation in the form of the API, the code given there counts, even against
  the status; otherwise the text itself, quoted, is the explanation.
-/

namespace ClusterGraph

/-! ### Requests -/

/-- Request about the objects of a type. -/
inductive ApiRequest where
  /-- Ask for a single object, to see whether the type can be listed. -/
  | probe
  /-- Ask for a page of the listing: the first, or the one that `token` stands for. -/
  | page (token : Option String)
  /-- Ask for the changes after `version`. -/
  | changes (version : String)
deriving DecidableEq

namespace ApiRequest

/-- The `limit` of a request for a page. -/
def pageSize : Nat := 500

/-- The `timeoutSeconds` of a request for changes. -/
def changesTimeout : Nat := 290

/-- The parameters in the query of a request. -/
def parameters : ApiRequest → List (String × String)
  | probe => [("limit", "1")]
  | page token => ("limit", toString pageSize) :: token.toList.map fun t => ("continue", t)
  | changes version =>
      [ ("watch", "true"), ("timeoutSeconds", toString changesTimeout),
        ("allowWatchBookmarks", "true"), ("resourceVersion", version) ]

/-- The first line of a request about the type `t`, up to the version of the protocol. Names and
values of the `parameters` are form encoded. -/
def line (t : ResourceType) (r : ApiRequest) : String :=
  "GET " ++ t.path ++ "?" ++ String.join (r.parameters.map fun p =>
    "&" ++ Text.formEncoded p.1 ++ "=" ++ Text.formEncoded p.2)

end ApiRequest

/-! ### Answers -/

/-- Response to a request, as far as it has come. -/
structure ApiAnswer where
  status : Nat
  text : String
  /-- Whether the connection is open, so that more of the `text` may follow. -/
  isOpen : Bool

/-- Error that the API reports: the `code` and `message` of its status object. -/
structure ApiFailure where
  code : Int
  message : String
deriving DecidableEq

namespace ApiFailure

/-- The text at `key`, which is empty if the field is missing; `none` if the field holds something
else. -/
def textOrMissing? (j : Json) (key : String) : Option String :=
  match j.field? key with
  | none => some ""
  | some found => found.text?

/-- Read a status object. It must have a `status` and a `code`, and the code has to fit an unsigned
word of 16 bits. -/
def decode? (j : Json) : Option ApiFailure := do
  let _ ← (j.field? "status").bind Json.text?
  let message ← textOrMissing? j "message"
  let _ ← textOrMissing? j "reason"
  let code ← (j.field? "code").bind Json.int?
  if 0 ≤ code ∧ code < 0x10000 then some ⟨code, message⟩ else none

/-- Read a status object from the text of a response. -/
def ofText? (s : String) : Option ApiFailure :=
  match Json.parse s with
  | .ok j => decode? j
  | .error _ => none

end ApiFailure

namespace ApiAnswer

/-- Whether the status of a response is one of 400 to 599. -/
def isFailure (a : ApiAnswer) : Bool :=
  400 ≤ a.status && a.status < 600

/-- The error of a response, if it `isFailure`. If its text is no status object, the error has the
status of the response and the text in quotes. -/
def failure? (a : ApiAnswer) : Option ApiFailure :=
  if a.isFailure then
    some ((ApiFailure.ofText? a.text).getD ⟨a.status, Text.quoted a.text⟩)
  else none

end ApiAnswer

/-! ### Pages -/

/-- Page of a listing. -/
structure ListPage where
  items : List ListedObject
  /-- The version from which changes can be followed, if the page says one. -/
  version : Option String
  /-- The token of the next page, if there is one. -/
  token : Option String

namespace ListPage

/-- The shape of the metadata of a page. -/
def metadataShape : Shape :=
  .record [("continue", .text), ("remainingItemCount", .int64), ("resourceVersion", .text),
    ("selfLink", .text)]

/-- The text at `key`, unless it is empty. -/
def filled? (j : Json) (key : String) : Option String :=
  ((j.present? key).bind Json.text?).filter fun s => !s.isEmpty

/-- Read a page. Metadata may be missing, items may be `null`. -/
def decode? (j : Json) : Option ListPage := do
  let metadata := (j.field? "metadata").getD (.object Dict.empty)
  let items ← match ← j.field? "items" with
    | .null => some []
    | found => found.items?.bind fun items => items.mapM ListedObject.decode?
  if metadataShape.accepts metadata then
    some ⟨items, filled? metadata "resourceVersion", filled? metadata "continue"⟩
  else none

end ListPage

/-- Result of a request for a page. -/
inductive PageResult where
  /-- The response holds a page. -/
  | page (page : ListPage)
  /-- The response reports an error (`ApiAnswer.failure?`). -/
  | refused (failure : ApiFailure)
  /-- The response holds neither. -/
  | unreadable

/-- The result of a request for a page, given the response. -/
def ApiAnswer.page (a : ApiAnswer) : PageResult :=
  match a.failure? with
  | some failure => .refused failure
  | none =>
      match Json.parse a.text with
      | .error _ => .unreadable
      | .ok j =>
          match ListPage.decode? j with
          | some page => .page page
          | none => .unreadable

/-- The result of the probe of a kind, given the response: any page will do, and an error is that of
its code (`ProbeError.ofStatus`). -/
def ApiAnswer.probe (t : ResourceType) (a : ApiAnswer) : Except ProbeError Unit :=
  match a.page with
  | .page _ => .ok ()
  | .refused failure => .error (.ofStatus t failure.code failure.message)
  | .unreadable => .error (.other t.display)

/-! ### Changes -/

/-- Content of a line about changes. -/
inductive Change where
  /-- The object is there, new or changed. -/
  | stored (object : ListedObject)
  /-- The object is gone. -/
  | removed (object : ListedObject)
  /-- No change up to `version`. -/
  | bookmark (version : String)
  /-- The API reports an error instead of a change. -/
  | failure (failure : ApiFailure)

namespace Change

/-- Read the `resourceVersion` in the metadata of a bookmark. -/
def bookmarkVersion? (j : Json) : Option String := do
  let _ ← (j.field? "apiVersion").bind Json.text?
  let _ ← (j.field? "kind").bind Json.text?
  let metadata ← j.field? "metadata"
  let annotations := (metadata.field? "annotations").getD (.object Dict.empty)
  if (Shape.map .text).accepts annotations then
    (metadata.field? "resourceVersion").bind Json.text?
  else none

/-- Read a change by its `type`; `none` if the type is unknown or the `object` does not fit it. -/
def decode? (j : Json) : Option Change := do
  let object ← j.field? "object"
  match ← (j.field? "type").bind Json.text? with
  | "ADDED" | "MODIFIED" => (ListedObject.decode? object).map stored
  | "DELETED" => (ListedObject.decode? object).map removed
  | "BOOKMARK" => (bookmarkVersion? object).map bookmark
  | "ERROR" => (ApiFailure.decode? object).map failure
  | _ => none

end Change

/-- Reading of a line about changes. -/
inductive ChangeLine where
  /-- The line holds a change. -/
  | change (change : Change)
  /-- The line ends early, as one does when the connection is cut. -/
  | cut
  /-- The line is not JSON, or no change. -/
  | unreadable

/-- Read a line. Text that ends early is `cut`, and other text that is no change is `unreadable`. -/
def ChangeLine.ofText (s : String) : ChangeLine :=
  match Json.parse s with
  | .error .unexpectedEnd => .cut
  | .error .malformed => .unreadable
  | .ok j =>
      match Change.decode? j with
      | some found => .change found
      | none => .unreadable

/-- Split text at line ends: the complete lines, and what follows the last line end. -/
def splitLines : List Char → List (List Char) × List Char
  | [] => ([], [])
  | '\n' :: rest =>
      let (lines, last) := splitLines rest
      ([] :: lines, last)
  | c :: rest =>
      match splitLines rest with
      | ([], last) => ([], c :: last)
      | (line :: lines, last) => ((c :: line) :: lines, last)

/-- The lines of a response. What follows the last line end counts as a line once no more can follow
it (`isOpen`). -/
def ApiAnswer.lines (a : ApiAnswer) : List String :=
  let (lines, last) := splitLines a.text.toList
  (if a.isOpen || last.isEmpty then lines else lines ++ [last]).map String.ofList

end ClusterGraph
