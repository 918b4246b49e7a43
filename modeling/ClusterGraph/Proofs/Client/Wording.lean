import ClusterGraph.Client.Exchange
import ClusterGraph.Proofs.Projection.Anchoring
import ClusterGraph.Proofs.Projection.Registering

/-!
# ClusterGraph.Proofs.Client.Wording

**Objects are followed in fixed words: what they say never becomes part of a statement.**

There are four forms of statement (`Template`), and each has places for labels and for nothing
else. The labels come from the kind that is followed, from the code and from what is registered,
so the statements that can be sent are settled before any object is seen. What objects say goes
along as arguments, under names that the form prescribes (`Request.Fits`).

All of this is shown for the calls of a plan (`Call.IsWorded`) and holds of what is sent whoever
answers, since a database learns of a call by one query and no other way.
-/

namespace ClusterGraph

/-! ## Forms of statement -/

/-- How a statement finds a node with a label: by `uid` in all clusters, or by one of the two names
in one cluster. -/
inductive Place where
  | byUid (label : String)
  | byName (label : String)
  | byNamespacedName (label : String)

namespace Place

/-- The label of the node. -/
def label : Place → String
  | byUid label => label
  | byName label => label
  | byNamespacedName label => label

/-- The pattern for a node that is called `v`. -/
def pattern (v : String) : Place → String
  | byUid label => "(" ++ v ++ ":" ++ label ++ " \x7buid: $" ++ v ++ "_value\x7d)"
  | byName label =>
      "(" ++ v ++ ":" ++ label ++ " \x7bname: $" ++ v ++ "_value, clusterName: $" ++ v
        ++ "_cluster\x7d)"
  | byNamespacedName label =>
      "(" ++ v ++ ":" ++ label ++ " \x7bnamespacedName: $" ++ v ++ "_value, clusterName: $" ++ v
        ++ "_cluster\x7d)"

/-- The names of the arguments in the pattern for `v`. -/
def parameters (v : String) : Place → List String
  | byUid _ => [v ++ "_value"]
  | _ => [v ++ "_value", v ++ "_cluster"]

/-- A place describes the references of its form, whatever `uid`, name and cluster they have. -/
inductive Describes : Place → NodeRef → Prop where
  | byUid (label uid : String) : Describes (.byUid label) (.byUid label uid)
  | byName (label name cluster : String) :
      Describes (.byName label) (.byName label name cluster)
  | byNamespacedName (label ns name cluster : String) :
      Describes (.byNamespacedName label) (.byNamespacedName label ns name cluster)

namespace Describes

variable {p : Place} {ref : NodeRef}

theorem label_eq (h : p.Describes ref) : ref.label = p.label := by
  cases h <;> rfl

theorem isName (h : p.Describes ref) : ref.IsName := by
  cases h with
  | byUid => exact NodeRef.isName_byUid _ _
  | byName => exact NodeRef.isName_byName _ _ _
  | byNamespacedName => exact NodeRef.isName_byNamespacedName _ _ _ _

end Describes
end Place

/-- Statements for following objects, of which only labels and relationships can be chosen. -/
inductive Template where
  | upsert (label : String)
  | delete (label : String)
  | list (label : String)
  | link (source : Place) (rel : Relationship) (target : Place)

namespace Template

/-- The text of the statement. -/
def text : Template → String
  | upsert label => "MERGE (n:" ++ label ++ " \x7buid: $uid\x7d) SET n = $properties"
  | delete label => "MATCH (n:" ++ label ++ " \x7buid: $value\x7d) DETACH DELETE n"
  | list label =>
      "MATCH (n:" ++ label
        ++ ") WHERE n.namespace = $f0 AND n.clusterName = $f1 AND n.instanceHash = $f2 RETURN n"
  | link source rel target =>
      "MATCH " ++ source.pattern "a" ++ ", " ++ target.pattern "b" ++ " MERGE (a)-[:" ++ rel.text
        ++ "]->(b)"

/-- The parameters of the statement. -/
def parameters : Template → List String
  | upsert _ => ["uid", "properties"]
  | delete _ => ["value"]
  | list _ => ["f0", "f1", "f2"]
  | link source _ target => source.parameters "a" ++ target.parameters "b"

/-- Templates for objects of the kind `k`: their nodes are written, deleted and linked, the latter
to nodes with labels that the writer knows, and pods and services are listed. -/
inductive IsFor (w : Writer) (k : Kind) : Template → Prop where
  | upsert : IsFor w k (.upsert k.name)
  | delete : IsFor w k (.delete k.name)
  | list {label : String} (hlabel : label ∈ ["Pod", "Service"]) : IsFor w k (.list label)
  | leads (rel : Relationship) {other : Place} (hlabel : w.Knows other.label) :
      IsFor w k (.link (.byUid k.name) rel other)
  | comes (rel : Relationship) {other : Place} (hlabel : w.Knows other.label) :
      IsFor w k (.link other rel (.byUid k.name))

end Template

/-- The request has the text of the template, and arguments for exactly its parameters. -/
structure Request.Fits (r : Request) (t : Template) : Prop where
  text : r.text = t.text
  parameters : ∀ name, r.arguments.contains name = true ↔ name ∈ t.parameters

/-! ## Labels and keys -/

/-- The key of a reference that `IsName` is an identifier. -/
theorem NodeRef.IsName.isIdentifier_key {ref : NodeRef} (h : ref.IsName) :
    isIdentifier ref.key = true := by
  have hkeys : ∀ key ∈ [Key.uid, Key.name, Key.namespacedName], isIdentifier key = true := by
    decide
  exact hkeys ref.key h

/-- If the registered kinds are `Named`, every label that the writer `Knows` is an identifier. -/
theorem Writer.Knows.isLabel {w : Writer} (hw : w.owners.Named) {label : String}
    (h : w.Knows label) : isIdentifier label = true := by
  rcases h with h | ⟨kind, h⟩
  · have hfixed : ∀ label ∈ Label.fixed, isIdentifier label = true := by decide
    exact hfixed label h
  · exact isIdentifier_iff.mpr (hw kind label h).2

/-- Every reference that the writer `Makes` is described by a place with a label that it knows. -/
theorem Writer.Makes.exists_place {w : Writer} {ref : NodeRef} (h : w.Makes ref) :
    ∃ p : Place, p.Describes ref ∧ w.Knows p.label := by
  cases h with
  | byUid hlabel => exact ⟨_, .byUid _ _, hlabel⟩
  | named hlabel => exact ⟨_, .byName _ _ _, hlabel⟩
  | namespaced hlabel => exact ⟨_, .byNamespacedName _ _ _ _, hlabel⟩

/-! ## Statements -/

namespace Statement

theorem checkName_of_isIdentifier {role : NameRole} {name : String}
    (h : isIdentifier name = true) : checkName role name = .ok () :=
  checkName_eq_ok_iff.mpr h

theorem upsert_uid {label : String} (h : isIdentifier label = true) :
    upsert [label] Key.uid = .ok (Template.upsert label).text := by
  have hkey : isIdentifier Key.uid = true := by decide
  simp only [upsert, checkLabels, checkName_of_isIdentifier h, checkName_of_isIdentifier hkey]
  refine congrArg Except.ok (String.ext ?_)
  simp [labelText, Template.text, Key.uid, String.join]

theorem delete_uid {label : String} (h : isIdentifier label = true) :
    delete label Key.uid = .ok (Template.delete label).text := by
  have hkey : isIdentifier Key.uid = true := by decide
  simp only [delete, checkName_of_isIdentifier h, checkName_of_isIdentifier hkey]
  refine congrArg Except.ok (String.ext ?_)
  simp [Template.text, Key.uid]

theorem list_candidates {label : String} (h : isIdentifier label = true) :
    list label [Key.namespace_, Key.clusterName, Key.instanceHash]
      = .ok (Template.list label).text := by
  have hconditions : conditions 0 [Key.namespace_, Key.clusterName, Key.instanceHash]
      = .ok ["n.namespace = $f0", "n.clusterName = $f1", "n.instanceHash = $f2"] := by
    decide +kernel
  have hjoined : String.intercalate " AND "
      ["n.namespace = $f0", "n.clusterName = $f1", "n.instanceHash = $f2"]
      = "n.namespace = $f0 AND n.clusterName = $f1 AND n.instanceHash = $f2" := by
    decide +kernel
  simp only [list, checkName_of_isIdentifier h, hconditions]
  refine congrArg Except.ok (String.ext ?_)
  simp [Template.text, hjoined]

/-- The text of `Statement.endpoint`, if label and key are identifiers. -/
theorem endpoint_of_isIdentifier {ref : NodeRef} (hlabel : isIdentifier ref.label = true)
    (hkey : isIdentifier ref.key = true) (v : String) :
    endpoint v ref = .ok ("(" ++ v ++ ":" ++ ref.label ++ " \x7b" ++ ref.key ++ ": $" ++ v
      ++ "_value" ++ (if ref.cluster.isSome then ", " ++ Key.clusterName ++ ": $" ++ v ++ "_cluster"
        else "") ++ "\x7d)") := by
  simp only [endpoint, checkName_of_isIdentifier hlabel, checkName_of_isIdentifier hkey]
  rfl

theorem endpoint_of_describes {p : Place} {ref : NodeRef} (href : p.Describes ref)
    (hlabel : isIdentifier p.label = true) (v : String) :
    endpoint v ref = .ok (p.pattern v) := by
  rw [endpoint_of_isIdentifier (href.label_eq.symm ▸ hlabel) href.isName.isIdentifier_key]
  refine congrArg Except.ok (String.ext ?_)
  cases href with
  | byUid => simp [NodeRef.byUid, Place.pattern, Key.uid]
  | byName => simp [NodeRef.byName, Place.pattern, Key.name, Key.clusterName]
  | byNamespacedName =>
      simp [NodeRef.byNamespacedName, Place.pattern, Key.namespacedName, Key.clusterName]

theorem relationship_of_describes {source target : Place} {a b : NodeRef}
    (ha : source.Describes a) (hb : target.Describes b)
    (hsource : isIdentifier source.label = true) (htarget : isIdentifier target.label = true)
    (rel : Relationship) :
    relationship a rel b = .ok (Template.link source rel target).text := by
  simp only [relationship, endpoint_of_describes ha hsource, endpoint_of_describes hb htarget]
  rfl

end Statement

/-! ## Requests -/

/-- The parameters of a place are for the value of a reference, and for its cluster if that is
given. -/
theorem Place.mem_parameters_iff {p : Place} {ref : NodeRef} (h : p.Describes ref)
    {v name : String} :
    name ∈ p.parameters v
      ↔ v ++ "_value" = name ∨ (ref.cluster.isSome ∧ v ++ "_cluster" = name) := by
  cases h <;>
    simp [parameters, NodeRef.byUid, NodeRef.byName, NodeRef.byNamespacedName, eq_comm]

namespace Request

theorem contains_bind (r : Request) (bound name : String) (a : Argument) :
    (r.bind bound a).arguments.contains name = true
      ↔ bound = name ∨ r.arguments.contains name = true := by
  unfold bind Dict.contains
  rw [Dict.find?_insert]
  by_cases h : bound = name <;> simp [h]

theorem contains_bindText (r : Request) (bound name value : String) :
    (r.bindText bound value).arguments.contains name = true
      ↔ bound = name ∨ r.arguments.contains name = true :=
  r.contains_bind bound name _

theorem not_contains_ofText (text name : String) :
    ¬(ofText text).arguments.contains name = true :=
  nofun

end Request

namespace Call

/-- The call has a request that `Fits` a template for the kind, and sends it as one query. -/
def IsWorded (w : Writer) (k : Kind) (c : Call) : Prop :=
  ∃ t r, Template.IsFor w k t ∧ c.request = .ok (some r) ∧ r.Fits t
    ∧ ∀ {σ : Type} (db : Database σ) (s : σ), db.send c r s = db (.query r) s

variable {w : Writer} {k : Kind}

theorem isWorded_upsert {properties : Dict Json} {uid : String}
    (huid : (storedProperties properties).find? Key.uid = some (.text uid)) :
    (upsert .direct [k.name] properties Key.uid).IsWorded w k := by
  have hrequest : (upsert .direct [k.name] properties Key.uid).request
      = .ok (some (((Request.ofText (Template.upsert k.name).text).bind Key.uid
          (.scalar (.text uid))).bind "properties" (.record (storedProperties properties)))) := by
    simp only [request, Statement.upsert_uid k.isIdentifier_name, huid]
  refine ⟨_, _, .upsert, hrequest, ⟨rfl, fun name => ?_⟩, fun _ _ => rfl⟩
  rw [Request.contains_bind, Request.contains_bind]
  simp [Request.not_contains_ofText, Template.parameters, Key.uid, eq_comm, or_comm]

theorem isWorded_delete (uid : String) : (delete k.name Key.uid uid).IsWorded w k := by
  have hrequest : (delete k.name Key.uid uid).request
      = .ok (some ((Request.ofText (Template.delete k.name).text).bindText "value" uid)) := by
    simp only [request, named, Statement.delete_uid k.isIdentifier_name]
  refine ⟨_, _, .delete, hrequest, ⟨rfl, fun name => ?_⟩, fun _ _ => rfl⟩
  rw [Request.contains_bindText]
  simp [Request.not_contains_ofText, Template.parameters, eq_comm]

theorem isWorded_search {s : Search} (h : s.label ∈ ["Pod", "Service"]) :
    (s.call w).IsWorded w k := by
  have hlabel : ∀ label ∈ ["Pod", "Service"], isIdentifier label = true := by decide
  have hnames : "f" ++ toString 0 = "f0" ∧ "f" ++ toString 1 = "f1" ∧ "f" ++ toString 2 = "f2" := by
    decide +kernel
  have hrequest : (s.call w).request
      = .ok (some ((((Request.ofText (Template.list s.label).text).bindText "f0"
          s.namespace_).bindText "f1" w.id.cluster).bindText "f2" w.id.hash)) := by
    simp only [Search.call, request, named, List.map_cons, List.map_nil,
      Statement.list_candidates (hlabel _ h), bindFilters, Nat.zero_add, Nat.reduceAdd, hnames]
  refine ⟨_, _, .list h, hrequest, ⟨rfl, fun name => ?_⟩, fun _ _ => rfl⟩
  rw [Request.contains_bindText, Request.contains_bindText, Request.contains_bindText]
  simp [Request.not_contains_ofText, Template.parameters, eq_comm, or_comm, or_left_comm]

theorem text_bindCluster (r : Request) (name : String) (ref : NodeRef) :
    (bindCluster r name ref).text = r.text := by
  unfold bindCluster
  split <;> rfl

theorem contains_bindCluster (r : Request) (bound name : String) (ref : NodeRef) :
    (bindCluster r bound ref).arguments.contains name = true
      ↔ (ref.cluster.isSome ∧ bound = name) ∨ r.arguments.contains name = true := by
  unfold bindCluster
  split
  · rename_i h
    rw [Request.contains_bindText, h]
    simp
  · rename_i h
    rw [h]
    simp

/-- The request of a link whose statement is `text`. -/
def linkRequest (l : Link) (text : String) : Request :=
  bindCluster
    (bindCluster (((Request.ofText text).bindText "a_value" l.source.value).bindText "b_value"
      l.target.value) "a_cluster" l.source)
    "b_cluster" l.target

theorem request_link {l : Link} {text : String}
    (h : Statement.relationship l.source l.rel l.target = .ok text) :
    l.call.request = .ok (some (linkRequest l text)) := by
  simp only [Link.call, request, named, h, linkRequest]

theorem text_linkRequest (l : Link) (text : String) : (linkRequest l text).text = text := by
  rw [linkRequest, text_bindCluster, text_bindCluster]
  rfl

/-- The arguments of a link are the values of both ends, and the clusters of those that have one. -/
theorem contains_linkRequest (l : Link) (text name : String) :
    (linkRequest l text).arguments.contains name = true
      ↔ ("a" ++ "_value" = name ∨ (l.source.cluster.isSome ∧ "a" ++ "_cluster" = name))
        ∨ "b" ++ "_value" = name ∨ (l.target.cluster.isSome ∧ "b" ++ "_cluster" = name) := by
  have hnames : "a" ++ "_value" = "a_value" ∧ "b" ++ "_value" = "b_value"
      ∧ "a" ++ "_cluster" = "a_cluster" ∧ "b" ++ "_cluster" = "b_cluster" := by decide +kernel
  rw [linkRequest, contains_bindCluster, contains_bindCluster, Request.contains_bindText,
    Request.contains_bindText]
  simp only [Request.not_contains_ofText, hnames]
  tauto

theorem isWorded_link {l : Link} {source target : Place} (hsource : source.Describes l.source)
    (htarget : target.Describes l.target) (h : Template.IsFor w k (.link source l.rel target))
    (hlabel : isIdentifier source.label = true) (hlabel' : isIdentifier target.label = true) :
    l.call.IsWorded w k := by
  have htext := Statement.relationship_of_describes hsource htarget hlabel hlabel' l.rel
  refine ⟨_, _, h, request_link htext, ⟨text_linkRequest l _, fun name => ?_⟩, fun _ _ => rfl⟩
  rw [contains_linkRequest, Template.parameters, List.mem_append,
    Place.mem_parameters_iff hsource, Place.mem_parameters_iff htarget]

end Call

/-! ## Plans -/

namespace Sync

variable {w : Writer} {k : Kind} {c : Call}

/-- A link of the object whose other end the writer makes is worded. -/
theorem isWorded_of_isMade (hw : w.owners.Named) {m : ObjectMeta} {l : Link}
    (hl : l.IsMade w (self k m)) : l.call.IsWorded w k := by
  have hself : (Place.byUid k.name).Describes (self k m) := .byUid _ _
  cases hl with
  | leads rel hother =>
      obtain ⟨p, hp, hknown⟩ := hother.exists_place
      exact Call.isWorded_link hself hp (.leads rel hknown) k.isIdentifier_name (hknown.isLabel hw)
  | comes rel hother =>
      obtain ⟨p, hp, hknown⟩ := hother.exists_place
      exact Call.isWorded_link hp hself (.comes rel hknown) (hknown.isLabel hw) k.isIdentifier_name

theorem isWorded_create (hw : w.owners.Named) {now : Instant} {raw : RawObject}
    (h : (create w now k raw).Calls c) : c.IsWorded w k := by
  obtain ⟨o, uid, -, -, rfl | h⟩ := calls_create h
  · exact Call.isWorded_upsert (ObjectOf.storedUid w.id now uid k o)
  · rcases made_relate h with ⟨s, rfl, hlabel⟩ | ⟨l, rfl, hmade⟩
    · exact Call.isWorded_search hlabel
    · exact isWorded_of_isMade hw hmade

theorem isWorded_delete {raw : RawObject} (h : (delete k raw).Calls c) : c.IsWorded w k := by
  obtain ⟨-, uid, -, rfl⟩ := calls_delete h
  exact Call.isWorded_delete uid

end Sync

/-! ## Messages -/

namespace Database

/-- A database that records the messages it gets, and may reply to them in any way. -/
def remembering (reply : List Message → Message → Except StoreError (List Row)) :
    Database (List Message) :=
  fun m sent => (reply sent m, sent ++ [m])

variable {α : Type} {w : Writer} {k : Kind}
  (reply : List Message → Message → Except StoreError (List Row))

/-- Performing a worded call sends one query, which fits a template. -/
theorem sent_perform {c : Call} (hc : c.IsWorded w k) (sent : List Message) :
    ∃ t r, Template.IsFor w k t ∧ r.Fits t
      ∧ ((remembering reply).perform c sent).2 = sent ++ [.query r] := by
  obtain ⟨t, r, ht, hrequest, hfits, hsend⟩ := hc
  refine ⟨t, r, ht, hfits, ?_⟩
  unfold perform
  rw [hrequest]
  simp only [hsend, remembering]
  cases reply sent (.query r) <;> rfl

/-- Running a plan of worded calls sends only queries that fit a template. -/
theorem sent_run {p : Plan α} (hp : ∀ c, p.Calls c → c.IsWorded w k) :
    ∀ m ∈ (p.run (remembering reply).perform []).2,
      ∃ t r, m = .query r ∧ Template.IsFor w k t ∧ r.Fits t := by
  refine Plan.run_induction (P := fun sent : List Message => ∀ m ∈ sent,
    ∃ t r, m = .query r ∧ Template.IsFor w k t ∧ r.Fits t) (fun c sent hc hsent => ?_)
    fun m hm => absurd hm List.not_mem_nil
  obtain ⟨t, r, ht, hfits, heq⟩ := sent_perform reply (hp c hc) sent
  rw [heq, List.forall_mem_append]
  exact ⟨hsent, List.forall_mem_singleton.mpr ⟨t, r, rfl, ht, hfits⟩⟩

end Database

/-- What is said to a database while an object is followed, for every sequence of registrations,
every object, and every reply. The registered kinds and labels are all names, and a registration
that is refused changes nothing; no call of `create` and `delete` is refused, and every message is a
query that fits a template for the kind, with arguments for exactly its parameters. -/
theorem Sync.speaks_in_templates (requests : List Registration) (id : Identity) (now : Instant)
    (k : Kind) (raw : RawObject)
    (reply : List Message → Message → Except StoreError (List Row)) :
    let w : Writer := ⟨id, OwnerKinds.reached requests⟩
    (w.owners.Named
        ∧ OwnerKinds.reached (requests.filter (·.isAccepted)) = w.owners
        ∧ ∀ x : Registration, (∃ e, x.request w.owners = .error e) →
            ¬(IsName x.kind ∧ IsName x.label) ∧ OwnerKinds.reached (requests ++ [x]) = w.owners)
      ∧ ∀ p ∈ [Sync.create w now k raw, Sync.delete k raw],
          (∀ c, p.Calls c → ∃ r, c.request = .ok (some r))
            ∧ ∀ m ∈ (p.run (Database.remembering reply).perform []).2,
                ∃ t r, m = .query r ∧ Template.IsFor w k t ∧ r.Fits t := by
  intro w
  have hnamed : w.owners.Named := OwnerKinds.named_reached requests
  refine ⟨⟨hnamed, OwnerKinds.reached_filter requests, fun x herror => ?_⟩, fun p hp => ?_⟩
  · obtain ⟨e, herror⟩ := herror
    rcases x.request_cases w.owners with ⟨-, hrequest⟩ | ⟨hturned, -⟩
    · cases hrequest.symm.trans herror
    · rw [← Registration.isAccepted_iff, hturned, OwnerKinds.reached_concat]
      exact ⟨nofun, OwnerKinds.after_of_not_isAccepted hturned _⟩
  · have hworded : ∀ c, p.Calls c → c.IsWorded w k := by
      intro c hc
      simp only [List.mem_cons, List.not_mem_nil, or_false] at hp
      rcases hp with rfl | rfl
      · exact Sync.isWorded_create hnamed hc
      · exact Sync.isWorded_delete hc
    refine ⟨fun c hc => ?_, Database.sent_run reply hworded⟩
    obtain ⟨-, r, -, hrequest, -⟩ := hworded c hc
    exact ⟨r, hrequest⟩

/-- A text that would delete all pods if it were put where a label stands. -/
def hostileKind : String :=
  "Pod) DETACH DELETE (n"

/-- A pod with two owners, one of which is of the kind `hostileKind`. -/
def hostilePod : PodObject :=
  ⟨⟨some "a", some hostileKind, some "shop", none, none, none,
    [⟨hostileKind, "b", true⟩, ⟨"Deployment", "c", true⟩]⟩, none, none⟩

/-- Instance of `speaks_in_templates`: the hostile kind is refused, and the pod is written and
linked to the other owner and to its namespace. -/
theorem Sync.speaks_in_templates_hostile :
    let w : Writer := ⟨⟨"shop", "new"⟩, OwnerKinds.reached [.own hostileKind, .own "Deployment"]⟩
    let sent := ((Sync.create w ⟨0, 0⟩ .pod (.typed .pod hostilePod)).run
      (Database.remembering fun _ _ => .ok []).perform []).2
    w.owners.kinds = ["Deployment"] ∧ sent.length = 3
      ∧ ∀ m ∈ sent, ∃ t r, m = .query r ∧ Template.IsFor w .pod t ∧ r.Fits t := by
  intro w sent
  obtain ⟨-, hsent⟩ := Sync.speaks_in_templates [.own hostileKind, .own "Deployment"]
    ⟨"shop", "new"⟩ ⟨0, 0⟩ .pod (.typed .pod hostilePod) fun _ _ => .ok []
  exact ⟨by decide +kernel, by decide +kernel, (hsent _ List.mem_cons_self).2⟩

end ClusterGraph
