import ClusterGraph.Pipeline.Consumer
import ClusterGraph.Proofs.Dict.Bindings
import ClusterGraph.Proofs.Resource.Identity
import ClusterGraph.Proofs.Store.NodeChange
import Mathlib.Data.List.Nodup

/-!
# ClusterGraph.Proofs.Projection.Following

**What following a notification asks of a store: at most one call that touches a node, and
that call comes first.**

`Follows` lists the three shapes that the plan for a notification can have; everything else
is read off it. In particular

* all calls are for objects of the kind (`Follows.isOf`), and only the first touches a node
  (`Follows.changesFirst`);
* what it does to the entry of an identifier (`Notification.change`) depends on the clock for
  the time of recording of an event alone (`Notification.map_change_congr`);
* an object that is touched has the identifier by which its lane was chosen
  (`Notification.uid?_of_change`).
-/

namespace ClusterGraph

/-! ## Fields -/

theorem forall_mem_fieldsOf {α : Type} {part : Option α} {fields : α → List PropertyField}
    {P : PropertyField → Prop} :
    (∀ f ∈ fieldsOf part fields, P f) ↔ ∀ a, part = some a → ∀ f ∈ fields a, P f := by
  cases part <;> simp [fieldsOf]

namespace ObjectOf

/-- Keys of which `metadataFields` say something and `ownFields` nothing, for every kind. -/
def metadataKeys : List String :=
  [Key.uid, Key.name, Key.namespace_, Key.clusterName, Key.instanceHash, "labels"]

theorem ownFields_not_metadataKeys (now : Instant) (k : Kind) (o : ObjectOf k) :
    ∀ f ∈ ownFields now k o, f.1 ∉ metadataKeys := by
  cases k <;>
    simp only [ownFields, NamespaceObject.fields, NodeObject.fields, PodObject.fields,
      DeploymentObject.fields, ReplicaSetObject.fields, StatefulSetObject.fields,
      DaemonSetObject.fields, JobObject.fields, CronJobObject.fields, ServiceObject.fields,
      IngressObject.fields, ConfigMapObject.fields, SecretObject.fields,
      PersistentVolumeClaimObject.fields, PersistentVolumeObject.fields,
      HorizontalPodAutoscalerObject.fields, ScaledObjectObject.fields, EventObject.fields,
      List.forall_mem_append, forall_mem_fieldsOf] <;>
    simp [metadataKeys, Key.uid, Key.name, Key.namespace_, Key.clusterName, Key.instanceHash,
      Key.annotations, Key.createdAt]

/-- No key comes twice in `metadataFields`. -/
theorem nodup_metadataFields (id : Identity) (uid : String) (m : ObjectMeta) :
    ((metadataFields id uid m).map Prod.fst).Nodup := by
  unfold metadataFields namespacedField
  split <;> simp [Key.uid, Key.name, Key.namespace_, Key.clusterName, Key.instanceHash,
    Key.annotations, Key.namespacedName]

section Stored

variable {id : Identity} {now : Instant} {uid : String} {k : Kind} {o : ObjectOf k} {key : String}

/-- If all fields under `key` have the same `value`, the node holds its stored form, unless the kind
omits the key. -/
theorem stored_of_fields {value : Json} (hkept : (omittedKeys k).contains key = false)
    (hmem : (key, value) ∈ metadataFields id uid (objectMeta k o) ++ ownFields now k o)
    (hvalue : ∀ f ∈ metadataFields id uid (objectMeta k o) ++ ownFields now k o,
      f.1 = key → f.2 = value) :
    (storedProperties (fields id now uid k o)).find? key = value.stored? := by
  unfold storedProperties fields
  rw [(Dict.ordered_ofList _).find?_filterMap, Dict.find?_ofList_eq_some]
  · rfl
  · exact List.mem_filter.mpr ⟨hmem, by simpa using hkept⟩
  · exact fun f hf => hvalue f (List.mem_filter.mp hf).1

/-- If all fields under `key` are omitted by the kind, or there are none, the node holds nothing
under `key`. -/
theorem stored_of_absent (h : ∀ f ∈ metadataFields id uid (objectMeta k o) ++ ownFields now k o,
      f.1 = key → (omittedKeys k).contains key = true) :
    (storedProperties (fields id now uid k o)).find? key = none := by
  unfold storedProperties fields
  rw [(Dict.ordered_ofList _).find?_filterMap, Dict.find?_ofList_eq_none]
  · rfl
  · rintro f hf rfl
    obtain ⟨hmem, hkept⟩ := List.mem_filter.mp hf
    rw [h f hmem rfl] at hkept
    cases hkept

/-- Under a key of `metadataKeys`, the node holds what the metadata says, unless the kind omits the
key. -/
theorem stored_of_metadata (value : Json) (hkey : key ∈ metadataKeys)
    (hmem : (key, value) ∈ metadataFields id uid (objectMeta k o)) :
    (storedProperties (fields id now uid k o)).find? key
      = if (omittedKeys k).contains key then none else value.stored? := by
  split
  · rename_i homitted
    exact stored_of_absent fun _ _ _ => homitted
  · rename_i hkept
    refine stored_of_fields (by simpa using hkept) (List.mem_append_left _ hmem) ?_
    intro f hf hfkey
    rcases List.mem_append.mp hf with h | h
    · exact congrArg Prod.snd (List.inj_on_of_nodup_map (nodup_metadataFields _ _ _) h hmem hfkey)
    · exact absurd (hfkey ▸ hkey) (ownFields_not_metadataKeys now k o f h)

end Stored

theorem uid_not_mem_omittedKeys (k : Kind) : (omittedKeys k).contains Key.uid = false := by
  cases k <;> decide

/-- The node of an object holds its `uid`. -/
theorem storedUid (id : Identity) (now : Instant) (uid : String) (k : Kind) (o : ObjectOf k) :
    (storedProperties (fields id now uid k o)).find? Key.uid = some (.text uid) := by
  rw [stored_of_metadata (.text uid) (by decide) (by simp [metadataFields]),
    uid_not_mem_omittedKeys]
  rfl

/-- The own fields of an object depend on the time only if it is an event. -/
theorem ownFields_of_ne_event {k : Kind} (hk : k ≠ .event) (now now' : Instant)
    (o : ObjectOf k) : ownFields now k o = ownFields now' k o := by
  cases k with
  | event => exact absurd rfl hk
  | _ => rfl

/-- The properties of a node do not depend on when it is written, but for the `createdAt` of an
event (`Node.lasting`). -/
theorem lasting_fields (id : Identity) (now now' : Instant) (uid : String) (k : Kind)
    (o : ObjectOf k) :
    Node.lasting [k.name] (storedProperties (fields id now uid k o))
      = Node.lasting [k.name] (storedProperties (fields id now' uid k o)) := by
  by_cases hk : k = .event
  · subst hk
    -- The clock is read for the first of the own fields alone, and that is the one left out.
    have herase : ∀ at_ : Instant, (fields id at_ uid .event o).erase Key.createdAt
        = Dict.ofList (((metadataFields id uid (EventObject.objectMeta o)
          ++ (EventObject.fields now o).tail).filter fun field =>
            !(omittedKeys .event).contains field.1).filter fun field =>
              field.1 ≠ Key.createdAt) := by
      intro at_
      unfold fields ownFields EventObject.fields
      rw [Dict.erase_ofList, List.filter_filter, List.filter_filter, List.filter_append,
        List.filter_append, List.filter_cons_of_neg (by simp), List.tail_cons]
      rfl
    have hlabel : [Kind.event.name].contains Label.event = true := by decide
    unfold Node.lasting storedProperties
    rw [if_pos hlabel, if_pos hlabel, Dict.erase_filterMap, Dict.erase_filterMap, herase now,
      herase now']
  · unfold fields
    rw [ownFields_of_ne_event hk now now']

end ObjectOf

/-! ## Identifiers -/

/-- The name of a kind `isIdentifier`, so it can be a label. -/
theorem Kind.isIdentifier_name (k : Kind) : isIdentifier k.name = true := by
  cases k <;> decide

/-! ## The plan for a notification -/

namespace Sync

theorem keepsNodes_linkAll (links : List Link) : (linkAll links).KeepsNodes := by
  refine Plan.keepsNodes_forEach fun l _ c hc => ?_
  cases hc with
  | here => rfl
  | later _ h => exact absurd h Plan.not_calls_done

theorem keepsNodes_select (w : Writer) (search : Search) : (select w search).KeepsNodes := by
  intro c hc
  cases hc with
  | here => rfl
  | later answer h =>
      cases answer with
      | ok found => exact keepsNodes_linkAll _ c h
      | error e => exact absurd h Plan.not_calls_done

theorem keepsNodes_relate (w : Writer) (k : Kind) (o : ObjectOf k) :
    (relate w k o).KeepsNodes := by
  refine (keepsNodes_linkAll _).bind fun _ => ?_
  cases ObjectOf.search? (self k (ObjectOf.objectMeta k o)) k o with
  | none => exact Plan.keepsNodes_done ()
  | some search => exact keepsNodes_select w search

/-- When `identify` succeeds: the metadata has a `uid`, and it is not empty. -/
theorem identify_eq_ok_iff {kind uid : String} {m : ObjectMeta} :
    identify kind m = .ok uid ↔ m.uid = some uid ∧ uid ≠ "" := by
  unfold identify
  cases m.uid with
  | none => simp
  | some found =>
      by_cases hempty : found = ""
      · simp only [hempty, if_true, reduceCtorEq, Option.some.injEq, false_iff]
        intro hgiven
        obtain ⟨rfl, hne⟩ := hgiven
        exact hne rfl
      · simp only [hempty, if_false, Except.ok.injEq, Option.some.injEq]
        constructor
        · intro heq
          subst heq
          exact ⟨rfl, hempty⟩
        · exact And.left

/-- What follows the upsert in the plan of `create`: nothing if it failed, and otherwise
`relate`. -/
def conclude (w : Writer) (k : Kind) (o : ObjectOf k) :
    Except StoreError Unit → Plan (Except SyncError Unit)
  | .error e => .done (.error (.store e))
  | .ok _ => (relate w k o).bind fun _ => .done (.ok ())

theorem create_of_properties {w : Writer} {now : Instant} {k : Kind} {raw : RawObject}
    {o : ObjectOf k} {fields : Dict Json} (hconvert : raw.convert k k.name = .ok o)
    (hfields : properties w now k o = .ok fields) :
    create w now k raw = .call (.upsert .direct [k.name] fields Key.uid) (conclude w k o) := by
  unfold create write
  rw [hconvert]
  simp only [hfields]
  congr 1
  funext answer
  cases answer <;> rfl

theorem properties_eq_ok_iff {w : Writer} {now : Instant} {k : Kind} {o : ObjectOf k}
    {fields : Dict Json} :
    properties w now k o = .ok fields
      ↔ ∃ uid, (ObjectOf.objectMeta k o).uid = some uid ∧ uid ≠ ""
        ∧ fields = ObjectOf.fields w.id now uid k o := by
  unfold properties
  constructor
  · intro h
    cases hidentify : identify k.name (ObjectOf.objectMeta k o) with
    | error e =>
        rw [hidentify] at h
        cases h
    | ok uid =>
        rw [hidentify] at h
        obtain ⟨huid, hne⟩ := identify_eq_ok_iff.mp hidentify
        exact ⟨uid, huid, hne, (Except.ok.inj h).symm⟩
  · rintro ⟨uid, huid, hne, rfl⟩
    rw [identify_eq_ok_iff.mpr ⟨huid, hne⟩]
    rfl

/-- Case analysis of `create`: either it is `done` with a conversion error and makes no call, or the
object is read, has a `uid`, and the first call is the upsert of its node. -/
theorem create_cases (w : Writer) (now : Instant) (k : Kind) (raw : RawObject) :
    (∃ e, create w now k raw = .done (.error (.conversion e)))
      ∨ ∃ (o : ObjectOf k) (uid : String), raw.convert k k.name = .ok o
        ∧ (ObjectOf.objectMeta k o).uid = some uid ∧ uid ≠ ""
        ∧ create w now k raw
          = .call (.upsert .direct [k.name] (ObjectOf.fields w.id now uid k o) Key.uid)
              (conclude w k o) := by
  cases hconvert : raw.convert k k.name with
  | error e =>
      left
      exact ⟨e, by simp [create, hconvert]⟩
  | ok o =>
      cases hfields : properties w now k o with
      | error e =>
          left
          exact ⟨e, by simp [create, hconvert, write, hfields]⟩
      | ok fields =>
          right
          obtain ⟨uid, huid, hne, rfl⟩ := properties_eq_ok_iff.mp hfields
          exact ⟨o, uid, rfl, huid, hne, create_of_properties hconvert hfields⟩

/-- What follows the deletion in the plan of `delete`: its answer is the result. -/
def report : Except StoreError Unit → Plan (Except SyncError Unit)
  | .error e => .done (.error (.store e))
  | .ok _ => .done (.ok ())

theorem delete_of_requireUid {k : Kind} (hk : k ≠ .event) {raw : RawObject} {uid : String}
    (huid : raw.requireUid k.name = .ok uid) :
    delete k raw = .call (.delete k.name Key.uid uid) report := by
  unfold delete
  rw [if_neg hk]
  simp only [huid]
  congr 1
  funext answer
  cases answer <;> rfl

/-- Case analysis of `delete`: either it is `done` and makes no call, or the object has a `uid`, and
the one call deletes its node. -/
theorem delete_cases (k : Kind) (raw : RawObject) :
    (∃ result, delete k raw = .done result)
      ∨ k ≠ .event ∧ ∃ uid, raw.uid? = some uid ∧ uid ≠ ""
        ∧ delete k raw = .call (.delete k.name Key.uid uid) report := by
  by_cases hk : k = .event
  · exact .inl ⟨.ok (), by simp [delete, hk]⟩
  · cases hrequire : raw.requireUid k.name with
    | error e => exact .inl ⟨.error (.conversion e), by simp [delete, hk, hrequire]⟩
    | ok uid =>
        obtain ⟨huid, hne⟩ := RawObject.requireUid_eq_ok_iff.mp hrequire
        exact .inr ⟨hk, uid, huid, hne, delete_of_requireUid hk hrequire⟩

end Sync

/-- Inversion of `Environment.followObject`: the forms of a plan for a notification of the kind
`k`. -/
inductive Follows (w : Writer) (now : Instant) (k : Kind) :
    Notification → Plan (Except SyncError Unit) → Prop where
  /-- No call: there is nothing to do, or the object is refused. -/
  | nothing (n : Notification) (result : Except SyncError Unit) : Follows w now k n (.done result)
  /-- The object is read and has a `uid`: the first call is the upsert of its node, and all calls
  after it keep nodes. -/
  | written {n : Notification} {raw : RawObject} {o : ObjectOf k} {uid : String}
      {next : Except StoreError Unit → Plan (Except SyncError Unit)}
      (hraw : n.object? = some raw) (hconvert : raw.convert k k.name = .ok o)
      (huid : (ObjectOf.objectMeta k o).uid = some uid)
      (hnext : ∀ answer, (next answer).KeepsNodes) :
      Follows w now k n
        (.call (.upsert .direct [k.name] (ObjectOf.fields w.id now uid k o) Key.uid) next)
  /-- The object is gone and had a `uid`: the first call deletes its node, and all calls after it
  keep nodes. -/
  | deleted {raw : RawObject} {uid : String}
      {next : Except StoreError Unit → Plan (Except SyncError Unit)}
      (huid : raw.uid? = some uid) (hnext : ∀ answer, (next answer).KeepsNodes) :
      Follows w now k (.delete raw) (.call (.delete k.name Key.uid uid) next)

namespace Follows

variable {w : Writer} {now : Instant} {k : Kind} {n : Notification}
  {p : Plan (Except SyncError Unit)}

theorem create {raw : RawObject} (hraw : n.object? = some raw) :
    Follows w now k n (Sync.create w now k raw) := by
  rcases Sync.create_cases w now k raw with ⟨e, he⟩ | ⟨o, uid, hconvert, huid, -, hcall⟩
  · rw [he]
    exact .nothing n _
  · rw [hcall]
    refine .written hraw hconvert huid fun answer => ?_
    cases answer with
    | error e => exact Plan.keepsNodes_done _
    | ok _ => exact (Sync.keepsNodes_relate w k o).bind fun _ => Plan.keepsNodes_done _

theorem delete (raw : RawObject) : Follows w now k (.delete raw) (Sync.delete k raw) := by
  rcases Sync.delete_cases k raw with ⟨result, hresult⟩ | ⟨-, uid, huid, -, hcall⟩
  · rw [hresult]
    exact .nothing _ result
  · rw [hcall]
    refine .deleted huid fun answer => ?_
    cases answer <;> exact Plan.keepsNodes_done _

/-- The plan of every notification has one of these forms. -/
theorem followObject (w : Writer) (now : Instant) (k : Kind) (n : Notification) :
    Follows w now k n (Environment.followObject w now k n) := by
  cases n with
  | add raw => exact create rfl
  | update raw => exact create rfl
  | delete raw => exact delete raw
  | synced => exact .nothing _ _

/-- All calls of such a plan are about the kind (`Call.IsOf`). -/
theorem isOf (h : Follows w now k n p) : ∀ c, p.Calls c → c.IsOf k.name := by
  intro c hc
  cases h with
  | nothing => exact absurd hc Plan.not_calls_done
  | written _ _ _ hnext =>
      cases hc with
      | here => exact .upsert .direct (ObjectOf.storedUid w.id now _ k _)
      | later answer hc => exact .keeps (hnext answer c hc)
  | deleted _ hnext =>
      cases hc with
      | here => exact .delete _
      | later answer hc => exact .keeps (hnext answer c hc)

/-- Only the first call of such a plan changes nodes. -/
theorem changesFirst (h : Follows w now k n p) : p.ChangesFirst := by
  cases h with
  | nothing => exact trivial
  | written _ _ _ hnext => exact hnext
  | deleted _ hnext => exact hnext

/-- The node that is changed is the one of `Notification.uid?`, which also decided the lane. -/
theorem uid?_of_firstChange (h : Follows w now k n p)
    (hobject : ∀ raw, n.object? = some raw → raw.IsObject) {uid : String}
    (hchange : p.firstChange uid ≠ .keep) : n.uid? = some uid := by
  cases h with
  | nothing => exact absurd rfl hchange
  | @written n raw o value next hraw hconvert huid =>
      have hvalue : value = uid := by
        refine Classical.byContradiction fun hne => hchange ?_
        simp [Plan.firstChange, Call.change, ObjectOf.storedUid, hne]
      rw [Notification.uid?, hraw, Option.bind_some,
        ← (hobject raw hraw).uid_of_convert hconvert, huid, hvalue]
  | @deleted raw value next huid =>
      have hvalue : value = uid := by
        refine Classical.byContradiction fun hne => hchange ?_
        simp [Plan.firstChange, Call.change, hne]
      rw [← hvalue]
      exact huid

end Follows

/-! ## Changes -/

namespace Notification

/-- The change to the entry of `uid` that a notification calls for: that of the first call of its
plan. -/
def change (w : Writer) (now : Instant) (k : Kind) (uid : String) (n : Notification) :
    NodeChange :=
  (Environment.followObject w now k n).firstChange uid

theorem change_of_convert {w : Writer} {now : Instant} {k : Kind} {uid : String}
    {n : Notification} {raw : RawObject} {o : ObjectOf k} (hn : n = .add raw ∨ n = .update raw)
    (hconvert : raw.convert k k.name = .ok o) (huid : (ObjectOf.objectMeta k o).uid = some uid)
    (hne : uid ≠ "") (other : String) :
    n.change w now k other
      = if uid = other then .write (storedProperties (ObjectOf.fields w.id now uid k o))
        else .keep := by
  have hidentify : Sync.identify k.name (ObjectOf.objectMeta k o) = .ok uid :=
    Sync.identify_eq_ok_iff.mpr ⟨huid, hne⟩
  have hcreate : n.change w now k other = (Sync.create w now k raw).firstChange other := by
    rcases hn with rfl | rfl <;> rfl
  rw [hcreate]
  simp [Sync.create, hconvert, Sync.write, Sync.properties, hidentify, Except.map,
    Plan.firstChange, Call.change, ObjectOf.storedUid]

theorem change_delete {w : Writer} {now : Instant} {k : Kind} (hk : k ≠ .event) {uid : String}
    {raw : RawObject} (huid : raw.requireUid k.name = .ok uid) (other : String) :
    (Notification.delete raw).change w now k other = if uid = other then .remove else .keep := by
  simp [change, Environment.followObject, Sync.delete, hk, huid, Plan.firstChange, Call.change]

/-- But for `createdAt`, the change does not depend on the time. -/
theorem map_change_congr (w : Writer) (now now' : Instant) (k : Kind) (uid : String)
    (n : Notification) :
    (n.change w now k uid).map (Node.lasting [k.name])
      = (n.change w now' k uid).map (Node.lasting [k.name]) := by
  have hcreate : ∀ raw, ((Sync.create w now k raw).firstChange uid).map (Node.lasting [k.name])
      = ((Sync.create w now' k raw).firstChange uid).map (Node.lasting [k.name]) := by
    intro raw
    unfold Sync.create
    cases raw.convert k k.name with
    | error e => rfl
    | ok o =>
        simp only [Sync.write, Sync.properties]
        cases Sync.identify k.name (ObjectOf.objectMeta k o) with
        | error e => rfl
        | ok value =>
            simp only [Except.map, Plan.firstChange, Call.change, ObjectOf.storedUid]
            split
            · exact congrArg NodeChange.write (ObjectOf.lasting_fields w.id now now' value k o)
            · rfl
  cases n with
  | add raw => exact hcreate raw
  | update raw => exact hcreate raw
  | delete raw => rfl
  | synced => rfl

/-- A notification changes the entry of its own `uid?` and no other. -/
theorem uid?_of_change {w : Writer} {now : Instant} {k : Kind} {uid : String}
    {n : Notification} (hobject : ∀ raw, n.object? = some raw → raw.IsObject)
    (hchange : n.change w now k uid ≠ .keep) : n.uid? = some uid :=
  (Follows.followObject w now k n).uid?_of_firstChange hobject hchange

end Notification

end ClusterGraph
