import ClusterGraph.Proofs.Projection.Forms
import ClusterGraph.Proofs.Projection.Timing
import ClusterGraph.Proofs.Projection.Withholding
import ClusterGraph.Proofs.Resource.Normalizing
import ClusterGraph.Proofs.Watch.Relisting

/-!
# ClusterGraph.Proofs.Watch.Delivering

**What a watch makes of an object is lost on whoever follows it.**

A watch reads an object of any type, and hands it on as it is written back: with metadata in
normal form, and with the version and kind of the watch where the object says neither. Each kind
reads that again by its own schema. Three things make the detour invisible:

* metadata that are written back are well-typed, and say the same but for fractions of seconds
  (`ObjectMeta.ofJson_normalize`), which no property tells (`ObjectOf.fields_toSecond`);
* all other fields stand as they stood (`Delivers`), and no kind reads its metadata in any other
  place than the rest (`ObjectOf.exists_read`);
* so the object is read if and only if the original is, with the same errors
  (`Delivers.convert_eq`), and the same is done about it (`Delivers.create_eq`).
-/

namespace ClusterGraph

/-! ## Fractions of seconds -/

namespace ObjectOf

/-- The object `o`, with `ObjectMeta.toSecond` applied to its metadata: every instant in them loses
its fraction of a second. -/
def toSecond : (k : Kind) → ObjectOf k → ObjectOf k
  | .namespace_, (o : NamespaceObject) => { o with objectMeta := o.objectMeta.toSecond }
  | .node, (o : NodeObject) => { o with objectMeta := o.objectMeta.toSecond }
  | .pod, (o : PodObject) => { o with objectMeta := o.objectMeta.toSecond }
  | .deployment, (o : DeploymentObject) => { o with objectMeta := o.objectMeta.toSecond }
  | .replicaSet, (o : ReplicaSetObject) => { o with objectMeta := o.objectMeta.toSecond }
  | .statefulSet, (o : StatefulSetObject) => { o with objectMeta := o.objectMeta.toSecond }
  | .daemonSet, (o : DaemonSetObject) => { o with objectMeta := o.objectMeta.toSecond }
  | .job, (o : JobObject) => { o with objectMeta := o.objectMeta.toSecond }
  | .cronJob, (o : CronJobObject) => { o with objectMeta := o.objectMeta.toSecond }
  | .service, (o : ServiceObject) => { o with objectMeta := o.objectMeta.toSecond }
  | .ingress, (o : IngressObject) => { o with objectMeta := o.objectMeta.toSecond }
  | .configMap, (o : ConfigMapObject) => { o with objectMeta := o.objectMeta.toSecond }
  | .secret, (o : SecretObject) => { o with objectMeta := o.objectMeta.toSecond }
  | .persistentVolumeClaim, (o : PersistentVolumeClaimObject) =>
      { o with objectMeta := o.objectMeta.toSecond }
  | .persistentVolume, (o : PersistentVolumeObject) =>
      { o with objectMeta := o.objectMeta.toSecond }
  | .horizontalPodAutoscaler, (o : HorizontalPodAutoscalerObject) =>
      { o with objectMeta := o.objectMeta.toSecond }
  | .scaledObject, (o : ScaledObjectObject) => { o with objectMeta := o.objectMeta.toSecond }
  | .event, (o : EventObject) => { o with objectMeta := o.objectMeta.toSecond }

theorem objectMeta_toSecond (k : Kind) (o : ObjectOf k) :
    objectMeta k (toSecond k o) = (objectMeta k o).toSecond := by
  cases k <;> rfl

theorem ownFields_toSecond (now : Instant) (k : Kind) (o : ObjectOf k) :
    ownFields now k (toSecond k o) = ownFields now k o := by
  cases k <;> rfl

theorem links_toSecond (w : Writer) (self : NodeRef) (k : Kind) (o : ObjectOf k) :
    links w self k (toSecond k o) = links w self k o := by
  cases k <;> rfl

theorem search?_toSecond (self : NodeRef) (k : Kind) (o : ObjectOf k) :
    search? self k (toSecond k o) = search? self k o := by
  cases k <;> rfl

theorem metadataFields_toSecond (id : Identity) (uid : String) (m : ObjectMeta) :
    metadataFields id uid m.toSecond = metadataFields id uid m := by
  have hcreated : Json.ofInstant? m.toSecond.created = Json.ofInstant? m.created := by
    unfold Json.ofInstant? ObjectMeta.toSecond
    rw [Option.map_map]
    exact congrArg (fun print => Json.ofText? (m.created.map print)) (funext Instant.format_whole)
  unfold metadataFields
  rw [hcreated]
  rfl

/-- The `fields` of an object do not show `toSecond`: they name no fraction of a second. -/
theorem fields_toSecond (id : Identity) (now : Instant) (uid : String) (k : Kind)
    (o : ObjectOf k) : fields id now uid k (toSecond k o) = fields id now uid k o := by
  unfold fields
  rw [objectMeta_toSecond, ownFields_toSecond, metadataFields_toSecond]

/-- Inversion of `decode?` at a native kind: it is `readIf` of a schema and of a reader, `read`. The
reader sees the metadata through `metaOf` only, and every other field as `present?` gives it. -/
theorem exists_read {k : Kind} (hk : k.IsNative) :
    ∃ shapes read, decode? k = readIf (Schema.object k.type shapes) read
      ∧ "metadata" ∉ shapes.map Prod.fst
      ∧ ∀ i j : Json, (∀ key, key ≠ "metadata" → i.present? key = j.present? key) →
          metaOf i = (metaOf j).toSecond → read i = toSecond k (read j) := by
  cases k with
  | scaledObject => exact absurd rfl hk
  | _ =>
      refine ⟨_, _, rfl, by decide, fun i j hpresent hmeta => ?_⟩
      unfold toSecond
      simp [NamespaceObject.ofJson, NodeObject.ofJson, PodObject.ofJson, EventObject.ofJson,
        DeploymentObject.ofJson, ReplicaSetObject.ofJson, StatefulSetObject.ofJson,
        DaemonSetObject.ofJson, JobObject.ofJson, CronJobObject.ofJson, ServiceObject.ofJson,
        IngressObject.ofJson, ConfigMapObject.ofJson, SecretObject.ofJson,
        PersistentVolumeClaimObject.ofJson, PersistentVolumeObject.ofJson,
        HorizontalPodAutoscalerObject.ofJson, hmeta, Json.recordAt, Json.recordAt?, Json.textAt?,
        Json.intAt?, Json.flagAt?, Json.instantAt?, Json.mapAt?, hpresent]

end ObjectOf

theorem Sync.write_toSecond (w : Writer) (now : Instant) (k : Kind) (o : ObjectOf k) :
    write w now k (ObjectOf.toSecond k o) = write w now k o := by
  refine write_congr w now ?_ (fun uid => ObjectOf.fields_toSecond w.id now uid k o) ?_
  · rw [ObjectOf.objectMeta_toSecond]
    rfl
  · have hself : self k (ObjectOf.objectMeta k o).toSecond = self k (ObjectOf.objectMeta k o) := rfl
    unfold relate
    dsimp only
    rw [ObjectOf.objectMeta_toSecond, hself, ObjectOf.links_toSecond, ObjectOf.search?_toSecond]

/-! ## Metadata that are written back -/

/-- The value of `fields` under `metadata`, or the empty object where that is missing. -/
def Dict.metadata (fields : Dict Json) : Json :=
  (fields.find? "metadata").getD (.object Dict.empty)

/-- Metadata that `Schema.objectMeta` accepts are read by `metaOf` where they stand, and missing
ones as empty ones. -/
theorem metaOf_object {fields : Dict Json}
    (h : Schema.objectMeta.accepts fields.metadata = true) :
    metaOf (.object fields) = ObjectMeta.ofJson fields.metadata := by
  have hfield : (Json.object fields).field? "metadata" = fields.find? "metadata" := rfl
  unfold Dict.metadata at h
  unfold metaOf Json.recordAt Json.recordAt? Json.present? Dict.metadata
  rw [hfield]
  cases hfound : fields.find? "metadata" with
  | none => rfl
  | some m =>
      rw [hfound] at h
      cases m with
      | object inner => rfl
      | _ => cases h

theorem meta?_eq {fields : Dict Json} (h : Schema.objectMeta.accepts fields.metadata = true) :
    ScaledObjectObject.meta? fields = some (metaOf (.object fields)) := by
  rw [metaOf_object h]
  unfold Dict.metadata at h ⊢
  unfold ScaledObjectObject.meta?
  cases hfound : fields.find? "metadata" with
  | none => rfl
  | some m =>
      rw [hfound] at h
      exact if_pos h

theorem acceptsField_metadata {fields : Dict Json}
    (h : Schema.objectMeta.accepts fields.metadata = true) :
    Schema.objectMeta.acceptsField (fields.find? "metadata") = true := by
  unfold Dict.metadata at h
  cases hfound : fields.find? "metadata" with
  | none => rfl
  | some m =>
      rw [hfound] at h
      cases m with
      | null => cases h
      | _ => exact h

/-- The object `delivered` stands in the place of `original`: its `metadata` are those of `original`
after `Schema.normalize`, and every other key has the same value. -/
structure Delivers (original delivered : Dict Json) : Prop where
  accepted : Schema.objectMeta.accepts original.metadata = true
  metadata : delivered.find? "metadata" = some (Schema.objectMeta.normalize original.metadata)
  others : ∀ key, key ≠ "metadata" → delivered.find? key = original.find? key

namespace Delivers

variable {original delivered : Dict Json} (h : Delivers original delivered)

include h

theorem present? {key : String} (hkey : key ≠ "metadata") :
    (Json.object delivered).present? key = (Json.object original).present? key := by
  rw [Json.present?_eq_filter, Json.present?_eq_filter]
  exact congrArg _ (h.others key hkey)

theorem metadata_eq : delivered.metadata = Schema.objectMeta.normalize original.metadata := by
  unfold Dict.metadata
  rw [h.metadata]
  rfl

theorem accepted_delivered : Schema.objectMeta.accepts delivered.metadata = true := by
  rw [h.metadata_eq]
  exact Shape.accepts_normalize _ Schema.isSound_objectMeta _ h.accepted

theorem metaOf_eq : metaOf (.object delivered) = (metaOf (.object original)).toSecond := by
  rw [metaOf_object h.accepted, metaOf_object h.accepted_delivered, h.metadata_eq,
    ObjectMeta.ofJson_normalize]

theorem accepts_object (t : ResourceType) {shapes : List (String × Shape)}
    (hshapes : "metadata" ∉ shapes.map Prod.fst) :
    (Schema.object t shapes).accepts (.object delivered)
      = (Schema.object t shapes).accepts (.object original) := by
  have hfield : ∀ entry ∈ Schema.identification t ++ ("metadata", Schema.objectMeta) :: shapes,
      entry.2.acceptsField (delivered.find? entry.1)
        = entry.2.acceptsField (original.find? entry.1) := by
    intro entry hentry
    by_cases hkey : entry.1 = "metadata"
    · have hmeta : entry.2 = Schema.objectMeta := by
        obtain ⟨key, shape⟩ := entry
        cases hkey
        rcases List.mem_append.mp hentry with hentry | hentry
        · simp [Schema.identification] at hentry
        · rcases List.mem_cons.mp hentry with heq | hentry
          · exact (Prod.mk.inj heq).2
          · exact absurd (List.mem_map_of_mem hentry) hshapes
      rw [hkey, hmeta, acceptsField_metadata h.accepted, acceptsField_metadata h.accepted_delivered]
    · rw [h.others _ hkey]
  show Shape.acceptsFields _ delivered = Shape.acceptsFields _ original
  rw [Bool.eq_iff_iff, Shape.acceptsFields_iff, Shape.acceptsFields_iff]
  exact forall₂_congr fun entry hentry => by rw [hfield entry hentry]

theorem decode?_scaledObject : ScaledObjectObject.decode? (.object delivered)
    = (ScaledObjectObject.decode? (.object original)).map (ObjectOf.toSecond .scaledObject) := by
  unfold ScaledObjectObject.decode? ScaledObjectObject.parts?
  simp only [bind, Option.bind_some, meta?_eq h.accepted, meta?_eq h.accepted_delivered,
    h.others "spec" (by decide), h.metaOf_eq, Option.map_bind, Function.comp_def]
  rfl

/-- What `decode?` reads of the delivered object is what it reads of the original, under `toSecond`;
it is `none` for both or for neither. -/
theorem decode?_eq (k : Kind) : ObjectOf.decode? k (.object delivered)
    = (ObjectOf.decode? k (.object original)).map (ObjectOf.toSecond k) := by
  by_cases hk : k.IsNative
  · obtain ⟨shapes, read, hdecode, hshapes, hread⟩ := ObjectOf.exists_read hk
    rw [hdecode, ObjectOf.readIf, ObjectOf.readIf, h.accepts_object k.type hshapes,
      hread _ _ (fun _ => h.present?) h.metaOf_eq]
    split <;> rfl
  · cases not_not.mp hk
    exact h.decode?_scaledObject

theorem convert_eq (k : Kind) (name : String) :
    (RawObject.unstructured (.object delivered)).convert k name
      = ((RawObject.unstructured (.object original)).convert k name).map (ObjectOf.toSecond k) := by
  have hkind : (Json.object delivered).field? "kind" = (Json.object original).field? "kind" :=
    h.others "kind" (by decide)
  simp only [RawObject.convert, hkind, h.decode?_eq]
  cases ObjectOf.decode? k (.object original) <;>
    cases ((Json.object original).field? "kind").bind Json.text? with
    | none => rfl
    | some found =>
        dsimp only [Option.map_none, Option.map_some]
        split <;> rfl

theorem uid?_eq : (RawObject.unstructured (.object delivered)).uid?
    = (RawObject.unstructured (.object original)).uid? := by
  rw [← RawObject.uid_metaOf, ← RawObject.uid_metaOf, h.metaOf_eq]
  rfl

theorem create_eq (w : Writer) (now : Instant) (k : Kind) :
    Sync.create w now k (.unstructured (.object delivered))
      = Sync.create w now k (.unstructured (.object original)) := by
  unfold Sync.create
  rw [h.convert_eq]
  cases (RawObject.unstructured (.object original)).convert k k.name with
  | error e => rfl
  | ok o => exact Sync.write_toSecond w now k o

end Delivers

/-! ## Objects that a watch tells of -/

/-- The object has a text both under `apiVersion` and under `kind`, or it has neither key. -/
inductive Dict.SaysType (fields : Dict Json) : Prop where
  | both {version kind : String} (hversion : fields.find? "apiVersion" = some (.text version))
      (hkind : fields.find? "kind" = some (.text kind))
  | neither (hversion : fields.find? "apiVersion" = none) (hkind : fields.find? "kind" = none)

namespace RelistTracker

/-- The object `fields` with the `apiVersion` and the `kind` of the tracker `t`, if it has
neither. -/
def withType (t : RelistTracker) (fields : Dict Json) : Dict Json :=
  if (fields.find? "apiVersion").isNone && (fields.find? "kind").isNone then
    (fields.insert "apiVersion" (.text t.apiVersion)).insert "kind" (.text t.kind)
  else fields

theorem find?_metadata_withType (t : RelistTracker) (fields : Dict Json) :
    (t.withType fields).find? "metadata" = fields.find? "metadata" := by
  unfold withType
  split
  · rw [Dict.find?_insert, if_neg (by decide), Dict.find?_insert, if_neg (by decide)]
  · rfl

theorem metadata_withType (t : RelistTracker) (fields : Dict Json) :
    (t.withType fields).metadata = fields.metadata := by
  unfold Dict.metadata
  rw [find?_metadata_withType]

theorem uid?_withType (t : RelistTracker) (fields : Dict Json) :
    (RawObject.unstructured (.object (t.withType fields))).uid?
      = (RawObject.unstructured (.object fields)).uid? := by
  have hfield : (Json.object (t.withType fields)).field? "metadata"
      = (Json.object fields).field? "metadata" := t.find?_metadata_withType fields
  unfold RawObject.uid? RawObject.metaText?
  dsimp only
  rw [Json.path?_cons, Json.path?_cons, hfield]

/-- Looking up any key but `metadata` in fields whose `apiVersion`, `kind` and `metadata` were
erased and inserted again. -/
theorem find?_rewritten {fields : Dict Json} {version kind metadata : Json} {key : String}
    (hkey : key ≠ "metadata") :
    (((((((fields.erase "apiVersion").erase "kind").erase "metadata").insert "apiVersion"
        version).insert "kind" kind).insert "metadata" metadata).find? key)
      = ((fields.insert "apiVersion" version).insert "kind" kind).find? key := by
  simp only [Dict.find?_insert, Dict.find?_erase, if_neg (Ne.symm hkey)]
  by_cases hkind : "kind" = key
  · rw [if_pos hkind, if_pos hkind]
  · by_cases hversion : "apiVersion" = key <;> simp only [hkind, hversion, if_true, if_false]

/-- What `t.raw` makes of an object that `ListedObject.decode?` reads `Delivers` that object
`withType`. -/
theorem exists_delivers_raw (t : RelistTracker) {fields : Dict Json} {o : ListedObject}
    (hread : ListedObject.decode? (.object fields) = some o) (hnamed : fields.SaysType) :
    ∃ delivered, t.raw o = .unstructured (.object delivered)
      ∧ Delivers (t.withType fields) delivered := by
  unfold ListedObject.decode? at hread
  obtain ⟨haccepts, hread⟩ := Option.ite_none_right_eq_some.mp hread
  cases hread
  refine ⟨_, rfl, ?_, ?_, ?_⟩
  · rw [metadata_withType]
    exact haccepts
  · rw [metadata_withType, Dict.find?_insert, if_pos rfl]
    rfl
  · intro key hkey
    rw [find?_rewritten hkey]
    unfold withType ListedObject.readIdentity?
    cases hnamed with
    | both hversion hkind =>
        rw [hversion, hkind]
        exact (Dict.find?_insert_of_found ((Dict.find?_insert_of_found hversion "kind").trans hkind)
          key).trans (Dict.find?_insert_of_found hversion key)
    | neither hversion hkind =>
        rw [hversion, hkind]
        rfl

theorem step_of_applies (t : RelistTracker) {o : ListedObject} {e : WatchEvent}
    (he : e = .initApply o ∨ e = .apply o) :
    ∃ n, t.step e = ([n], t.remember o) ∧ (n = .add (t.raw o) ∨ n = .update (t.raw o)) := by
  rcases he with rfl | rfl
  · exact ⟨_, rfl, .inl rfl⟩
  · exact ⟨_, rfl, .inr rfl⟩

theorem listed_remember (t : RelistTracker) (o : ListedObject) :
    (t.remember o).listed = t.listed.map (o.uid?.toList ++ ·) := by
  unfold remember
  cases o.uid? with
  | none => exact Option.map_id'.symm
  | some uid => rfl

/-- Telling of an object is transparent. For an object that `ListedObject.decode?` reads and that
has its type in full or not at all (`SaysType`), an `.initApply` or an `.apply` makes `step` tell
one notification, and the tracker then knows the identifier that this notification tells.
`followObject` of it is the same plan as `Sync.create` of the object `withType`, and at two times,
`now` and `now'`, both have the same result and leave a graph that is `SameButTimes`. -/
theorem apply_transparent (t : RelistTracker) {fields : Dict Json} {o : ListedObject}
    (hread : ListedObject.decode? (.object fields) = some o) (hnamed : fields.SaysType)
    {e : WatchEvent} (he : e = .initApply o ∨ e = .apply o) :
    ∃ (n : Notification) (told : RawObject), (t.step e).1 = [n] ∧ n.object? = some told
      ∧ told.uid? = (RawObject.unstructured (.object fields)).uid?
      ∧ (∀ uid, uid ∈ (t.step e).2.knownUids ↔ told.uid? = some uid ∨ uid ∈ t.knownUids)
      ∧ (t.step e).2.listed = t.listed.map (told.uid?.toList ++ ·)
      ∧ ∀ (w : Writer) (k : Kind) (now : Instant),
          let original := RawObject.unstructured (.object (t.withType fields))
          Environment.followObject w now k n = Sync.create w now k original
            ∧ ∀ (now' : Instant) (s : MemoryStore),
                let fromWatch := (Environment.followObject w now k n).run MemoryStore.perform s
                let direct := (Sync.create w now' k original).run MemoryStore.perform s
                fromWatch.1 = direct.1 ∧ fromWatch.2.graph.SameButTimes direct.2.graph := by
  obtain ⟨delivered, hraw, hdelivers⟩ := t.exists_delivers_raw hread hnamed
  obtain ⟨n, hstep, hn⟩ := t.step_of_applies he
  have hobject : n.object? = some (t.raw o) := by
    rcases hn with rfl | rfl <;> rfl
  have hfollow (w : Writer) (k : Kind) (now : Instant) : Environment.followObject w now k n
      = Sync.create w now k (.unstructured (.object (t.withType fields))) := by
    rw [← hdelivers.create_eq w now k, ← hraw]
    rcases hn with rfl | rfl <;> rfl
  refine ⟨n, t.raw o, congrArg Prod.fst hstep, hobject, ?_, ?_, ?_, ?_⟩
  · rw [hraw, hdelivers.uid?_eq, uid?_withType]
  · intro uid
    rw [hstep, uid?_raw, mem_knownUids_remember]
  · rw [hstep, uid?_raw, listed_remember]
  · intro w k now original
    refine ⟨hfollow w k now, ?_⟩
    intro now' s fromWatch direct
    have hrun : fromWatch = (Sync.create w now k original).run MemoryStore.perform s :=
      congrArg (fun plan => plan.run MemoryStore.perform s) (hfollow w k now)
    rw [hrun]
    exact Sync.create_at_times w now now' k original s

/-- A pod as a list has it, without `apiVersion` and `kind`. Its `creationTimestamp` is a leap
second at an offset of `+05:30`, its `labels` are `null`, and its owner has only a `kind` and a
`uid`. -/
def listedPod : Dict Json :=
  .ofList
    [ ("metadata", .ofFields
        [ ("creationTimestamp", .text "2016-12-31T23:59:60.25+05:30"),
          ("labels", .null),
          ("name", .text "web"),
          ("namespace", .text "shop"),
          ("ownerReferences", .array
            [.ofFields [("kind", .text "ReplicaSet"), ("uid", .text "r1")]]),
          ("uid", .text "p1"),
          ("unheardOf", .bool true) ]),
      ("spec", .ofFields [("containers", .array []), ("nodeName", .text "n1")]) ]

/-- Instance of `apply_transparent`: `listedPod` is told under `p1`, and both plans end with
`.ok ()` in a store that is `writable`. -/
theorem apply_transparent_listedPod :
    let t := RelistTracker.start "v1" "Pod"
    ∃ o, ListedObject.decode? (.object listedPod) = some o ∧ listedPod.SaysType
      ∧ ∃ (n : Notification) (told : RawObject), (t.step (.initApply o)).1 = [n]
        ∧ n.object? = some told ∧ told.uid? = some "p1"
        ∧ "p1" ∈ (t.step (.initApply o)).2.knownUids
        ∧ ∀ (w : Writer) (now now' : Instant) (s : MemoryStore), s.writable = true →
            let fromWatch := (Environment.followObject w now .pod n).run MemoryStore.perform s
            let direct := (Sync.create w now' .pod
              (.unstructured (.object (t.withType listedPod)))).run MemoryStore.perform s
            fromWatch.1 = .ok () ∧ direct.1 = .ok ()
              ∧ fromWatch.2.graph.SameButTimes direct.2.graph := by
  intro t
  have hreads : (ListedObject.decode? (.object listedPod)).isSome = true := by decide +kernel
  have hdecodes : (ObjectOf.decode? .pod (.object (t.withType listedPod))).isSome = true := by
    decide +kernel
  have hnamed : listedPod.SaysType := .neither (by decide +kernel) (by decide +kernel)
  have huid : (RawObject.unstructured (.object listedPod)).uid? = some "p1" := by decide +kernel
  obtain ⟨o, ho⟩ := Option.isSome_iff_exists.mp hreads
  obtain ⟨pod, hpod⟩ := Option.isSome_iff_exists.mp hdecodes
  have hconvert : (RawObject.unstructured (.object (t.withType listedPod))).convert .pod "Pod"
      = .ok pod :=
    RawObject.convert_of_decode? (by decide) hpod
  have hrecord : (RawObject.unstructured (.object (t.withType listedPod))).IsObject := rfl
  have hidentified : (ObjectOf.objectMeta .pod pod).uid = some "p1" :=
    (hrecord.uid_of_convert hconvert).trans ((t.uid?_withType _).trans huid)
  obtain ⟨n, told, htold, hobject, hsame, hknown, -, hfollow⟩ :=
    apply_transparent t ho hnamed (.inl rfl)
  refine ⟨o, ho, hnamed, n, told, htold, hobject, hsame.trans huid,
    (hknown "p1").mpr (.inl (hsame.trans huid)), ?_⟩
  intro w now now' s hs fromWatch direct
  obtain ⟨upserts, hdirect⟩ := Sync.run_create w now' hconvert hidentified (by decide) hs
  obtain ⟨hresult, hgraph⟩ := (hfollow w .pod now).2 now' s
  have hok : direct.1 = .ok () := congrArg Prod.fst hdirect
  exact ⟨hresult.trans hok, hok, hgraph⟩

end RelistTracker
end ClusterGraph
