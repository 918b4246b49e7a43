import ClusterGraph.Projection.Sync
import ClusterGraph.Proofs.Resource.Identity
import ClusterGraph.Store.Memory

/-!
# ClusterGraph.Proofs.Projection.Forms

**A JSON value and the object that is read from it are followed alike.**

Objects are delivered in either form. In a value the identifier and the names are found at the ends
of paths, and what it says of its kind is compared with the kind that is wanted; in an object that
has been read they are fields, and its kind is known. For the kinds of the API itself it makes no
difference (`Sync.followed_alike`): a value that is read is an object, its metadata are read where
the paths lead (`Json.textAt?_recordAt`), and it names no other kind than its own
(`Shape.find?_of_constant`).

Scaled objects are not of the API. They may be given as arrays, and what they say of their kind is
not looked at when they are read.
-/

namespace ClusterGraph

namespace Kind

/-- The kind is one of the API itself, not a custom resource. -/
def IsNative (k : Kind) : Prop :=
  k ≠ scaledObject

instance (k : Kind) : Decidable k.IsNative :=
  inferInstanceAs (Decidable (k ≠ scaledObject))

end Kind

/-! ## Well-typed values -/

namespace Shape

/-- A field with a fixed text is absent or has that text. It is not even `null`. -/
theorem find?_of_constant {shapes : List (String × Shape)} {fields : Dict Json} {key s : String}
    (h : acceptsFields shapes fields = true) (hmem : (key, constant s) ∈ shapes) :
    fields.find? key = none ∨ fields.find? key = some (.text s) := by
  induction shapes with
  | nil => cases hmem
  | cons entry rest ih =>
      rw [acceptsFields, Bool.and_eq_true] at h
      obtain ⟨hfirst, hrest⟩ := h
      cases hmem with
      | tail _ hmem => exact ih hrest hmem
      | head =>
          cases hfound : fields.find? key with
          | none => exact .inl rfl
          | some j =>
              rw [hfound] at hfirst
              cases j with
              | text found =>
                  have hsame : found = s := by simpa [accepts, Json.text?] using hfirst
                  rw [hsame]
                  exact .inr rfl
              | _ => simp [accepts, nullable, Json.text?] at hfirst

end Shape

namespace ObjectOf

variable {k : Kind} {value : Json} {o : ObjectOf k}

/-- A native kind is decoded by one shape, `Schema.object`, and its metadata are read by
`metaOf`. -/
theorem exists_shape (hk : k.IsNative) :
    ∃ fields read, decode? k = readIf (Schema.object k.type fields) read
      ∧ ∀ j, objectMeta k (read j) = metaOf j := by
  cases k with
  | scaledObject => exact absurd rfl hk
  | _ => exact ⟨_, _, rfl, fun _ => rfl⟩

/-- A value that decodes to an object of a native kind is a JSON object, its `kind` is missing or
that of the type, and the metadata of the object are `metaOf` of the value. -/
theorem decode?_cases (hk : k.IsNative) (h : decode? k value = some o) :
    ∃ fields, value = .object fields ∧ objectMeta k o = metaOf value
      ∧ (fields.find? "kind" = none ∨ fields.find? "kind" = some (.text k.name)) := by
  obtain ⟨shapes, read, hdecode, hmeta⟩ := exists_shape hk
  rw [hdecode, readIf, Option.ite_none_right_eq_some] at h
  obtain ⟨haccepts, h⟩ := h
  cases h
  cases value with
  | object fields =>
      have hfields : Shape.acceptsFields (Schema.identification k.type
          ++ ("metadata", Schema.objectMeta) :: shapes) fields = true := by
        simpa [Schema.object, Shape.accepts, Json.fields?] using haccepts
      have hkind : ("kind", Shape.constant k.name)
          ∈ Schema.identification k.type ++ ("metadata", Schema.objectMeta) :: shapes := by
        simp [Schema.identification, Kind.name]
      exact ⟨fields, rfl, hmeta _, Shape.find?_of_constant hfields hkind⟩
  | _ => simp [Schema.object, Shape.accepts, Json.fields?] at haccepts

end ObjectOf

/-! ## Both forms -/

namespace RawObject

variable {k : Kind} {value : Json} {o : ObjectOf k}

/-- A text of the metadata is the same for a value and for the object that it decodes to. -/
theorem metaText?_eq (hmeta : ObjectOf.objectMeta k o = metaOf value) {key : String}
    {read : ObjectMeta → Option String} (hread : ∀ j, read (.ofJson j) = j.textAt? key) :
    (unstructured value).metaText? key read = (typed k o).metaText? key read := by
  have hpath : (unstructured value).metaText? key read
      = (value.path? ["metadata", key]).bind Json.text? := rfl
  have hfield : (typed k o).metaText? key read = read (ObjectOf.objectMeta k o) := rfl
  rw [hpath, hfield, hmeta, metaOf, hread, Json.textAt?_recordAt]

theorem convert_typed (k : Kind) (o : ObjectOf k) (name : String) :
    (typed k o).convert k name = .ok o := by
  simp [convert]

/-- If a value decodes to an object of a native kind, `convert` succeeds with that object. -/
theorem convert_of_decode? (hk : k.IsNative) (h : ObjectOf.decode? k value = some o) :
    (unstructured value).convert k k.name = .ok o := by
  obtain ⟨fields, rfl, -, hkind⟩ := ObjectOf.decode?_cases hk h
  have hfield : (Json.object fields).field? "kind" = fields.find? "kind" := rfl
  simp only [convert, h, hfield]
  cases hkind with
  | inl hnone => simp [hnone]
  | inr htext => simp [htext, Json.text?]

end RawObject

/-- A value and the object it decodes to are followed alike, for every native kind: `uid?`,
`requireUid` and `displayName` agree, and both `create` and `delete` have the same result and leave
the same state, for whoever performs the calls. -/
theorem Sync.followed_alike {k : Kind} (hk : k.IsNative) {value : Json} {o : ObjectOf k}
    (h : ObjectOf.decode? k value = some o) :
    let raw := RawObject.unstructured value
    let object := RawObject.typed k o
    raw.uid? = object.uid?
      ∧ (∀ kind, raw.requireUid kind = object.requireUid kind)
      ∧ raw.displayName = object.displayName
      ∧ ∀ {σ : Type} (perform : Plan.Performer σ) (s : σ),
          (∀ w now, (create w now k raw).run perform s = (create w now k object).run perform s)
            ∧ (delete k raw).run perform s = (delete k object).run perform s := by
  intro raw object
  obtain ⟨fields, hvalue, hmeta, -⟩ := ObjectOf.decode?_cases hk h
  have huid : raw.uid? = object.uid? := RawObject.metaText?_eq hmeta fun _ => rfl
  have hnull : raw.isNull = object.isNull := by
    show value.isNull = false
    rw [hvalue]
    rfl
  have hrequired : ∀ kind, raw.requireUid kind = object.requireUid kind := by
    intro kind
    rw [RawObject.requireUid, RawObject.requireUid, huid, hnull]
  have hnamespace : raw.metaText? "namespace" ObjectMeta.namespace_
      = object.metaText? "namespace" ObjectMeta.namespace_ :=
    RawObject.metaText?_eq hmeta fun _ => rfl
  have hname : raw.metaText? "name" ObjectMeta.name = object.metaText? "name" ObjectMeta.name :=
    RawObject.metaText?_eq hmeta fun _ => rfl
  have hdisplay : raw.displayName = object.displayName := by
    rw [RawObject.displayName, RawObject.displayName, hnamespace, hname]
  have hcreate : ∀ w now, create w now k raw = create w now k object := by
    intro w now
    rw [create, create, RawObject.convert_of_decode? hk h, RawObject.convert_typed]
  have hdelete : delete k raw = delete k object := by
    rw [delete, delete, hrequired]
  exact ⟨huid, hrequired, hdisplay, fun perform s =>
    ⟨fun w now => congrArg (·.run perform s) (hcreate w now), congrArg (·.run perform s) hdelete⟩⟩

/-- A pod without a name: one field is `null`, one is unknown, and the specification is missing. -/
def sparsePod : Json :=
  .ofFields [("kind", .text "Pod"), ("spec", .null),
    ("metadata", .ofFields [("uid", .text "a"), ("name", .null), ("size", .int 3)])]

/-- Instance of `followed_alike`: the node that is written for `sparsePod`. -/
theorem Sync.followed_alike_sparsePod :
    let w : Writer := ⟨⟨"shop", "new"⟩, OwnerKinds.empty⟩
    let raw := RawObject.unstructured sparsePod
    let object := RawObject.typed .pod (.ofJson sparsePod)
    raw.uid? = object.uid? ∧ object.uid? = some "a"
      ∧ raw.displayName = object.displayName ∧ object.displayName = "<unnamed>"
      ∧ (create w ⟨0, 0⟩ .pod raw).run MemoryStore.perform .empty
          = (create w ⟨0, 0⟩ .pod object).run MemoryStore.perform .empty
      ∧ ((create w ⟨0, 0⟩ .pod raw).run MemoryStore.perform .empty).2.graph.nodes.length = 1 := by
  intro w raw object
  have haccepted : Schema.pod.accepts sparsePod = true := by decide +kernel
  have hdecoded : ObjectOf.decode? .pod sparsePod = some (.ofJson sparsePod) := by
    simp [ObjectOf.decode?, ObjectOf.readIf, haccepted]
  obtain ⟨huid, -, hname, hrun⟩ := followed_alike (by decide) hdecoded
  exact ⟨huid, by decide +kernel, hname, by decide +kernel, (hrun _ _).1 w ⟨0, 0⟩,
    by decide +kernel⟩

/-- Why the kind has to be native: a scaled object can be given as an array, and then the object has
a `uid` while the value has none. -/
example :
    let value : Json := .array [.ofFields [("uid", .text "a")],
      .ofFields [("scaleTargetRef", .ofFields [("name", .text "web")])]]
    ∃ o, ObjectOf.decode? .scaledObject value = some o
      ∧ (RawObject.typed .scaledObject o).uid? = some "a"
      ∧ (RawObject.unstructured value).uid? = none :=
  ⟨_, rfl, rfl, rfl⟩

end ClusterGraph
