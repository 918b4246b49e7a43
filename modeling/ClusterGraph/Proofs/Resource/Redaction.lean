import ClusterGraph.Projection.Properties
import ClusterGraph.Proofs.Dict.Bindings
import ClusterGraph.Proofs.Resource.Identity

/-!
# ClusterGraph.Proofs.Resource.Redaction

**Secrets and configuration maps without their values, as JSON values and as objects.**

Keys may be told, values not, and there are three places for values: the maps of the object, the
text that the API turns into data, and the annotation in which a copy of the whole object may be
kept. Reading what was redacted is the same as redacting what was read
(`SecretObject.ofJson_redacted`, `ConfigMapObject.ofJson_redacted`), so it makes no difference in
which of the two forms objects are compared (`RawObject.Alike.redacted_eq`).
-/

namespace ClusterGraph

/-! ## Changing one field -/

namespace Dict

variable {α : Type}

/-- The map with `f` applied to the value under `key`. -/
def alter (d : Dict α) (key : String) (f : α → α) : Dict α :=
  ⟨d.entries.map fun entry => if entry.1 = key then (entry.1, f entry.2) else entry⟩

theorem find?_alter (d : Dict α) (key other : String) (f : α → α) :
    (d.alter key f).find? other = if key = other then (d.find? other).map f else d.find? other := by
  obtain ⟨entries⟩ := d
  induction entries with
  | nil => simp [alter, find?]
  | cons entry rest ih =>
      obtain ⟨k, v⟩ := entry
      have hfirst : (if k = key then (k, f v) else (k, v)) = (k, if k = key then f v else v) := by
        split <;> rfl
      have hrest : find? ⟨(alter ⟨rest⟩ key f).entries⟩ other
          = if key = other then (find? ⟨rest⟩ other).map f else find? ⟨rest⟩ other := ih
      show find? ⟨(if k = key then (k, f v) else (k, v)) :: (alter ⟨rest⟩ key f).entries⟩ other = _
      rw [hfirst, find?_cons, find?_cons, hrest]
      by_cases hother : k = other
      · subst hother
        by_cases hk : k = key
        · simp [hk]
        · simp [hk, Ne.symm hk]
      · simp [hother]

theorem erase_erase (d : Dict α) (key : String) : (d.erase key).erase key = d.erase key := by
  simp [erase]

end Dict

namespace Json

/-- The value with `f` applied to its field `key`, if it is an object that has the field. -/
def alter (key : String) (f : Json → Json) : Json → Json
  | .object fields => .object (fields.alter key f)
  | j => j

/-- The value without its field `key`. -/
def without (key : String) : Json → Json
  | .object fields => .object (fields.erase key)
  | j => j

/-- The value with `null` in all its fields. -/
def blanked : Json → Json
  | .object fields => .object (fields.map fun _ => .null)
  | j => j

/-- The function `f` keeps `null`, makes nothing else `null`, and maps objects, and only these, to
objects. -/
structure KeepsShape (f : Json → Json) : Prop where
  null : f .null = .null
  isNull : ∀ j, (f j).isNull = j.isNull
  isObject : ∀ j, (f j).fields?.isSome = j.fields?.isSome

theorem keepsShape_alter (key : String) (f : Json → Json) : KeepsShape (alter key f) :=
  ⟨rfl, fun j => by cases j <;> rfl, fun j => by cases j <;> rfl⟩

theorem keepsShape_without (key : String) : KeepsShape (without key) :=
  ⟨rfl, fun j => by cases j <;> rfl, fun j => by cases j <;> rfl⟩

theorem keepsShape_blanked : KeepsShape blanked :=
  ⟨rfl, fun j => by cases j <;> rfl, fun j => by cases j <;> rfl⟩

theorem present?_eq_filter (j : Json) (key : String) :
    j.present? key = (j.field? key).filter (!·.isNull) := by
  unfold present?
  cases j.field? key with
  | none => rfl
  | some inner => cases inner <;> rfl

theorem field?_alter (j : Json) (key other : String) (f : Json → Json) :
    (j.alter key f).field? other = if key = other then (j.field? other).map f else j.field? other := by
  cases j with
  | object fields => exact fields.find?_alter key other f
  | _ => simp [alter, field?]

theorem present?_alter {f : Json → Json} (hf : KeepsShape f) (j : Json) (key other : String) :
    (j.alter key f).present? other
      = if key = other then (j.present? other).map f else j.present? other := by
  rw [present?_eq_filter, present?_eq_filter, field?_alter]
  split
  · cases j.field? other with
    | none => rfl
    | some inner => cases hnull : inner.isNull <;> simp [Option.filter, hf.isNull, hnull]
  · rfl

theorem present?_without (j : Json) (key other : String) :
    (j.without key).present? other = if key = other then none else j.present? other := by
  rw [present?_eq_filter, present?_eq_filter]
  cases j with
  | object fields =>
      show Option.filter _ ((fields.erase key).find? other) = _
      rw [Dict.find?_erase]
      split <;> rfl
  | _ => simp [without, field?]

/-- Reading a part with `recordAt` after `alter` gives `f` of the part. -/
theorem recordAt_alter {f : Json → Json} (hf : KeepsShape f) (j : Json) (key : String) :
    (j.alter key f).recordAt key = f (j.recordAt key) := by
  unfold recordAt recordAt?
  rw [present?_alter hf, if_pos rfl]
  cases j.present? key with
  | none => exact hf.null.symm
  | some inner =>
      cases hobject : inner.fields?.isSome <;>
        simp [Option.filter, hf.isObject, hobject, hf.null]

end Json

/-! ## Metadata -/

/-- The metadata without the annotation `lastApplied`, in which a copy of the object may be kept. -/
def ObjectMeta.withoutCopy (m : ObjectMeta) : ObjectMeta :=
  { m with annotations := m.annotations.map (·.erase lastApplied) }

/-- The JSON value without the annotation `lastApplied` in its metadata. -/
def Json.withoutCopy (j : Json) : Json :=
  j.alter "metadata" (Json.alter "annotations" (Json.without lastApplied))

theorem ObjectMeta.ofJson_withoutCopy (j : Json) :
    ofJson (j.alter "annotations" (Json.without lastApplied)) = (ofJson j).withoutCopy := by
  have hpresent := Json.present?_alter (Json.keepsShape_without lastApplied) j "annotations"
  have hannotations : (j.alter "annotations" (Json.without lastApplied)).textMapAt? "annotations"
      = (j.textMapAt? "annotations").map (·.erase lastApplied) := by
    unfold Json.textMapAt?
    rw [hpresent, if_pos rfl]
    cases j.present? "annotations" with
    | none => rfl
    | some inner =>
        cases inner with
        | object fields => exact congrArg some (Dict.erase_filterMap fields Json.text? _).symm
        | _ => rfl
  have hother : ∀ key, "annotations" ≠ key →
      (j.alter "annotations" (Json.without lastApplied)).present? key = j.present? key :=
    fun key hne => (hpresent key).trans (if_neg hne)
  unfold ofJson withoutCopy
  rw [hannotations]
  simp [Json.textAt?, Json.textMapAt?, Json.instantAt?, Json.itemsAt, Json.itemsAt?, hother]

theorem metaOf_withoutCopy (j : Json) : metaOf j.withoutCopy = (metaOf j).withoutCopy := by
  unfold metaOf Json.withoutCopy
  rw [Json.recordAt_alter (Json.keepsShape_alter _ _), ObjectMeta.ofJson_withoutCopy]

/-! ## Secrets and configuration maps -/

namespace Json

/-- Reading a map whose values are `blanked` gives the keys of the map, each with what `read` makes
of `null`. -/
theorem mapAt?_of_blanked {α : Type} {i j : Json} {key : String}
    (h : i.present? key = (j.present? key).map blanked) (read : Json → α) :
    i.mapAt? read key = (j.mapAt? read key).map (·.map fun _ => read .null) := by
  unfold mapAt?
  rw [h]
  cases j.present? key with
  | none => rfl
  | some inner =>
      cases inner with
      | object fields => simp [blanked, fields?, Dict.map]
      | _ => rfl

/-- The JSON value of a `Secret` with `null` for each value in `data`, without `stringData`, and
`withoutCopy`. -/
def redactedSecret (j : Json) : Json :=
  (j.withoutCopy.alter "data" blanked).without "stringData"

/-- The JSON value of a `ConfigMap` with `null` for each value in `data` and `binaryData`, and
`withoutCopy`. -/
def redactedConfigMap (j : Json) : Json :=
  (j.withoutCopy.alter "data" blanked).alter "binaryData" blanked

theorem present?_withoutCopy (j : Json) {key : String} (h : "metadata" ≠ key) :
    j.withoutCopy.present? key = j.present? key :=
  (present?_alter (keepsShape_alter _ _) j "metadata" key).trans (if_neg h)

theorem metaOf_congr {i j : Json} (h : i.present? "metadata" = j.present? "metadata") :
    metaOf i = metaOf j := by
  unfold metaOf recordAt recordAt?
  rw [h]

end Json

/-- The `Secret` with an empty value under each key of `data`, without `stringData`, and
`withoutCopy`. -/
def SecretObject.redacted (o : SecretObject) : SecretObject :=
  { o with
    objectMeta := o.objectMeta.withoutCopy
    data := o.data.map (·.map fun _ => [])
    stringData := none }

/-- The `ConfigMap` with an empty value under each key of `data` and `binaryData`. -/
def ConfigMapObject.blanked (o : ConfigMapObject) : ConfigMapObject :=
  { o with
    data := o.data.map (·.map fun _ => "")
    binaryData := o.binaryData.map (·.map fun _ => []) }

/-- The `ConfigMap` after `blanked`, and with metadata `withoutCopy`. -/
def ConfigMapObject.redacted (o : ConfigMapObject) : ConfigMapObject :=
  { o.blanked with objectMeta := o.objectMeta.withoutCopy }

theorem SecretObject.ofJson_redacted (j : Json) :
    ofJson j.redactedSecret = (ofJson j).redacted := by
  have hpresent : ∀ key, j.redactedSecret.present? key = if "stringData" = key then none
      else if "data" = key then (j.withoutCopy.present? key).map Json.blanked
      else j.withoutCopy.present? key := by
    intro key
    unfold Json.redactedSecret
    rw [Json.present?_without, Json.present?_alter Json.keepsShape_blanked]
  have hmeta : metaOf j.redactedSecret = (metaOf j).withoutCopy :=
    (Json.metaOf_congr (hpresent "metadata")).trans (metaOf_withoutCopy j)
  have hdata : j.redactedSecret.present? "data" = (j.present? "data").map Json.blanked := by
    simp [hpresent, Json.present?_withoutCopy]
  unfold ofJson redacted
  rw [hmeta, Json.mapAt?_of_blanked hdata]
  simp [Json.textAt?, Json.flagAt?, Json.mapAt?, hpresent, Json.present?_withoutCopy, bytesOf,
    Json.text?]

theorem ConfigMapObject.ofJson_redacted (j : Json) :
    ofJson j.redactedConfigMap = (ofJson j).redacted := by
  have hpresent : ∀ key, j.redactedConfigMap.present? key
      = if "binaryData" = key ∨ "data" = key then (j.withoutCopy.present? key).map Json.blanked
        else j.withoutCopy.present? key := by
    intro key
    unfold Json.redactedConfigMap
    rw [Json.present?_alter Json.keepsShape_blanked, Json.present?_alter Json.keepsShape_blanked]
    by_cases hbinary : "binaryData" = key
    · subst hbinary
      rfl
    · simp [hbinary]
  have hmeta : metaOf j.redactedConfigMap = (metaOf j).withoutCopy :=
    (Json.metaOf_congr (hpresent "metadata")).trans (metaOf_withoutCopy j)
  have hblanked : ∀ key, "metadata" ≠ key → "binaryData" = key ∨ "data" = key →
      j.redactedConfigMap.present? key = (j.present? key).map Json.blanked := by
    intro key hne hkey
    rw [hpresent, if_pos hkey, j.present?_withoutCopy hne]
  unfold ofJson redacted blanked
  rw [hmeta, Json.mapAt?_of_blanked (hblanked "data" (by decide) (.inr rfl)),
    Json.mapAt?_of_blanked (hblanked "binaryData" (by decide) (.inl rfl))]
  simp [Json.flagAt?, hpresent, Json.present?_withoutCopy, bytesOf, textOf, Json.text?]

/-! ## Raw objects -/

namespace RawObject

/-- Two raw objects of kind `k` that agree after redaction: as JSON values under `redactJson`, or as
objects that `convert` returns under `redact`. -/
inductive Alike (k : Kind) (redact : ObjectOf k → ObjectOf k) (redactJson : Json → Json) :
    RawObject → RawObject → Prop where
  | values {i j : Json} (h : redactJson i = redactJson j) :
      Alike k redact redactJson (.unstructured i) (.unstructured j)
  | objects {a b : RawObject} {x y : ObjectOf k} (ha : a.convert k k.name = .ok x)
      (hb : b.convert k k.name = .ok y) (h : redact x = redact y) :
      Alike k redact redactJson a b

/-- Two raw `Secret`s that are `Alike` under `redacted` and `redactedSecret`. -/
def SecretsAlike : RawObject → RawObject → Prop :=
  Alike .secret SecretObject.redacted Json.redactedSecret

/-- Two raw `ConfigMap`s that are `Alike` under `redacted` and `redactedConfigMap`. -/
def ConfigMapsAlike : RawObject → RawObject → Prop :=
  Alike .configMap ConfigMapObject.redacted Json.redactedConfigMap

/-- If `read` takes `redactJson` to `redact`, the objects that `convert` returns of two raw objects
that are `Alike` are equal after `redact`. -/
theorem Alike.redacted_eq {k : Kind} {redact : ObjectOf k → ObjectOf k} {redactJson : Json → Json}
    {shape : Shape} {read : Json → ObjectOf k}
    (hdecode : ObjectOf.decode? k = ObjectOf.readIf shape read)
    (hread : ∀ j, read (redactJson j) = redact (read j)) {a b : RawObject}
    (h : Alike k redact redactJson a b) {x y : ObjectOf k} (ha : a.convert k k.name = .ok x)
    (hb : b.convert k k.name = .ok y) : redact x = redact y := by
  have hvalue : ∀ {j : Json} {o : ObjectOf k}, (unstructured j).convert k k.name = .ok o →
      o = read j := by
    intro j o hconvert
    have hdecoded := decode?_of_convert hconvert
    rw [hdecode, ObjectOf.readIf, Option.ite_none_right_eq_some] at hdecoded
    exact (Option.some.inj hdecoded.2).symm
  cases h with
  | values h => rw [hvalue ha, hvalue hb, ← hread, ← hread, h]
  | objects ha' hb' h =>
      cases ha'.symm.trans ha
      cases hb'.symm.trans hb
      exact h

theorem SecretsAlike.redacted_eq {a b : RawObject} (h : a.SecretsAlike b) {x y : SecretObject}
    (ha : a.convert .secret Kind.secret.name = .ok x)
    (hb : b.convert .secret Kind.secret.name = .ok y) : x.redacted = y.redacted :=
  Alike.redacted_eq rfl SecretObject.ofJson_redacted h ha hb

theorem ConfigMapsAlike.redacted_eq {a b : RawObject} (h : a.ConfigMapsAlike b)
    {x y : ConfigMapObject} (ha : a.convert .configMap Kind.configMap.name = .ok x)
    (hb : b.convert .configMap Kind.configMap.name = .ok y) : x.redacted = y.redacted :=
  Alike.redacted_eq rfl ConfigMapObject.ofJson_redacted h ha hb

end RawObject
end ClusterGraph
