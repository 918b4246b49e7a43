import ClusterGraph.Resource.RawObject

/-!
# ClusterGraph.Proofs.Resource.Identity

**An object has one unique identifier, however it is asked for.**

Lanes are chosen by the identifier of the raw object, nodes are written under the identifier of
the object that was read from it. The two are the same for everything that is an object at all
(`RawObject.IsObject.uid_of_convert`). A scaled object may also be written as an array, and then
says its identifier in another place.
-/

namespace ClusterGraph
namespace Json

/-- A string is absent where its field is `null`, as any other field is. -/
theorem textAt?_eq_field? (j : Json) (key : String) :
    j.textAt? key = (j.field? key).bind text? := by
  unfold textAt? present?
  split <;> rename_i heq
  · rw [heq]
    rfl
  · rfl

theorem field?_of_fields?_eq_none {j : Json} (h : j.fields? = none) (key : String) :
    j.field? key = none := by
  cases j with
  | object fields => cases h
  | _ => rfl

/-- Reading a text with `textAt?` in a part of an object, as `recordAt` gives it, is following the
`path?` through the part. A part that is no object is read as an empty one, and no path leads
through it. -/
theorem textAt?_recordAt (j : Json) (part key : String) :
    (j.recordAt part).textAt? key = (j.path? [part, key]).bind text? := by
  rw [textAt?_eq_field?, path?_cons]
  unfold recordAt recordAt? present?
  cases hfield : j.field? part with
  | none => rfl
  | some inner =>
      have hpath : (inner.path? [key]) = inner.field? key := by
        rw [path?_cons]
        exact Option.bind_fun_some _
      rw [Option.bind_some, hpath]
      cases hfields : inner.fields? with
      | none =>
          rw [field?_of_fields?_eq_none hfields]
          cases inner with
          | object fields => cases hfields
          | _ => rfl
      | some fields =>
          cases inner with
          | object fields => rfl
          | _ => cases hfields

end Json

namespace RawObject

/-- The raw object is `typed`, or a JSON value that has `fields?`. -/
def IsObject : RawObject → Prop
  | typed _ _ => True
  | unstructured value => value.fields?.isSome = true

/-- The `uid` of `metaOf` is the `uid?` of the JSON value. A value that is no object has neither. -/
theorem uid_metaOf (j : Json) : (metaOf j).uid = (unstructured j).uid? :=
  j.textAt?_recordAt "metadata" "uid"

theorem uid_of_decode?_scaledObject {fields : Dict Json} {o : ScaledObjectObject}
    (h : ScaledObjectObject.decode? (.object fields) = some o) :
    o.objectMeta.uid = (unstructured (.object fields)).uid? := by
  have hmeta : ScaledObjectObject.meta? fields = some o.objectMeta := by
    simp only [ScaledObjectObject.decode?, ScaledObjectObject.parts?, bind, Option.bind_some,
      Option.bind_eq_some_iff, pure, Option.some.injEq] at h
    obtain ⟨m, hm, _, _, _, _, _, _, _, _, _, _, _, _, _, _, rfl⟩ := h
    exact hm
  show _ = ((Json.object fields).path? ["metadata", "uid"]).bind Json.text?
  rw [Json.path?_cons]
  show _ = ((fields.find? "metadata").bind fun inner => inner.path? ["uid"]).bind Json.text?
  -- Metadata that are missing are taken to be empty; they are never taken from elsewhere.
  unfold ScaledObjectObject.meta? at hmeta
  split at hmeta <;> rename_i hfound
  · rw [hfound, ← Option.some.inj hmeta]
    rfl
  · rw [Option.ite_none_right_eq_some] at hmeta
    obtain ⟨-, hmeta⟩ := hmeta
    rw [hfound, Option.bind_some, Json.path?_cons, ← Option.some.inj hmeta]
    show Json.textAt? _ "uid" = _
    rw [Json.textAt?_eq_field?]
    exact congrArg (Option.bind · Json.text?) (Option.bind_fun_some _).symm

/-- An object that `decode?` reads has, in its `objectMeta`, the `uid?` of the JSON object that it
was read from. -/
theorem uid_of_decode? {k : Kind} {fields : Dict Json} {o : ObjectOf k}
    (h : ObjectOf.decode? k (.object fields) = some o) :
    (ObjectOf.objectMeta k o).uid = (unstructured (.object fields)).uid? := by
  cases k with
  | scaledObject => exact uid_of_decode?_scaledObject h
  | _ =>
      simp only [ObjectOf.decode?, ObjectOf.readIf, Option.ite_none_right_eq_some] at h
      obtain ⟨-, h⟩ := h
      cases h
      exact uid_metaOf _

/-- Inversion of `convert` at a JSON value: what it returns was read by `decode?`. -/
theorem decode?_of_convert {k : Kind} {name : String} {value : Json} {o : ObjectOf k}
    (h : (unstructured value).convert k name = .ok o) : ObjectOf.decode? k value = some o := by
  unfold convert at h
  split at h
  · rename_i heq
    cases heq
  · cases h
  · rename_i heq
    cases heq
    cases hdecoded : ObjectOf.decode? k value with
    | none =>
        simp only [hdecoded] at h
        split at h
        · split at h <;> cases h
        · cases h
    | some object =>
        simp only [hdecoded] at h
        split at h
        · split at h
          · rw [Except.ok.inj h]
          · cases h
        · rw [Except.ok.inj h]

/-- An object that `convert` returns has, in its `objectMeta`, the `uid?` of the raw object. -/
theorem IsObject.uid_of_convert {raw : RawObject} (hraw : raw.IsObject) {k : Kind}
    {name : String} {o : ObjectOf k} (h : raw.convert k name = .ok o) :
    (ObjectOf.objectMeta k o).uid = raw.uid? := by
  cases raw with
  | typed kind object =>
      simp only [convert] at h
      split at h
      · rename_i hkind
        subst hkind
        cases h
        rfl
      · cases h
  | unstructured value =>
      cases value with
      | object fields => exact uid_of_decode? (decode?_of_convert h)
      | _ => cases hraw

theorem isObject_of_uid? {raw : RawObject} {uid : String} (h : raw.uid? = some uid) :
    raw.IsObject := by
  cases raw with
  | typed kind object => exact trivial
  | unstructured value =>
      refine Option.isSome_iff_ne_none.mpr fun hfields => ?_
      have hnone : (unstructured value).uid? = none := by
        show (value.path? ["metadata", "uid"]).bind Json.text? = none
        rw [Json.path?_cons, Json.field?_of_fields?_eq_none hfields]
        rfl
      rw [hnone] at h
      cases h

/-- Inversion of `requireUid`: it is `.ok uid` just if `uid?` is `some uid` and `uid` is not
empty. -/
theorem requireUid_eq_ok_iff {raw : RawObject} {kind uid : String} :
    raw.requireUid kind = .ok uid ↔ raw.uid? = some uid ∧ uid ≠ "" := by
  constructor
  · intro h
    unfold requireUid at h
    split at h
    · cases h
    · split at h
      · cases h
      · rename_i found hfound
        split at h
        · cases h
        · rename_i hne
          cases h
          exact ⟨hfound, hne⟩
  · intro hgiven
    obtain ⟨huid, hne⟩ := hgiven
    have hnull : raw.isNull = false := by
      cases raw with
      | typed kind object => rfl
      | unstructured value =>
          cases value with
          | null => cases huid
          | _ => rfl
    simp [requireUid, hnull, huid, hne]

end RawObject
end ClusterGraph
