import ClusterGraph.Proofs.Dict.Bindings
import ClusterGraph.Proofs.Resource.Redaction
import ClusterGraph.Proofs.Time.Printing
import Mathlib.Data.List.Nodup

/-!
# ClusterGraph.Proofs.Resource.Normalizing

**What is written back of a well-typed value is well typed, and metadata are read from it as they
were but for fractions of seconds.**

A shape may name a field twice or give it a default of another type, and then it would not accept
what it wrote itself. Where it does not (`Shape.isSound`), writing back keeps values well typed, by
induction on the shape (`Shape.accepts_normalize`).

What is lost are fields that the shape does not name, and fractions of seconds. Metadata are read
by the names of the shape alone, so they come out the same (`ObjectMeta.ofJson_normalize`), down to
the defaults of their owner references.
-/

namespace ClusterGraph

theorem Dict.values_map {α β : Type} (f : α → β) (d : Dict α) :
    (d.map f).values = d.values.map f := by
  simp [Dict.values, Dict.map]

namespace Shape

/-! ## Sound shapes -/

mutual

/-- No `record` in the shape names a field twice, and the value that an `always` writes for an
absent field is accepted by its shape. -/
def isSound : Shape → Bool
  | list item => isSound item
  | map value => isSound value
  | record shapes => decide (shapes.map Prod.fst).Nodup && areSound shapes
  | always absent field => isSound field && accepts field absent && !absent.isNull
  | _ => true

/-- All shapes in the list satisfy `isSound`. -/
def areSound : List (String × Shape) → Bool
  | [] => true
  | (_, shape) :: rest => isSound shape && areSound rest

end

/-! ## Fields -/

/-- Whether a record accepts what is under the key of a field: nothing, `null` if the shape is
`nullable`, or a value that the shape `accepts`. -/
def acceptsField (shape : Shape) : Option Json → Bool
  | none => true
  | some .null => shape.nullable
  | some j => shape.accepts j

theorem acceptsFields_iff {shapes : List (String × Shape)} {fields : Dict Json} :
    acceptsFields shapes fields = true
      ↔ ∀ entry ∈ shapes, entry.2.acceptsField (fields.find? entry.1) = true := by
  induction shapes with
  | nil => simp [acceptsFields]
  | cons entry rest ih =>
      obtain ⟨key, shape⟩ := entry
      rw [acceptsFields, Bool.and_eq_true, ih, List.forall_mem_cons]
      rfl

/-- What `normalize` writes under the key of a field: the value normalized, or, where there is none,
what an `always` writes. -/
def written? (shape : Shape) : Option Json → Option Json
  | some j => some (shape.normalize j)
  | none =>
      match shape with
      | always absent _ => some absent
      | _ => none

theorem normalizeFields_eq (shapes : List (String × Shape)) (fields : Dict Json) :
    normalizeFields shapes fields = shapes.filterMap fun entry =>
      (entry.2.written? ((Json.object fields).present? entry.1)).map fun j => (entry.1, j) := by
  induction shapes with
  | nil => rfl
  | cons entry rest ih =>
      obtain ⟨key, shape⟩ := entry
      simp only [normalizeFields, List.filterMap_cons, ih]
      cases (Json.object fields).present? key with
      | some j => rfl
      | none => cases shape <;> rfl

/-- Looking up a field of the shapes in what `normalizeFields` writes gives what is `written?` of
it, if no key is named twice. -/
theorem find?_normalizeFields {shapes : List (String × Shape)}
    (hnodup : (shapes.map Prod.fst).Nodup) {key : String} {shape : Shape}
    (hmem : (key, shape) ∈ shapes) (fields : Dict Json) :
    (Dict.ofList (normalizeFields shapes fields)).find? key
      = shape.written? ((Json.object fields).present? key) := by
  have hsame : ∀ entry ∈ shapes, entry.1 = key → entry = (key, shape) :=
    fun entry hentry hkey => List.inj_on_of_nodup_map hnodup hentry hmem hkey
  have hbinding : ∀ b ∈ normalizeFields shapes fields, b.1 = key →
      shape.written? ((Json.object fields).present? key) = some b.2 := by
    intro b hb hkey
    rw [normalizeFields_eq, List.mem_filterMap] at hb
    obtain ⟨entry, hentry, hb⟩ := hb
    obtain ⟨j, hj, rfl⟩ := Option.map_eq_some_iff.mp hb
    cases hsame entry hentry hkey
    exact hj
  cases hwritten : shape.written? ((Json.object fields).present? key) with
  | none =>
      refine Dict.find?_ofList_eq_none fun b hb hkey => ?_
      cases hwritten.symm.trans (hbinding b hb hkey)
  | some j =>
      refine Dict.find?_ofList_eq_some ?_ fun b hb hkey => ?_
      · rw [normalizeFields_eq, List.mem_filterMap]
        exact ⟨(key, shape), hmem, by rw [hwritten]; rfl⟩
      · exact (Option.some.inj (hwritten.symm.trans (hbinding b hb hkey))).symm

theorem acceptsField_some {shape : Shape} {j : Json} (h : j.isNull = false) :
    shape.acceptsField (some j) = shape.accepts j := by
  cases j with
  | null => cases h
  | _ => rfl

/-- A field of a sound shape accepts what is `written?` where there is none. -/
theorem acceptsField_absent {shape : Shape} (h : shape.isSound = true) :
    shape.acceptsField (shape.written? none) = true := by
  cases shape with
  | always absent field =>
      rw [isSound, Bool.and_eq_true, Bool.and_eq_true] at h
      exact (acceptsField_some (by simpa using h.2)).trans h.1.2
  | _ => rfl

/-- If a value is not `null`, it is not `null` after `normalize`. -/
theorem isNull_normalize : (s : Shape) → {j : Json} → j.isNull = false →
    (s.normalize j).isNull = false
  | always _ field, _, h => isNull_normalize field h
  | instant, j, h => by
      show (normalizeInstant j).isNull = false
      unfold normalizeInstant
      split
      · rfl
      · exact h
  | bytes, j, h => by
      cases j with
      | null => cases h
      | _ => exact h
  | list _, j, h => by cases j <;> exact h
  | map _, j, h => by cases j <;> exact h
  | record _, j, h => by cases j <;> exact h
  | any, _, h => h
  | text, _, h => h
  | constant _, _, h => h
  | flag, _, h => h
  | int32, _, h => h
  | int64, _, h => h
  | int32OrText, _, h => h

/-! ## Well-typed values -/

/-- The shape `instant` accepts what `normalizeInstant` writes. -/
theorem accepts_normalizeInstant {j : Json} (h : instant.accepts j = true) :
    instant.accepts (normalizeInstant j) = true := by
  rw [accepts] at h
  obtain ⟨t, ht⟩ := Option.isSome_iff_exists.mp h
  obtain ⟨s, -, hread⟩ := Option.bind_eq_some_iff.mp ht
  obtain ⟨t', hread', -⟩ := Time.read?_format_of_read? hread
  rw [normalizeInstant, ht, accepts, Json.text?, Option.bind_some, hread']
  rfl

mutual

/-- A shape that is sound accepts `normalize j` for every `j` that it accepts. -/
theorem accepts_normalize : (s : Shape) → s.isSound = true → (j : Json) → s.accepts j = true →
    s.accepts (s.normalize j) = true
  | any, _, _, h => h
  | text, _, _, h => h
  | constant _, _, _, h => h
  | flag, _, _, h => h
  | int32, _, _, h => h
  | int64, _, _, h => h
  | int32OrText, _, _, h => h
  | instant, _, _, h => accepts_normalizeInstant h
  | bytes, _, j, h => by
      cases j with
      | null => rfl
      | _ => exact h
  | list item, hsound, j, h => by
      cases j with
      | array items =>
          have hitems : ∀ i ∈ items, item.accepts i = true := List.all_eq_true.mp h
          show (items.map item.normalize).all item.accepts = true
          rw [List.all_map, List.all_eq_true]
          exact fun i hi => accepts_normalize item hsound i (hitems i hi)
      | _ => cases h
  | map value, hsound, j, h => by
      cases j with
      | object fields =>
          have hvalues : ∀ v ∈ fields.values, value.accepts v = true := List.all_eq_true.mp h
          show (fields.map value.normalize).values.all value.accepts = true
          rw [Dict.values_map, List.all_map, List.all_eq_true]
          exact fun v hv => accepts_normalize value hsound v (hvalues v hv)
      | _ => cases h
  | record shapes, hsound, j, h => by
      cases j with
      | object fields =>
          obtain ⟨hnodup, hsound⟩ := Bool.and_eq_true_iff.mp hsound
          have hfields := acceptsFields_iff.mp h
          show acceptsFields shapes (Dict.ofList (normalizeFields shapes fields)) = true
          refine acceptsFields_iff.mpr fun entry hentry => ?_
          rw [find?_normalizeFields (of_decide_eq_true hnodup) hentry, Json.present?_eq_filter]
          exact acceptsField_written? shapes hsound entry hentry _ (hfields entry hentry)
      | _ => cases h
  | always _ field, hsound, j, h => by
      rw [isSound, Bool.and_eq_true, Bool.and_eq_true] at hsound
      exact accepts_normalize field hsound.1.1 j h

/-- The same as `accepts_normalize` for each field of a record: `acceptsField` holds of what is
`written?`. -/
theorem acceptsField_written? : (shapes : List (String × Shape)) → areSound shapes = true →
    ∀ entry ∈ shapes, ∀ found : Option Json, entry.2.acceptsField found = true →
      entry.2.acceptsField (entry.2.written? (found.filter (!·.isNull))) = true
  | [], _, _, hmem, _, _ => absurd hmem List.not_mem_nil
  | (key, shape) :: rest, hsound, entry, hmem, found, h => by
      obtain ⟨hshape, hrest⟩ := Bool.and_eq_true_iff.mp hsound
      rcases List.mem_cons.mp hmem with rfl | hmem
      · cases hpresent : found.filter (!·.isNull) with
        | none => exact acceptsField_absent hshape
        | some j =>
            obtain ⟨rfl, hj⟩ := Option.filter_eq_some_iff.mp hpresent
            have hj : j.isNull = false := by simpa using hj
            rw [acceptsField_some hj] at h
            exact (acceptsField_some (isNull_normalize shape hj)).trans
              (accepts_normalize shape hshape j h)
      · exact acceptsField_written? rest hrest entry hmem found h

end

/-! ## Fields of what is written -/

theorem isNull_absent {shape : Shape} (hsound : shape.isSound = true) {j : Json}
    (h : shape.written? none = some j) : j.isNull = false := by
  cases shape with
  | always absent field =>
      rw [isSound, Bool.and_eq_true] at hsound
      cases h
      simpa using hsound.2
  | _ => cases h

/-- A field of a sound record is written for what is there, unless that is `null`. -/
theorem present?_normalize {shapes : List (String × Shape)}
    (hnodup : (shapes.map Prod.fst).Nodup) {key : String} {shape : Shape}
    (hsound : shape.isSound = true) (hmem : (key, shape) ∈ shapes) (fields : Dict Json) :
    ((record shapes).normalize (.object fields)).present? key
      = shape.written? ((Json.object fields).present? key) := by
  have hfield : ((record shapes).normalize (.object fields)).field? key
      = shape.written? ((Json.object fields).present? key) :=
    find?_normalizeFields hnodup hmem fields
  have hnull : ∀ j, shape.written? ((Json.object fields).present? key) = some j →
      j.isNull = false := by
    intro j hj
    cases hpresent : (Json.object fields).present? key with
    | none =>
        rw [hpresent] at hj
        exact isNull_absent hsound hj
    | some i =>
        rw [hpresent] at hj
        rw [Json.present?_eq_filter, Option.filter_eq_some_iff] at hpresent
        obtain rfl := Option.some.inj hj
        exact isNull_normalize shape (by simpa using hpresent.2)
  rw [Json.present?_eq_filter, hfield]
  cases hwritten : shape.written? ((Json.object fields).present? key) with
  | none => rfl
  | some j => simp [Option.filter, hnull j hwritten]

/-- If `normalize` changes no value and nothing is `written?` for an absent one, the field is
written as it is. -/
theorem written?_eq_self {shape : Shape} (habsent : shape.written? none = none)
    (h : ∀ j, shape.normalize j = j) (found : Option Json) : shape.written? found = found := by
  cases found with
  | none => exact habsent
  | some j => exact congrArg some (h j)

theorem normalize_textMap (j : Json) : Schema.textMap.normalize j = j := by
  cases j with
  | object fields =>
      have hvalue : text.normalize = id := funext fun _ => rfl
      show Json.object (fields.map text.normalize) = _
      rw [hvalue]
      simp [Dict.map]
  | _ => rfl

/-- Reading the text that `normalizeInstant` writes gives `Instant.whole` of the instant that the
value says. -/
theorem read?_normalizeInstant (j : Json) :
    (normalizeInstant j).text?.bind Time.read? = (j.text?.bind Time.read?).map Instant.whole := by
  cases hread : j.text?.bind Time.read? with
  | none => rw [normalizeInstant, hread, Option.map_none, hread]
  | some t =>
      obtain ⟨s, -, hs⟩ := Option.bind_eq_some_iff.mp hread
      rw [normalizeInstant, hread, Json.text?, Option.bind_some,
        Time.read?_format (Time.isReadable_of_read? hs), Option.map_some]

/-! ### Reading them -/

section Reading

variable {shapes : List (String × Shape)} (hnodup : (shapes.map Prod.fst).Nodup)
  {key : String} (fields : Dict Json)

include hnodup

theorem textAt?_normalize (hmem : (key, text) ∈ shapes) :
    ((record shapes).normalize (.object fields)).textAt? key
      = (Json.object fields).textAt? key := by
  unfold Json.textAt?
  rw [present?_normalize hnodup rfl hmem, written?_eq_self rfl fun _ => rfl]

theorem flagAt?_normalize (hmem : (key, flag) ∈ shapes) :
    ((record shapes).normalize (.object fields)).flagAt? key
      = (Json.object fields).flagAt? key := by
  unfold Json.flagAt?
  rw [present?_normalize hnodup rfl hmem, written?_eq_self rfl fun _ => rfl]

/-- A field of the shape `always (.text "") text` has the same `textAt` after `normalize`. -/
theorem textAt_normalize (hmem : (key, always (.text "") text) ∈ shapes) :
    ((record shapes).normalize (.object fields)).textAt key = (Json.object fields).textAt key := by
  unfold Json.textAt Json.textAt?
  rw [present?_normalize hnodup rfl hmem]
  cases (Json.object fields).present? key <;> rfl

theorem textMapAt?_normalize (hmem : (key, Schema.textMap) ∈ shapes) :
    ((record shapes).normalize (.object fields)).textMapAt? key
      = (Json.object fields).textMapAt? key := by
  unfold Json.textMapAt?
  rw [present?_normalize hnodup rfl hmem, written?_eq_self rfl normalize_textMap]

theorem instantAt?_normalize (hmem : (key, instant) ∈ shapes) :
    ((record shapes).normalize (.object fields)).instantAt? key
      = ((Json.object fields).instantAt? key).map Instant.whole := by
  unfold Json.instantAt? Json.textAt?
  rw [present?_normalize hnodup rfl hmem]
  cases (Json.object fields).present? key with
  | none => rfl
  | some j => exact read?_normalizeInstant j

theorem itemsAt_normalize {item : Shape} (hsound : item.isSound = true)
    (hmem : (key, list item) ∈ shapes) :
    ((record shapes).normalize (.object fields)).itemsAt key
      = ((Json.object fields).itemsAt key).map item.normalize := by
  have hlist : (list item).isSound = true := hsound
  unfold Json.itemsAt Json.itemsAt?
  rw [present?_normalize hnodup hlist hmem]
  cases (Json.object fields).present? key with
  | none => rfl
  | some j => cases j <;> rfl

end Reading

end Shape

/-! ## Metadata -/

theorem Schema.isSound_objectMeta : Schema.objectMeta.isSound = true := by
  decide

theorem OwnerReference.ofJson_normalize (j : Json) :
    ofJson (Schema.ownerReference.normalize j) = ofJson j := by
  cases j with
  | object fields =>
      unfold ofJson Schema.ownerReference
      rw [Shape.textAt_normalize (by decide) fields (by simp [Schema.all]),
        Shape.textAt_normalize (by decide) fields (by simp [Schema.all]),
        Shape.flagAt?_normalize (by decide) fields (by simp [Schema.all])]
  | _ => rfl

/-- The metadata with `Instant.whole` of the time of creation. -/
def ObjectMeta.toSecond (m : ObjectMeta) : ObjectMeta :=
  { m with created := m.created.map Instant.whole }

/-- Reading metadata after `Schema.objectMeta.normalize` gives `toSecond` of the metadata that the
value has. -/
theorem ObjectMeta.ofJson_normalize (j : Json) :
    ofJson (Schema.objectMeta.normalize j) = (ofJson j).toSecond := by
  cases j with
  | object fields =>
      have howner : Schema.ownerReference.isSound = true := by decide
      unfold ofJson toSecond Schema.objectMeta
      rw [Shape.textAt?_normalize (by decide) fields (by simp [Schema.all]),
        Shape.textAt?_normalize (by decide) fields (by simp [Schema.all]),
        Shape.textAt?_normalize (by decide) fields (by simp [Schema.all]),
        Shape.textMapAt?_normalize (by decide) fields (by simp [Schema.all]),
        Shape.textMapAt?_normalize (by decide) fields (by simp [Schema.all]),
        Shape.instantAt?_normalize (by decide) fields (by simp [Schema.all]),
        Shape.itemsAt_normalize (by decide) fields howner (by simp [Schema.all]),
        List.map_map]
      congr 2
      exact funext OwnerReference.ofJson_normalize
  | _ => rfl

end ClusterGraph
