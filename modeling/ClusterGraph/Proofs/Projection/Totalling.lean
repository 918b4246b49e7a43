import ClusterGraph.Proofs.Projection.Forms
import ClusterGraph.Proofs.Projection.Relating
import ClusterGraph.Proofs.Resource.Normalizing
import Mathlib.Algebra.Ring.Int.Defs

/-!
# ClusterGraph.Proofs.Projection.Totalling

**The restarts of a pod are added up in 32 bits, and the addition is checked.**

Each container of a pod says how often it was restarted. These counts are words of 32 bits, and what
does not fit one is not accepted, so they are read as they are written
(`PodObject.restarts_ofJson`). `PodStatus.restartCount?` adds them from the first to the last. It has
a result just if every sum on the way fits a word, and the result is the exact total
(`PodStatus.restartCount?_eq_some_iff`). So a number that is stored is never wrong, but a pod whose
counts do not add up is not written at all: the step panics (`Sync.restarts_counted`).
-/

namespace ClusterGraph

/-! ## Words -/

namespace Shape

/-- The numbers that are signed words of 32 bits. -/
theorem fits_iff {i : Int} : fits 32 i = true ↔ -2147483648 ≤ i ∧ i < 2147483648 := by
  show (decide (i < 2147483648) && decide (-2147483648 ≤ i)) = true ↔ _
  rw [Bool.and_eq_true, decide_eq_true_eq, decide_eq_true_eq, and_comm]

theorem toInt_ofInt {i : Int} (h : fits 32 i = true) : (Int32.ofInt i).toInt = i := by
  obtain ⟨hleast, hmost⟩ := fits_iff.mp h
  exact Int32.toInt_ofInt_of_le hleast hmost

end Shape

/-- A checked sum that begins with `start` has a result if each sum of `start` and the first `n`
words fits, and the result is exact then. -/
theorem foldlM_addWord?_eq_some_iff {words : List Int32} {start total : Int}
    (hstart : Shape.fits 32 start = true) :
    words.foldlM addWord? start = some total
      ↔ total = start + (words.map Int32.toInt).sum
        ∧ ∀ n, Shape.fits 32 (start + ((words.take n).map Int32.toInt).sum) = true := by
  induction words generalizing start with
  | nil => simp [hstart, eq_comm]
  | cons word rest ih =>
      rw [List.foldlM_cons, List.map_cons, List.sum_cons, ← add_assoc]
      by_cases hfits : Shape.fits 32 (start + word.toInt) = true
      · have hstep : addWord? start word = some (start + word.toInt) := if_pos hfits
        rw [hstep, Option.bind_eq_bind, Option.bind_some, ih hfits]
        refine and_congr_right fun _ => ⟨fun h n => ?_, fun h n => ?_⟩
        · cases n with
          | zero => simpa using hstart
          | succ n => simpa [add_assoc] using h n
        · simpa [add_assoc] using h (n + 1)
      · have hstep : addWord? start word = none := if_neg hfits
        rw [hstep]
        refine iff_of_false (by simp) fun h => hfits ?_
        simpa using h.2 1

/-! ## Reading well-typed values -/

namespace Shape

variable {shapes : List (String × Shape)} {j : Json} {key : String}

/-- If `j` has the shape `record shapes`, what is present of a field has the shape of the field. -/
theorem accepts_of_present? {shape : Shape} {inner : Json} (h : (record shapes).accepts j = true)
    (hmem : (key, shape) ∈ shapes) (hinner : j.present? key = some inner) :
    shape.accepts inner = true := by
  cases j with
  | object fields =>
      have hfield := acceptsFields_iff.mp (show acceptsFields shapes fields = true from h) _ hmem
      rw [Json.present?_eq_filter] at hinner
      obtain ⟨hfound, hnull⟩ := Option.filter_eq_some_iff.mp hinner
      have hfound : fields.find? key = some inner := hfound
      rw [hfound, acceptsField_some (by simpa using hnull)] at hfield
      exact hfield
  | _ => cases hinner

/-- The same for a field that is read by `recordAt?`. -/
theorem accepts_of_recordAt? {shape : Shape} {inner : Json} (h : (record shapes).accepts j = true)
    (hmem : (key, shape) ∈ shapes) (hinner : j.recordAt? key = some inner) :
    shape.accepts inner = true :=
  accepts_of_present? h hmem (Option.filter_eq_some_iff.mp hinner).1

/-- The same for the items of a field that is read by `itemsAt`. -/
theorem accepts_of_mem_itemsAt {item : Shape} {inner : Json} (h : (record shapes).accepts j = true)
    (hmem : (key, list item) ∈ shapes) (hinner : inner ∈ j.itemsAt key) :
    item.accepts inner = true := by
  unfold Json.itemsAt Json.itemsAt? at hinner
  cases hlist : j.present? key with
  | none =>
      rw [hlist] at hinner
      cases hinner
  | some found =>
      have hfound := accepts_of_present? h hmem hlist
      rw [hlist] at hinner
      cases found with
      | array items => exact List.all_eq_true.mp hfound inner hinner
      | _ => cases hinner

/-- A field of the shape `int32` fits 32 bits, and so does the 0 that a missing one is read as. -/
theorem fits_intAt (h : (record shapes).accepts j = true) (hmem : (key, int32) ∈ shapes) :
    fits 32 (j.intAt key) = true := by
  unfold Json.intAt Json.intAt?
  cases hpresent : j.present? key with
  | none => rfl
  | some found =>
      have hfound : found.int?.any (fits 32) = true := accepts_of_present? h hmem hpresent
      cases hint : found.int? with
      | none =>
          rw [hint] at hfound
          cases hfound
      | some i =>
          rw [hint] at hfound
          simpa [hint] using hfound

end Shape

/-! ## Restarts -/

namespace PodStatus

/-- Exact sum of the restarts of all containers. -/
def totalRestarts (s : PodStatus) : Int :=
  (s.restarts.map Int32.toInt).sum

/-- How often the first `n` containers were restarted, all together. -/
def restartsOfFirst (s : PodStatus) (n : Nat) : Int :=
  ((s.restarts.take n).map Int32.toInt).sum

/-- The count is there if and only if no sum on the way leaves the 32 bits, and then it is
`totalRestarts`. -/
theorem restartCount?_eq_some_iff {s : PodStatus} {total : Int} :
    s.restartCount? = some total
      ↔ total = s.totalRestarts ∧ ∀ n, Shape.fits 32 (s.restartsOfFirst n) = true := by
  have h : s.restarts.foldlM addWord? 0 = some total ↔ _ :=
    foldlM_addWord?_eq_some_iff (show Shape.fits 32 0 = true from rfl)
  simp only [zero_add] at h
  exact h

theorem restartCount?_eq_none_iff {s : PodStatus} :
    s.restartCount? = none ↔ ∃ n, ¬Shape.fits 32 (s.restartsOfFirst n) = true := by
  rw [Option.eq_none_iff_forall_ne_some, ← not_forall]
  constructor
  · intro h hfits
    exact h _ (restartCount?_eq_some_iff.mpr ⟨rfl, hfits⟩)
  · intro h total hcount
    exact h (restartCount?_eq_some_iff.mp hcount).2

/-- If the count is there, the exact total fits 32 bits: it is the last of the sums. -/
theorem fits_totalRestarts {s : PodStatus} (h : s.restartCount?.isSome) :
    Shape.fits 32 s.totalRestarts = true := by
  obtain ⟨total, hcount⟩ := Option.isSome_iff_exists.mp h
  have hall := (restartCount?_eq_some_iff.mp hcount).2 s.restarts.length
  rwa [restartsOfFirst, List.take_length] at hall

end PodStatus

/-- The restart counts that a value gives for the containers of a pod. -/
def Json.restarts (value : Json) : List Int :=
  ((value.recordAt "status").itemsAt "containerStatuses").map (·.intAt "restartCount")

/-- The counts of a pod are those of the value that it was read from, as `Schema.pod` lets no count
pass that does not fit. -/
theorem PodObject.restarts_ofJson {value : Json} (h : Schema.pod.accepts value = true)
    {status : PodStatus} (hstatus : (PodObject.ofJson value).status = some status) :
    status.restarts.map Int32.toInt = value.restarts := by
  obtain ⟨inner, hinner, rfl⟩ := Option.map_eq_some_iff.mp hstatus
  have haccepted : Schema.podStatus.accepts inner = true :=
    Shape.accepts_of_recordAt? h (by simp) hinner
  have hword : ∀ c ∈ inner.itemsAt "containerStatuses",
      (Int32.ofInt (c.intAt "restartCount")).toInt = c.intAt "restartCount" := by
    intro c hc
    have hc : Schema.containerStatus.accepts c = true :=
      Shape.accepts_of_mem_itemsAt haccepted (by simp [Schema.all]) hc
    exact Shape.toInt_ofInt (Shape.fits_intAt hc (by simp [Schema.all]))
  have hrecord : value.recordAt "status" = inner := by rw [Json.recordAt, hinner, Option.getD_some]
  unfold Json.restarts PodStatus.ofJson
  rw [hrecord, List.map_map]
  exact List.map_congr_left hword

/-- The node of a pod holds the stored form of its count. -/
theorem ObjectOf.stored_restartCount (id : Identity) (now : Instant) (uid : String)
    {o : PodObject} {status : PodStatus} (h : o.status = some status) :
    (storedProperties (fields id now uid .pod o)).find? "restartCount"
      = (Json.ofInt? status.restartCount?).stored? := by
  have hfield : ("restartCount", Json.ofInt? status.restartCount?) ∈ PodObject.fields o := by
    simp [PodObject.fields, fieldsOf, h]
  have hmetadata : ∀ f ∈ metadataFields id uid (objectMeta .pod o), f.1 ≠ "restartCount" := by
    unfold metadataFields namespacedField
    split <;> simp [Key.uid, Key.name, Key.namespace_, Key.clusterName, Key.instanceHash,
      Key.annotations, Key.namespacedName]
  have hown : ∀ f ∈ PodObject.fields o,
      f.1 = "restartCount" → f.2 = .ofInt? status.restartCount? := by
    simp only [PodObject.fields, List.forall_mem_append, forall_mem_fieldsOf, h]
    simp
  refine stored_of_fields rfl (List.mem_append_right _ hfield) fun f hf hkey => ?_
  rcases List.mem_append.mp hf with hf | hf
  · exact absurd hkey (hmetadata f hf)
  · exact hown f hf hkey

/-- A number that fits 32 bits is stored as it is. -/
theorem stored?_int_of_fits {i : Int} (h : Shape.fits 32 i = true) :
    (Json.int i).stored? = some (.integer i) := by
  obtain ⟨hleast, hmost⟩ := Shape.fits_iff.mp h
  exact if_pos ⟨by omega, by omega⟩

namespace Sync

variable {raw : RawObject} {o : PodObject} {status : PodStatus} {uid : String} {s : MemoryStore}

/-- Whether following a pod panics is a matter of its counts, once it has been read and has a `uid`. -/
theorem panics_pod (hconvert : raw.convert .pod "Pod" = .ok o) (hstatus : o.status = some status)
    (huid : o.objectMeta.uid = some uid) (hne : uid ≠ "") :
    panics .pod raw = status.restartCount?.isNone := by
  have hidentify : identify "Pod" o.objectMeta = .ok uid := identify_eq_ok_iff.mpr ⟨huid, hne⟩
  have hoverflows : ObjectOf.overflows .pod o = status.restartCount?.isNone := by
    simp [ObjectOf.overflows, hstatus]
  unfold panics
  rw [show raw.convert .pod Kind.pod.name = .ok o from hconvert]
  show ((identify "Pod" o.objectMeta).isOk && ObjectOf.overflows .pod o) = _
  rw [hidentify, hoverflows]
  rfl

/-- A step that does not panic is the plan `create`. -/
theorem create?_eq_some_iff {w : Writer} {now : Instant} {k : Kind}
    {plan : Plan (Except SyncError Unit)} :
    create? w now k raw = some plan ↔ panics k raw = false ∧ create w now k raw = plan := by
  cases hpanics : panics k raw <;> simp [create?, hpanics]

/-- Following a pod that has been read, with a `status` and a `uid`, in a store that can be written.
The counts that are added are those of the `value` that the pod was read from. If the counts of the
first `n` containers leave the 32 bits for some `n`, the step panics (`create? = none`), whatever
comes after them; if they do for none, the step ends well, and the node of the pod has all its
properties, the exact total of the counts as `restartCount` among them. -/
theorem restarts_counted (w : Writer) (now : Instant) (hconvert : raw.convert .pod "Pod" = .ok o)
    (hstatus : o.status = some status) (huid : o.objectMeta.uid = some uid) (hne : uid ≠ "")
    (hs : s.writable = true) :
    (∀ value, raw = .unstructured value → status.restarts.map Int32.toInt = value.restarts)
      ∧ (create? w now .pod raw = none ↔ ∃ n, ¬(-2147483648 ≤ status.restartsOfFirst n
          ∧ status.restartsOfFirst n < 2147483648))
      ∧ ∀ plan, create? w now .pod raw = some plan →
          let after := plan.run MemoryStore.perform s
          after.1 = .ok ()
            ∧ ∃ n ∈ after.2.graph.nodes, n.isMeantBy (.byUid "Pod" uid) = true
                ∧ n.properties = storedProperties (ObjectOf.fields w.id now uid .pod o)
                ∧ n.properties.find? "restartCount" = some (.integer status.totalRestarts) := by
  have hpanics := panics_pod hconvert hstatus huid hne
  refine ⟨?read, ?panics, ?counted⟩
  case read =>
    rintro value rfl
    obtain ⟨haccepts, heq⟩ :=
      Option.ite_none_right_eq_some.mp (RawObject.decode?_of_convert hconvert)
    cases heq
    exact PodObject.restarts_ofJson haccepts hstatus
  case panics =>
    have hnone : create? w now .pod raw = none ↔ status.restartCount? = none := by
      simp [create?, hpanics]
    rw [hnone, PodStatus.restartCount?_eq_none_iff]
    simp only [Shape.fits_iff]
  case counted =>
    intro plan hplan after
    obtain ⟨hno, rfl⟩ := create?_eq_some_iff.mp hplan
    have hsome : status.restartCount?.isSome := by
      rw [hpanics] at hno
      simpa using hno
    obtain ⟨total, hcount⟩ := Option.isSome_iff_exists.mp hsome
    obtain ⟨rfl, -⟩ := PodStatus.restartCount?_eq_some_iff.mp hcount
    obtain ⟨upserts, hrun⟩ := run_create w now (k := .pod) hconvert huid hne hs
    have hwritten : ∃ n ∈ (s.graph.follow w now .pod o uid).nodes,
        n.isUpsertTarget ["Pod"] Key.uid (.text uid) = true
          ∧ n.properties = storedProperties (ObjectOf.fields w.id now uid .pod o) :=
      Graph.exists_mem_upsert_target (ObjectOf.storedUid w.id now uid .pod o)
    obtain ⟨n, hn, htarget, hproperties⟩ := hwritten
    have hmeant := Node.isMeantBy_uid.mpr (Node.isUpsertTarget_uid.mp htarget)
    rw [show after = _ from hrun]
    refine ⟨rfl, n, hn, hmeant, hproperties, ?_⟩
    rw [hproperties, ObjectOf.stored_restartCount w.id now uid hstatus, hcount]
    exact stored?_int_of_fits (PodStatus.fits_totalRestarts hsome)

/-- A pod whose containers were restarted this often. -/
def crashingPod (counts : List Int) : Json :=
  .ofFields [("kind", .text "Pod"), ("metadata", .ofFields [("uid", .text "a")]),
    ("status", .ofFields [("containerStatuses",
      .array (counts.map fun i => .ofFields [("restartCount", .int i)]))])]

theorem convert_crashingPod {counts : List Int}
    (h : Schema.pod.accepts (crashingPod counts) = true) :
    (RawObject.unstructured (crashingPod counts)).convert .pod "Pod"
      = .ok (PodObject.ofJson (crashingPod counts)) :=
  RawObject.convert_of_decode? (k := .pod) (by decide) (if_pos h)

/-- Instances of `restarts_counted`: two counts whose sum fits, and three of which the first two
leave the 32 bits, although the sum of all three would fit. -/
theorem restarts_counted_crashing :
    let follow counts := create? ⟨⟨"shop", "new"⟩, OwnerKinds.empty⟩ ⟨0, 0⟩ .pod
      (.unstructured (crashingPod counts))
    (∃ plan, follow [2147483640, 7] = some plan
        ∧ ∃ n ∈ (plan.run MemoryStore.perform .empty).2.graph.nodes,
            n.properties.find? "restartCount" = some (.integer 2147483647))
      ∧ follow [2147483640, 8, -1] = none := by
  intro follow
  constructor
  case left =>
    have haccepts : Schema.pod.accepts (crashingPod [2147483640, 7]) = true := by decide +kernel
    have huid : (PodObject.ofJson (crashingPod [2147483640, 7])).objectMeta.uid = some "a" := rfl
    obtain ⟨hread, -, hplan⟩ := restarts_counted (s := .empty) ⟨⟨"shop", "new"⟩, OwnerKinds.empty⟩
      ⟨0, 0⟩ (convert_crashingPod haccepts) rfl huid (by decide) rfl
    have hsome : follow [2147483640, 7] = some _ := create?_eq_some_iff.mpr ⟨by decide +kernel, rfl⟩
    obtain ⟨-, n, hn, -, -, hcount⟩ := hplan _ hsome
    refine ⟨_, hsome, n, hn, ?_⟩
    rw [hcount, PodStatus.totalRestarts, hread _ rfl]
    decide +kernel
  case right =>
    have haccepts : Schema.pod.accepts (crashingPod [2147483640, 8, -1]) = true := by decide +kernel
    have huid : (PodObject.ofJson (crashingPod [2147483640, 8, -1])).objectMeta.uid = some "a" := rfl
    obtain ⟨-, hnone, -⟩ := restarts_counted (s := .empty) ⟨⟨"shop", "new"⟩, OwnerKinds.empty⟩
      ⟨0, 0⟩ (convert_crashingPod haccepts) rfl huid (by decide) rfl
    exact hnone.mpr ⟨2, by decide +kernel⟩

/-- Counterexample: the second of two counts does not fit beside the first, so the step panics and
there is no node with the exact total. -/
theorem not_restarts_counted :
    ¬∀ (w : Writer) (now : Instant) (raw : RawObject) (o : PodObject) (status : PodStatus)
      (uid : String) (s : MemoryStore), raw.convert .pod "Pod" = .ok o → o.status = some status →
      o.objectMeta.uid = some uid → uid ≠ "" → s.writable = true →
      ∃ plan, create? w now .pod raw = some plan
        ∧ ∃ n ∈ (plan.run MemoryStore.perform s).2.graph.nodes,
            n.isMeantBy (.byUid "Pod" uid) = true
              ∧ n.properties.find? "restartCount" = some (.integer status.totalRestarts) := by
  intro h
  have haccepts : Schema.pod.accepts (crashingPod [2147483647, 1]) = true := by decide +kernel
  obtain ⟨plan, hplan, -⟩ := h ⟨⟨"shop", "new"⟩, OwnerKinds.empty⟩ ⟨0, 0⟩
    (.unstructured (crashingPod [2147483647, 1])) _ _ "a" .empty (convert_crashingPod haccepts) rfl
    rfl (by decide) rfl
  have hpanics : panics .pod (.unstructured (crashingPod [2147483647, 1])) = true := by
    decide +kernel
  rw [(create?_eq_some_iff.mp hplan).1] at hpanics
  cases hpanics

end Sync

end ClusterGraph
