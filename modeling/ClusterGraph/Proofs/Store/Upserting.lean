import ClusterGraph.Proofs.Graph.Scalars
import ClusterGraph.Proofs.Store.NodeChange
import ClusterGraph.Proofs.Store.Unreliable

/-!
# ClusterGraph.Proofs.Store.Upserting

**Upserts absorb and commute.**

Of two upserts of the same labels and the same value of the same key, the second leaves nothing of
the first, whatever graph they meet: several nodes may match, and carry more labels than asked for.
Two by unique identifier under different labels or values each write their own node and nothing
else, so they may come in either order.
-/

namespace ClusterGraph

/-- The arguments of an `upsert` call. -/
structure Upsert where
  mode : WriteMode
  labels : List String
  properties : Dict Json
  key : String

namespace Upsert

/-- The `upsert` call with these arguments. -/
@[reducible] def call (u : Upsert) : Call :=
  .upsert u.mode u.labels u.properties u.key

/-- The stored form of the properties. -/
def stored (u : Upsert) : Properties :=
  storedProperties u.properties

/-- The stored value under the key. -/
def value? (u : Upsert) : Option PropertyValue :=
  u.stored.find? u.key

/-- The store answers the call with success. -/
def Succeeds (u : Upsert) (s : MemoryStore) : Prop :=
  (MemoryStore.perform u.call s).1 = .ok ()

/-- The store after the call. -/
def run (u : Upsert) (s : MemoryStore) : MemoryStore :=
  (MemoryStore.perform u.call s).2

/-- Whether `u` and `v` have the same labels and key, and the same scalar under it. -/
def agrees (u v : Upsert) : Bool :=
  u.labels = v.labels && u.key = v.key && u.value?.any fun x => v.value?.any x.sameScalar

/-- The upsert has one label, and its key is `uid`. -/
structure IsByUid (u : Upsert) : Prop where
  label : ∃ label, u.labels = [label]
  key : u.key = Key.uid

/-- Whether `n` is a target of the upsert. -/
def isAbout (u : Upsert) (n : Node) : Bool :=
  u.value?.any (n.isUpsertTarget u.labels u.key ·)

/-- From `g` to `h`, exactly one node was written: it `isAbout` the upsert, and has its properties.
All other nodes and all edges are the same. -/
structure Writes (u : Upsert) (g h : Graph) : Prop where
  written : (h.nodesWhere u.isAbout).map Node.properties = [u.stored]
  others : h.nodesWhere (!u.isAbout ·) = g.nodesWhere (!u.isAbout ·)
  edges : h.edges = g.edges

/-- Performing `u` and then `v`: both succeed, and each `Writes` its node and nothing else. -/
structure InTurn (u v : Upsert) (s : MemoryStore) : Prop where
  first : u.Writes s.graph (u.run s).graph
  succeeds : v.Succeeds (u.run s)
  second : v.Writes (u.run s).graph (v.run (u.run s)).graph
  keyed : (v.run (u.run s)).graph.ScalarKeyed

variable {u v p q : Upsert} {s t : MemoryStore}

/-- When an upsert succeeds: the store can be written, its names are identifiers, and there is a
value under its key. The graph does not matter. -/
theorem succeeds_iff : u.Succeeds s ↔ s.writable = true
    ∧ (∃ text, Statement.upsert u.labels u.key = .ok text) ∧ ∃ value, u.value? = some value := by
  unfold Succeeds
  cases hwritable : s.writable with
  | false =>
      rw [MemoryStore.perform_of_not_writable rfl hwritable]
      simp
  | true =>
      rw [MemoryStore.perform_of_writable hwritable]
      simp only [MemoryStore.answer, MemoryStore.settle, MemoryStore.upsert, value?, stored]
      cases Statement.upsert u.labels u.key with
      | error e => simp
      | ok text => cases (storedProperties u.properties).find? u.key <;> simp

theorem Succeeds.congr (h : u.Succeeds s) (hwritable : t.writable = true) : u.Succeeds t :=
  succeeds_iff.mpr ⟨hwritable, (succeeds_iff.mp h).2⟩

/-- An upsert that succeeds would succeed after any other one as well. -/
theorem Succeeds.run (h : u.Succeeds s) (v : Upsert) : u.Succeeds (v.run s) :=
  h.congr (MemoryStore.writable_perform v.call (succeeds_iff.mp h).1)

theorem Succeeds.graph_run (h : u.Succeeds s) {value : PropertyValue}
    (hvalue : u.value? = some value) :
    (u.run s).graph = s.graph.upsert u.labels u.key value u.stored := by
  have heffect : u.call.effect s.graph = s.graph.upsert u.labels u.key value u.stored := by
    have hvalue : (storedProperties u.properties).find? u.key = some value := hvalue
    simp only [Call.effect, hvalue, stored]
  rcases MemoryStore.perform_cases u.call s with ⟨⟨e, he⟩, -⟩ | ⟨-, hgraph⟩
  · cases h.symm.trans he
  · exact hgraph.trans heffect

/-! ### Absorption -/

/-- If two upserts agree, performing both leaves the graph that the second leaves alone. -/
theorem Succeeds.absorb (hp : p.Succeeds s) (hq : q.Succeeds s) (hagrees : p.agrees q = true) :
    (q.run (p.run s)).graph = (q.run s).graph := by
  obtain ⟨-, -, v, hv⟩ := succeeds_iff.mp hp
  obtain ⟨-, -, w, hw⟩ := succeeds_iff.mp hq
  unfold agrees at hagrees
  rw [hv, hw, Option.any_some, Option.any_some, Bool.and_eq_true, Bool.and_eq_true,
    decide_eq_true_eq, decide_eq_true_eq] at hagrees
  obtain ⟨⟨hlabels, hkey⟩, hsame⟩ := hagrees
  have hfirst : p.stored.find? q.key = some v := hkey ▸ hv
  rw [(hq.run p).graph_run hw, hp.graph_run hv, hq.graph_run hw, hlabels, hkey,
    ← Graph.upsert_of_sameScalar hsame, ← Graph.upsert_of_sameScalar hsame]
  exact Graph.upsert_upsert hfirst q.stored

/-! ### Commutation -/

/-- An upsert by `uid` under the key `a`. -/
structure IsAt (u : Upsert) (a : ScalarKey) : Prop where
  labels : u.labels = [a.label]
  key : u.key = Key.uid
  value : u.value? = some a.uid

theorem Succeeds.exists_isAt (h : u.Succeeds s) (hu : u.IsByUid) : ∃ a, u.IsAt a := by
  obtain ⟨-, -, value, hvalue⟩ := succeeds_iff.mp h
  obtain ⟨label, hlabels⟩ := hu.label
  exact ⟨⟨label, value⟩, hlabels, hu.key, hvalue⟩

namespace IsAt

variable {a b : ScalarKey}

theorem find?_stored (hu : u.IsAt a) : u.stored.find? Key.uid = some a.uid :=
  hu.key ▸ hu.value

theorem isAbout_eq (hu : u.IsAt a) : u.isAbout = a.holds := by
  funext n
  unfold isAbout ScalarKey.holds
  rw [hu.value, hu.labels, hu.key, Option.any_some]

theorem agrees_eq (hu : u.IsAt a) (hv : v.IsAt b) : u.agrees v = a.same b := by
  unfold agrees ScalarKey.same
  rw [hu.value, hv.value, hu.labels, hv.labels, hu.key, hv.key, Option.any_some, Option.any_some]
  simp

theorem graph_run (hu : u.IsAt a) (h : u.Succeeds s) :
    (u.run s).graph = s.graph.upsertAt a u.stored := by
  rw [h.graph_run hu.value, hu.labels, hu.key]
  rfl

theorem scalarKeyed_run (hu : u.IsAt a) (h : u.Succeeds s) (hs : s.graph.ScalarKeyed) :
    (u.run s).graph.ScalarKeyed := by
  rw [hu.graph_run h]
  exact hs.upsertAt hu.find?_stored

theorem writes (hu : u.IsAt a) (h : u.Succeeds s) (hs : s.graph.ScalarKeyed) :
    u.Writes s.graph (u.run s).graph := by
  rw [hu.graph_run h]
  refine ⟨?written, ?others, ?edges⟩
  case written =>
    rw [hu.isAbout_eq]
    exact hs.entry_upsertAt_self hu.find?_stored
  case others =>
    rw [hu.isAbout_eq]
    exact hs.others_upsertAt hu.find?_stored
  case edges => exact Graph.edges_upsert _ _ _ _ _

theorem inTurn (hu : u.IsAt a) (hv : v.IsAt b) (h : u.Succeeds s) (h' : v.Succeeds s)
    (hs : s.graph.ScalarKeyed) : u.InTurn v s where
  first := hu.writes h hs
  succeeds := h'.run u
  second := hv.writes (h'.run u) (hu.scalarKeyed_run h hs)
  keyed := hv.scalarKeyed_run (h'.run u) (hu.scalarKeyed_run h hs)

end IsAt

/-- Absorption and commutation of upserts that succeed. If two agree, performing both leaves the
graph that the second leaves alone, for every graph. If two by `uid` do not agree and the graph is
`ScalarKeyed`, each writes its node and nothing else in either order, and the two graphs are the
same but for the numbers of nodes that are new (`Graph.AlikeBelow`). -/
theorem absorb_and_commute :
    (∀ (s : MemoryStore) (p q : Upsert), p.Succeeds s → q.Succeeds s → p.agrees q = true →
        q.Succeeds (p.run s) ∧ (q.run (p.run s)).graph = (q.run s).graph)
      ∧ ∀ (s : MemoryStore) (p q : Upsert), s.graph.ScalarKeyed → p.IsByUid → q.IsByUid →
        p.Succeeds s → q.Succeeds s → p.agrees q = false →
        p.InTurn q s ∧ q.InTurn p s
          ∧ Graph.AlikeBelow s.graph.nextId (q.run (p.run s)).graph (p.run (q.run s)).graph := by
  refine ⟨fun s p q hp hq hagrees => ⟨hq.run p, hp.absorb hq hagrees⟩,
    fun s p q hs hpuid hquid hp hq hagrees => ?_⟩
  obtain ⟨a, ha⟩ := hp.exists_isAt hpuid
  obtain ⟨b, hb⟩ := hq.exists_isAt hquid
  have hne : a.same b = false := (ha.agrees_eq hb).symm.trans hagrees
  refine ⟨ha.inTurn hb hp hq hs, hb.inTurn ha hq hp hs, ?_⟩
  rw [hb.graph_run (hq.run p), ha.graph_run hp, ha.graph_run (hp.run q), hb.graph_run hq]
  exact hs.upsertAt_comm ha.find?_stored hb.find?_stored hne

/-- An upsert of a pod by `uid`. -/
def ofPod (uid : Json) (phase : String) : Upsert :=
  ⟨.direct, ["Pod"], Dict.ofList [(Key.uid, uid), ("phase", .text phase)], Key.uid⟩

def pendingZero : Upsert :=
  ofPod (.number (.float .zero)) "Pending"

def runningZero : Upsert :=
  ofPod (.number (.float .negativeZero)) "Running"

/-- Two pods with the `uid` 0.0, one of which has another label besides. -/
def crowded : MemoryStore :=
  .ofGraph ⟨2, [⟨0, ["Web", "Pod"], Dict.ofList [(Key.uid, .float .zero), ("age", .integer 3)]⟩,
    ⟨1, ["Pod"], Dict.ofList [(Key.uid, .float .zero)]⟩], [⟨0, .uses, 1⟩]⟩

/-- A store with one pod. -/
def lonely : MemoryStore :=
  (ofPod (.text "a") "Running").run .empty

def podB : Upsert :=
  ofPod (.text "b") "Pending"

def podC : Upsert :=
  ofPod (.text "c") "Running"

/-- Instances of `absorb_and_commute`: 0.0 and -0.0 are the same `uid`; and two new pods get their
numbers in the order in which they come, so the graphs are alike but not equal. -/
theorem absorb_and_commute_pods :
    (runningZero.run (pendingZero.run crowded)).graph = (runningZero.run crowded).graph
      ∧ podB.InTurn podC lonely ∧ podC.InTurn podB lonely
      ∧ Graph.AlikeBelow 1 (podC.run (podB.run lonely)).graph (podB.run (podC.run lonely)).graph
      ∧ (podC.run (podB.run lonely)).graph ≠ (podB.run (podC.run lonely)).graph := by
  obtain ⟨habsorb, hcommute⟩ := absorb_and_commute
  have hlonely : lonely.graph.ScalarKeyed :=
    IsAt.scalarKeyed_run (a := ⟨"Pod", .text "a"⟩) ⟨rfl, rfl, rfl⟩ rfl Graph.scalarKeyed_empty
  have hbyUid : ∀ uid phase, (ofPod uid phase).IsByUid := fun _ _ => ⟨⟨"Pod", rfl⟩, rfl⟩
  have hzero := habsorb crowded pendingZero runningZero rfl rfl (by decide +kernel)
  obtain ⟨hturn, hturn', halike⟩ :=
    hcommute lonely podB podC hlonely (hbyUid _ _) (hbyUid _ _) rfl rfl (by decide +kernel)
  exact ⟨hzero.2, hturn, hturn', halike, by decide +kernel⟩

end Upsert
end ClusterGraph
