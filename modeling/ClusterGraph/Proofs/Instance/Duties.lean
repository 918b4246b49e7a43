import ClusterGraph.Proofs.Instance.Calls
import ClusterGraph.Proofs.Projection.Anchoring
import ClusterGraph.Proofs.Store.Authorship

/-!
# ClusterGraph.Proofs.Instance.Duties

**All that an instance does to a graph, as duties that several instances can take turns at.**

An instance enters itself, follows objects that come and go, sweeps and prunes. But for pruning,
every call of every duty stays within what is the instance's own (`Duty.isWithin`): it writes and
deletes under the identifiers of the objects that the instance watches, signs what it writes,
and links nothing but nodes of these objects to others.
-/

namespace ClusterGraph

/-! ## What is an instance's own -/

/-- Places of an instance, as label and `uid`: those of the objects that it watches, and that of its
cluster node. -/
inductive Occupies (id : Identity) (watched : String → Prop) : String → String → Prop where
  | object (k : Kind) {uid : String} (h : watched uid) : Occupies id watched k.name uid
  | cluster : Occupies id watched Label.cluster id.uid

/-- Calls of an instance that keep to its places and to what its cluster left: it writes properties
that it has signed to such a place, deletes or links an object there, or removes leftovers of others
(`Call.IsSweep`). -/
inductive Call.IsWithin (id : Identity) (watched : String → Prop) : Call → Prop where
  | write (mode : WriteMode) {label uid : String} {properties : Dict Json}
      (hplace : Occupies id watched label uid)
      (huid : (storedProperties properties).find? Key.uid = some (.text uid))
      (hsigned : Signed id label (storedProperties properties))
      (hname : label = Label.cluster →
        (storedProperties properties).find? Key.name = some (.text id.cluster)) :
      IsWithin id watched (.upsert mode [label] properties Key.uid)
  | delete {k : Kind} (hk : k ≠ .event) {uid : String} (huid : watched uid) :
      IsWithin id watched (.delete k.name Key.uid uid)
  | link {l : Link} {k : Kind} {uid : String} (huid : watched uid)
      (hself : l.IsAt (.byUid k.name uid)) : IsWithin id watched l.call
  | list (label : String) (filters : List (String × String)) :
      IsWithin id watched (.list label filters)
  | sweep {c : Call} (h : c.IsSweep id) : IsWithin id watched c

/-- Calls of a duty: those that are `IsWithin`, and the deletion of old events of the cluster. -/
def Call.IsOfDuty (id : Identity) (watched : String → Prop) (c : Call) : Prop :=
  c.IsWithin id watched ∨ ∃ cutoff, c = .pruneEvents id.cluster cutoff

/-- Node in a place of the instance, signed by it. -/
structure Node.IsRecordOf (n : Node) (id : Identity) (watched : String → Prop) : Prop where
  place : ∃ label uid, n.labels = [label] ∧ n.text? Key.uid = some uid
    ∧ Occupies id watched label uid
  signed : n.IsSigned id
  name : n.labels = [Label.cluster] → n.text? Key.name = some id.cluster

/-- The node that a call of a duty writes `IsRecordOf` the instance. -/
theorem Call.IsOfDuty.isRecordOf {id : Identity} {watched : String → Prop} {c : Call}
    (hc : c.IsOfDuty id watched) {g : Graph} (hnumbered : g.Numbered) (hsingle : g.SingleLabelled)
    {n : Node} (hn : n ∈ (c.effect g).nodes) (hid : c.written? g = some n.id) :
    n.IsRecordOf id watched := by
  rcases hc with hc | ⟨cutoff, rfl⟩
  · cases hc with
    | @write mode label uid properties hplace huid hsigned hname =>
        simp only [effect, huid] at hn
        simp only [written?, huid, Option.map_some, Option.some.injEq] at hid
        obtain ⟨hlabels, hproperties⟩ := hnumbered.of_upsertId hsingle hn hid.symm
        refine ⟨⟨label, uid, hlabels, ?_, hplace⟩, ⟨label, hlabels, hproperties ▸ hsigned⟩, ?_⟩
        · unfold Node.text?
          rw [hproperties, huid]
          rfl
        · intro hcluster
          rw [hlabels] at hcluster
          unfold Node.text?
          rw [hproperties, hname (List.singleton_inj.mp hcluster)]
          rfl
    | delete => cases hid
    | link => cases hid
    | list => cases hid
    | sweep hsweep => cases hsweep <;> cases hid
  · cases hid

/-! ## Duties -/

/-- The plan without its result. -/
def Plan.forget {α : Type} (p : Plan α) : Plan Unit :=
  p.bind fun _ => .done ()

theorem Plan.calls_forget {α : Type} {p : Plan α} {c : Call} (h : p.forget.Calls c) :
    p.Calls c := by
  rcases calls_bind h with h | ⟨-, h⟩
  · exact h
  · exact absurd h not_calls_done

/-- Task of an instance that changes the graph. -/
inductive Duty where
  /-- Enter the cluster node (`Command.register`). -/
  | register (now : Instant)
  /-- Follow an object that appeared or changed (`Sync.create`). -/
  | create (now : Instant) (k : Kind) (raw : RawObject)
  /-- Follow an object that is gone (`Sync.delete`). -/
  | delete (k : Kind) (raw : RawObject)
  /-- Delete what other instances of the cluster left (`Retention.sweep`). -/
  | sweep (kinds : List String)
  /-- Delete events of the cluster that are older than `days` (`Retention.prune`). -/
  | prune (days : Int) (now : Instant)

namespace Duty

/-- The plan of a duty, without its result. -/
def plan (w : Writer) : Duty → Plan Unit
  | register now => (Command.register w.id now).forget
  | create now k raw => (Sync.create w now k raw).forget
  | delete k raw => (Sync.delete k raw).forget
  | sweep kinds => (Retention.sweep w.id kinds).forget
  | prune days now => (Retention.prune w.id.cluster days now).forget

/-- Whether the duty is `prune`. -/
def IsPrune : Duty → Prop
  | prune _ _ => True
  | _ => False

/-- The objects of the duty have a `uid` of `watched`. -/
def IsAbout (watched : String → Prop) : Duty → Prop
  | create _ k raw => ∀ o, raw.convert k k.name = .ok o →
      ∀ uid, (ObjectOf.objectMeta k o).uid = some uid → watched uid
  | delete _ raw => ∀ uid, raw.uid? = some uid → watched uid
  | _ => True

variable {w : Writer} {watched : String → Prop}

theorem isWithin_register {now : Instant} {c : Call}
    (h : (Command.register w.id now).Calls c) : c.IsWithin w.id watched := by
  cases h with
  | here =>
      exact .write .transaction .cluster (Command.storedUid_clusterFields w.id now)
        (Command.signed_clusterFields w.id now)
        fun _ => Command.find?_clusterFields w.id now (by simp)
  | later answer h => cases answer <;> exact absurd h Plan.not_calls_done

theorem isWithin_create {now : Instant} {k : Kind} {raw : RawObject}
    (habout : (create now k raw).IsAbout watched) {c : Call}
    (h : (Sync.create w now k raw).Calls c) : c.IsWithin w.id watched := by
  obtain ⟨o, uid, hconvert, huid, rfl | h⟩ := Sync.calls_create h
  · exact .write .direct (.object k (habout o hconvert uid huid))
      (ObjectOf.storedUid w.id now uid k o) (ObjectOf.signed_fields w.id now uid k o)
      fun hname => absurd hname k.name_ne_cluster
  · rcases Sync.calls_relate h with ⟨label, filters, rfl⟩ | ⟨l, rfl, hself⟩
    · exact .list label filters
    · rw [Sync.self, huid] at hself
      exact .link (habout o hconvert uid huid) hself

/-- Every call of a duty other than `prune` is `IsWithin`. -/
theorem isWithin {t : Duty} (ht : ¬t.IsPrune) (habout : t.IsAbout watched) {c : Call}
    (h : (t.plan w).Calls c) : c.IsWithin w.id watched := by
  cases t with
  | register now => exact isWithin_register (Plan.calls_forget h)
  | create now k raw => exact isWithin_create habout (Plan.calls_forget h)
  | delete k raw =>
      obtain ⟨hk, uid, huid, rfl⟩ := Sync.calls_delete (Plan.calls_forget h)
      exact .delete hk (habout uid huid)
  | sweep kinds => exact .sweep (Retention.isSweep_sweep (Plan.calls_forget h))
  | prune days now => exact absurd trivial ht

/-- The duty `prune` makes at most one call, with the instant of `Retention.cutoff?`. -/
theorem calls_prune {days : Int} {now : Instant} {c : Call}
    (h : ((prune days now).plan w).Calls c) :
    ∃ cutoff, Retention.cutoff? days now = some cutoff ∧ c = .pruneEvents w.id.cluster cutoff := by
  have h := Plan.calls_forget h
  unfold Retention.prune at h
  split at h
  · exact absurd h Plan.not_calls_done
  · rename_i cutoff hcutoff
    cases h with
    | here => exact ⟨cutoff, hcutoff, rfl⟩
    | later answer h => cases answer <;> exact absurd h Plan.not_calls_done

theorem isOfDuty {t : Duty} (habout : t.IsAbout watched) {c : Call} (h : (t.plan w).Calls c) :
    c.IsOfDuty w.id watched := by
  by_cases ht : t.IsPrune
  · cases t with
    | prune days now =>
        obtain ⟨cutoff, -, hcall⟩ := calls_prune h
        exact .inr ⟨cutoff, hcall⟩
    | _ => cases ht
  · exact .inl (isWithin ht habout h)

end Duty

/-! ## Taking turns -/

namespace Ledger

variable {ι : Type}

/-- Invariant of a ledger: every node that a party wrote `IsRecordOf` it. For this, nodes are told
apart by their numbers and have one label each. -/
structure Records (w : ι → Writer) (watched : ι → String → Prop) (l : Ledger ι) : Prop where
  numbered : l.graph.Numbered
  single : l.graph.SingleLabelled
  recorded : ∀ n ∈ l.graph.nodes, ∀ j, l.author n.id = some j → n.IsRecordOf (w j).id (watched j)

variable {w : ι → Writer} {watched : ι → String → Prop} {l : Ledger ι}

/-- Before anyone has written, the invariant holds if the graph is numbered and single-labelled. -/
theorem records_ofStore {s : UnreliableStore} (hnumbered : s.graph.Numbered)
    (hsingle : s.graph.SingleLabelled) : (ofStore s : Ledger ι).Records w watched :=
  ⟨hnumbered, hsingle, nofun⟩

theorem Records.performBy (h : l.Records w watched) {i : ι} {c : Call}
    (hc : c.IsOfDuty (w i).id (watched i)) : (performBy i c l).2.Records w watched := by
  rcases performBy_cases i c l with ⟨hgraph, hauthor⟩ | ⟨hgraph, hauthor⟩
  · refine ⟨hgraph ▸ h.numbered, hgraph ▸ h.single, ?_⟩
    rw [hgraph, hauthor]
    exact h.recorded
  · refine ⟨hgraph ▸ h.numbered.effect c, fun n hn => ?_, fun n hn j hj => ?_⟩
    · rw [hgraph] at hn
      by_cases hid : c.written? l.graph = some n.id
      · obtain ⟨label, -, hlabels, -⟩ := (hc.isRecordOf h.numbered h.single hn hid).place
        exact ⟨label, hlabels⟩
      · exact h.single n (Graph.mem_of_mem_effect hn hid)
    · rw [hgraph] at hn
      rw [hauthor, authors] at hj
      split at hj
      · rename_i hid
        cases hj
        exact hc.isRecordOf h.numbered h.single hn hid
      · rename_i hid
        exact h.recorded n (Graph.mem_of_mem_effect hn hid) j hj

/-- Let party `turn.1` carry out the duty `turn.2`. -/
def work (w : ι → Writer) (l : Ledger ι) (turn : ι × Duty) : Ledger ι :=
  ((turn.2.plan (w turn.1)).run (performBy turn.1) l).2

/-- Let parties carry out duties, one after the other. -/
def workAll (w : ι → Writer) (turns : List (ι × Duty)) (l : Ledger ι) : Ledger ι :=
  turns.foldl (work w) l

/-- What each call of a duty keeps, the duty keeps. -/
theorem work_induction {turn : ι × Duty} {P : Ledger ι → Prop}
    (habout : turn.2.IsAbout (watched turn.1))
    (h : ∀ c l, c.IsOfDuty (w turn.1).id (watched turn.1) → P l → P (performBy turn.1 c l).2)
    (hl : P l) : P (l.work w turn) :=
  Plan.run_induction (fun c l hc => h c l (Duty.isOfDuty habout hc)) hl

theorem Records.work (h : l.Records w watched) {turn : ι × Duty}
    (habout : turn.2.IsAbout (watched turn.1)) : (l.work w turn).Records w watched :=
  work_induction habout (fun _ _ hc hl => hl.performBy hc) h

theorem Records.workAll (h : l.Records w watched) {turns : List (ι × Duty)}
    (habout : ∀ turn ∈ turns, turn.2.IsAbout (watched turn.1)) :
    (l.workAll w turns).Records w watched := by
  induction turns generalizing l with
  | nil => exact h
  | cons turn rest ih =>
      exact ih (h.work (habout turn (by simp)))
        fun other hother => habout other (List.mem_cons_of_mem _ hother)

end Ledger

end ClusterGraph
