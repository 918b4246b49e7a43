import ClusterGraph.Proofs.Graph.Contents
import ClusterGraph.Store.Memory

/-!
# ClusterGraph.Proofs.Store.NodeChange

**What calls and plans do to the nodes of a store: one entry of the table is set or cleared,
or nothing happens to nodes at all.**

All that ever touches a node on behalf of an object is an upsert or a deletion by its unique
identifier (`Call.IsOf`). What such a call does to the entry of an identifier is a
`NodeChange` that can be read off the call (`Call.change`), so a store is only needed to say
what was there before (`MemoryStore.propertiesAt_perform`). A plan that touches nodes with its
first call alone (`Plan.ChangesFirst`) does, as a whole, what that call does
(`Plan.ChangesFirst.propertiesAt_run`).
-/

namespace ClusterGraph

/-! ## Changes -/

/-- Change to the entry of an object, which is the list of the properties of its nodes. -/
inductive NodeChange where
  | keep
  | write (p : Properties)
  | remove
deriving DecidableEq

namespace NodeChange

def apply : NodeChange → List Properties → List Properties
  | keep, found => found
  | write p, _ => [p]
  | remove, _ => []

/-- The entry after `changes`, one after the other. -/
def applyAll (changes : List NodeChange) (found : List Properties) : List Properties :=
  changes.foldl (fun found change => change.apply found) found

/-- Apply `f` to the properties that are written. -/
def map (f : Properties → Properties) : NodeChange → NodeChange
  | keep => keep
  | write p => write (f p)
  | remove => remove

@[simp] theorem apply_keep (found : List Properties) : keep.apply found = found :=
  rfl

@[simp] theorem applyAll_nil (found : List Properties) : applyAll [] found = found :=
  rfl

@[simp] theorem applyAll_cons (change : NodeChange) (rest : List NodeChange)
    (found : List Properties) :
    applyAll (change :: rest) found = applyAll rest (change.apply found) :=
  rfl

theorem applyAll_append (first second : List NodeChange) (found : List Properties) :
    applyAll (first ++ second) found = applyAll second (applyAll first found) :=
  List.foldl_append

theorem map_apply (f : Properties → Properties) (change : NodeChange)
    (found : List Properties) :
    (change.apply found).map f = (change.map f).apply (found.map f) := by
  cases change <;> rfl

end NodeChange

/-! ## Calls -/

namespace Call

/-- The change that a call makes to the entry of `uid`, if it is about nodes with the label of the
entry. -/
def change (uid : String) : Call → NodeChange
  | .upsert _ _ properties _ =>
      let stored := storedProperties properties
      if stored.find? Key.uid = some (.text uid) then .write stored else .keep
  | .delete _ _ value => if value = uid then .remove else .keep
  | _ => .keep

/-- Whether a call leaves all nodes as they are. Edges may change. -/
def keepsNodes : Call → Bool
  | .list _ _ | .link _ _ _ | .count _ | .health => true
  | _ => false

/-- Calls about objects with `label`: they write and delete nodes with this label by `uid`, or keep
all nodes. -/
inductive IsOf (label : String) : Call → Prop where
  | upsert (mode : WriteMode) {properties : Dict Json} {uid : String}
      (h : (storedProperties properties).find? Key.uid = some (.text uid)) :
      IsOf label (.upsert mode [label] properties Key.uid)
  | delete (uid : String) : IsOf label (.delete label Key.uid uid)
  | keeps {c : Call} (h : c.keepsNodes = true) : IsOf label c

theorem change_of_keepsNodes {c : Call} (h : c.keepsNodes = true) (uid : String) :
    c.change uid = .keep := by
  cases c <;> first | rfl | exact absurd h (by simp [keepsNodes])

end Call

/-! ## Stores -/

namespace MemoryStore

@[simp] theorem writable_arrival (c : Call) (s : MemoryStore) :
    (arrival c s).writable = s.writable := by
  cases c with
  | upsert mode labels properties key => cases mode <;> rfl
  | _ => rfl

theorem perform_of_writable {c : Call} {s : MemoryStore} (h : s.writable = true) :
    perform c s = answer c (arrival c s) := by
  unfold perform
  rw [if_neg (by simp [h])]

theorem perform_of_not_writable {c : Call} (hc : c.needsWriter = true) {s : MemoryStore}
    (h : s.writable = false) : perform c s = (.error .unavailable, arrival c s) := by
  unfold perform
  rw [if_pos (by simp [hc, h])]

theorem writable_perform (c : Call) {s : MemoryStore} (h : s.writable = true) :
    (perform c s).2.writable = true := by
  have harrival : (arrival c s).writable = true := (writable_arrival c s).trans h
  rw [perform_of_writable h]
  cases c with
  | upsert mode labels properties key =>
      simp only [answer, settle, upsert]
      split <;> rename_i heq
      · exact harrival
      · split at heq
        · cases heq
        · split at heq
          · cases heq
          · cases heq
            exact harrival
  | delete label key value =>
      simp only [answer, settle, delete]
      split <;> rename_i heq
      · exact harrival
      · split at heq
        · cases heq
        · cases heq
          exact harrival
  | link source rel target =>
      simp only [answer, settle, link]
      split <;> rename_i heq
      · exact harrival
      · split at heq
        · cases heq
        · cases heq
          exact harrival
  | sweepLabel label id =>
      simp only [answer]
      split <;> exact harrival
  | _ => exact harrival

/-- A call that `keepsNodes` changes nothing but the edges of the graph. -/
theorem graph_perform_of_keeps {c : Call} (hc : c.keepsNodes = true) {s : MemoryStore}
    (h : s.writable = true) : ∃ edges, (perform c s).2.graph = { s.graph with edges } := by
  rw [perform_of_writable h]
  cases c with
  | link source rel target =>
      simp only [answer, settle, link]
      split <;> rename_i heq
      · exact ⟨_, rfl⟩
      · split at heq
        · cases heq
        · cases heq
          exact ⟨_, rfl⟩
  | list => exact ⟨_, rfl⟩
  | count => exact ⟨_, rfl⟩
  | health => exact ⟨_, rfl⟩
  | _ => exact absurd hc (by simp [Call.keepsNodes])

theorem nodes_perform_of_keeps {c : Call} (hc : c.keepsNodes = true) {s : MemoryStore}
    (h : s.writable = true) : (perform c s).2.graph.nodes = s.graph.nodes := by
  obtain ⟨edges, hedges⟩ := graph_perform_of_keeps hc h
  rw [hedges]

theorem checkName_uid : Statement.checkName .propertyKey Key.uid = .ok () :=
  Statement.checkName_eq_ok_iff.mpr (by decide)

/-- Performing an upsert by `uid`: it is counted, and the graph is that of `Graph.upsert`. -/
theorem perform_upsert {label uid : String} (hlabel : isIdentifier label = true)
    (mode : WriteMode) {properties : Dict Json}
    (huid : (storedProperties properties).find? Key.uid = some (.text uid)) {s : MemoryStore}
    (h : s.writable = true) :
    perform (.upsert mode [label] properties Key.uid) s
      = (.ok (), (s.counting mode).withGraph
          (s.graph.upsert [label] Key.uid (.text uid) (storedProperties properties))) := by
  have hname : Statement.checkName .label label = .ok () :=
    Statement.checkName_eq_ok_iff.mpr hlabel
  have hgraph : (s.counting mode).graph = s.graph := by
    cases mode <;> rfl
  rw [perform_of_writable h]
  simp only [answer, settle, upsert, Statement.upsert, Statement.checkLabels, checkName_uid,
    hname, huid, arrival, hgraph, bind, Except.bind, pure, Except.pure]

theorem graph_perform_upsert {label uid : String} (hlabel : isIdentifier label = true)
    (mode : WriteMode) {properties : Dict Json}
    (huid : (storedProperties properties).find? Key.uid = some (.text uid)) {s : MemoryStore}
    (h : s.writable = true) :
    (perform (.upsert mode [label] properties Key.uid) s).2.graph
      = s.graph.upsert [label] Key.uid (.text uid) (storedProperties properties) := by
  rw [perform_upsert hlabel mode huid h]
  rfl

/-- Performing a deletion by `uid`: the graph is that of `Graph.removeWhere`. -/
theorem perform_delete {label : String} (hlabel : isIdentifier label = true) (uid : String)
    {s : MemoryStore} (h : s.writable = true) :
    perform (.delete label Key.uid uid) s
      = (.ok (), s.withGraph
          (s.graph.removeWhere (·.isMeantBy ⟨label, Key.uid, uid, none⟩))) := by
  have hname : Statement.checkName .label label = .ok () :=
    Statement.checkName_eq_ok_iff.mpr hlabel
  rw [perform_of_writable h]
  simp only [answer, settle, delete, Statement.delete, checkName_uid, hname, bind, Except.bind,
    pure, Except.pure]
  rfl

theorem graph_perform_delete {label : String} (hlabel : isIdentifier label = true)
    (uid : String) {s : MemoryStore} (h : s.writable = true) :
    (perform (.delete label Key.uid uid) s).2.graph
      = s.graph.removeWhere (·.isMeantBy ⟨label, Key.uid, uid, none⟩) := by
  rw [perform_delete hlabel uid h]
  rfl

/-- How a call about objects with `label` changes their entries: by `Call.change`, if the graph is
keyed under this label. -/
theorem propertiesAt_perform {label : String} (hlabel : isIdentifier label = true) {c : Call}
    (hc : c.IsOf label) {s : MemoryStore} (h : s.writable = true)
    (hg : s.graph.KeyedAt label) (uid : String) :
    (perform c s).2.graph.propertiesAt (.ofObject label uid)
      = (c.change uid).apply (s.graph.propertiesAt (.ofObject label uid)) := by
  cases hc with
  | @upsert mode properties value huid =>
      rw [graph_perform_upsert hlabel mode huid h, hg.propertiesAt_upsert huid]
      by_cases hvalue : value = uid
      · subst hvalue
        simp only [Call.change, huid, if_true]
        rfl
      · rw [if_neg fun heq => hvalue (NodeKey.ofObject_inj.mp heq).2.symm]
        simp only [Call.change, huid, Option.some.injEq, PropertyValue.text.injEq, hvalue,
          if_false]
        rfl
  | delete value =>
      rw [graph_perform_delete hlabel value h, hg.propertiesAt_delete]
      by_cases hvalue : value = uid
      · subst hvalue
        simp only [Call.change, if_true]
        rfl
      · rw [if_neg fun heq => hvalue (NodeKey.ofObject_inj.mp heq).2.symm]
        simp only [Call.change, hvalue, if_false]
        rfl
  | keeps hkeeps =>
      rw [Call.change_of_keepsNodes hkeeps,
        Graph.propertiesAt_congr (nodes_perform_of_keeps hkeeps h)]
      rfl

/-- Such a call leaves the properties under every other key as they are. -/
theorem propertiesAt_perform_of_ne {label : String} (hlabel : isIdentifier label = true)
    {c : Call} (hc : c.IsOf label) {s : MemoryStore} (h : s.writable = true)
    (hg : s.graph.KeyedAt label) {κ : NodeKey} (hκ : ∀ uid, κ ≠ .ofObject label uid) :
    (perform c s).2.graph.propertiesAt κ = s.graph.propertiesAt κ := by
  cases hc with
  | @upsert mode properties uid huid =>
      rw [graph_perform_upsert hlabel mode huid h, hg.propertiesAt_upsert huid,
        if_neg (hκ uid)]
  | delete uid =>
      rw [graph_perform_delete hlabel uid h, hg.propertiesAt_delete, if_neg (hκ uid)]
  | keeps hkeeps => exact Graph.propertiesAt_congr (nodes_perform_of_keeps hkeeps h) κ

/-- Such a call leaves the nodes with any `other` label as they are, whether the graph is keyed or
not. -/
theorem propertiesAt_perform_other {label other : String} (hlabel : isIdentifier label = true)
    {c : Call} (hc : c.IsOf label) {s : MemoryStore} (h : s.writable = true)
    (hne : label ≠ other) (uid : Option String) :
    (perform c s).2.graph.propertiesAt ⟨[other], uid⟩ = s.graph.propertiesAt ⟨[other], uid⟩ := by
  cases hc with
  | @upsert mode properties value huid =>
      rw [graph_perform_upsert hlabel mode huid h, Graph.propertiesAt_upsert_of_ne _ _ _ hne]
  | delete value =>
      rw [graph_perform_delete hlabel value h, Graph.propertiesAt_delete_of_ne _ _ hne]
  | keeps hkeeps => exact Graph.propertiesAt_congr (nodes_perform_of_keeps hkeeps h) _

theorem keyedAt_perform {label other : String} (hlabel : isIdentifier label = true) {c : Call}
    (hc : c.IsOf label) {s : MemoryStore} (h : s.writable = true)
    (hg : s.graph.KeyedAt other) : (perform c s).2.graph.KeyedAt other := by
  cases hc with
  | @upsert mode properties uid huid =>
      rw [graph_perform_upsert hlabel mode huid h]
      exact hg.upsert huid
  | delete uid =>
      rw [graph_perform_delete hlabel uid h]
      exact hg.removeWhere _
  | keeps hkeeps => exact hg.congr (nodes_perform_of_keeps hkeeps h).symm

end MemoryStore

/-! ## Plans -/

namespace Plan

variable {α β σ : Type}

/-- Every call of the plan `keepsNodes`. -/
def KeepsNodes (p : Plan α) : Prop :=
  ∀ c, p.Calls c → c.keepsNodes = true

/-- Every call of the plan but the first `keepsNodes`. -/
def ChangesFirst : Plan α → Prop
  | .done _ => True
  | .call _ next => ∀ answer, (next answer).KeepsNodes

/-- The change that the first call of the plan makes to the entry of `uid`. -/
def firstChange (uid : String) : Plan α → NodeChange
  | .done _ => .keep
  | .call c _ => c.change uid

@[simp] theorem not_calls_done {a : α} {c : Call} : ¬(done a).Calls c := by
  intro h
  cases h

theorem keepsNodes_done (a : α) : (done a).KeepsNodes :=
  fun _ h => absurd h not_calls_done

theorem KeepsNodes.next {c : Call} {next : Except StoreError c.Answer → Plan α}
    (h : (call c next).KeepsNodes) (answer : Except StoreError c.Answer) :
    (next answer).KeepsNodes :=
  fun d hd => h d (.later answer hd)

theorem calls_bind {p : Plan α} {f : α → Plan β} {c : Call} (h : (p.bind f).Calls c) :
    p.Calls c ∨ ∃ a, (f a).Calls c := by
  induction p with
  | done a => exact .inr ⟨a, h⟩
  | call d next ih =>
      cases h with
      | here => exact .inl .here
      | later answer h => exact (ih answer h).imp_left (.later answer)

theorem KeepsNodes.bind {p : Plan α} {f : α → Plan β} (hp : p.KeepsNodes)
    (hf : ∀ a, (f a).KeepsNodes) : (p.bind f).KeepsNodes := by
  intro c hc
  rcases calls_bind hc with h | ⟨a, h⟩
  · exact hp c h
  · exact hf a c h

theorem keepsNodes_forEach {f : α → Plan Unit} {items : List α}
    (h : ∀ a ∈ items, (f a).KeepsNodes) : (forEach f items).KeepsNodes := by
  induction items with
  | nil => exact keepsNodes_done ()
  | cons a rest ih =>
      exact (h a (by simp)).bind fun _ => ih fun b hb => h b (List.mem_cons_of_mem _ hb)

/-- Induction over a run: what every call of the plan keeps holds at the end. -/
theorem run_induction {perform : Performer σ} {P : σ → Prop} {p : Plan α}
    (h : ∀ c s, p.Calls c → P s → P (perform c s).2) {s : σ} (hs : P s) :
    P (p.run perform s).2 := by
  induction p generalizing s with
  | done a => exact hs
  | call c next ih =>
      rw [run_call]
      exact ih _ (fun d s hd => h d s (.later _ hd)) (h c s .here hs)

/-- Running a plan that `KeepsNodes` leaves the nodes as they are. -/
theorem KeepsNodes.nodes_run {p : Plan α} (hp : p.KeepsNodes) {s : MemoryStore}
    (h : s.writable = true) :
    (p.run MemoryStore.perform s).2.graph.nodes = s.graph.nodes := by
  have hkeep : ∀ c t, p.Calls c → t.writable = true ∧ t.graph.nodes = s.graph.nodes →
      (MemoryStore.perform c t).2.writable = true
        ∧ (MemoryStore.perform c t).2.graph.nodes = s.graph.nodes := by
    intro c t hc hgiven
    obtain ⟨hwritable, hnodes⟩ := hgiven
    refine ⟨MemoryStore.writable_perform c hwritable, ?_⟩
    rw [MemoryStore.nodes_perform_of_keeps (hp c hc) hwritable, hnodes]
  exact (run_induction hkeep ⟨h, rfl⟩).2

/-- Running a plan about objects with `label` that `ChangesFirst` changes their entries by
`firstChange`. -/
theorem ChangesFirst.propertiesAt_run {label : String} (hlabel : isIdentifier label = true)
    {p : Plan α} (hp : p.ChangesFirst) (hof : ∀ c, p.Calls c → c.IsOf label) {s : MemoryStore}
    (h : s.writable = true) (hg : s.graph.KeyedAt label) (uid : String) :
    (p.run MemoryStore.perform s).2.graph.propertiesAt (.ofObject label uid)
      = (p.firstChange uid).apply (s.graph.propertiesAt (.ofObject label uid)) := by
  cases p with
  | done a => rfl
  | call c next =>
      -- Whatever is answered, the rest of the plan touches no node.
      rw [run_call, Graph.propertiesAt_congr
        ((hp _).nodes_run (MemoryStore.writable_perform c h))]
      exact MemoryStore.propertiesAt_perform hlabel (hof c .here) h hg uid

end Plan

end ClusterGraph
