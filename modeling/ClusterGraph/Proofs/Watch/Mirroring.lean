import ClusterGraph.Proofs.Pipeline.Refinement
import ClusterGraph.Proofs.Watch.Relisting

/-!
# ClusterGraph.Proofs.Watch.Mirroring

**The graph shows what the watch takes to be there, and of each object what was said last.**

Three levels have to stay in step: what the tracker knows, what it tells, and what stands in the
store when that has been followed. The first two are compared event by event, whatever the
order of listings and changes (`RelistTracker.Mirrors.step`): what is told of an object with the
event that makes it known writes its node, and the stub that is remembered of it is enough to
have the node deleted. The last two are a matter of the lanes
(`Pipeline.Steps.lastingAt_of_handled`). Both together say what nodes there are in the end
(`Pipeline.Steps.mirrors_watch`).
-/

namespace ClusterGraph

namespace WatchEvent

/-- The object that the event says to be there: that of an `initApply` or of an `apply`. -/
def applied? : WatchEvent → Option ListedObject
  | initApply o | apply o => some o
  | init | initDone | delete _ => none

/-- The last object among `events` that was `applied?` under `uid`. -/
def lastApplied (uid : String) (events : List WatchEvent) : Option ListedObject :=
  ((events.filterMap applied?).filter fun o => o.uid? = some uid).getLast?

theorem lastApplied_concat (uid : String) (events : List WatchEvent) (e : WatchEvent) :
    lastApplied uid (events ++ [e])
      = (e.applied?.filter fun o => o.uid? = some uid).or (lastApplied uid events) := by
  unfold lastApplied
  rw [List.filterMap_append, List.filter_append, List.getLast?_append]
  congr 1
  cases happlied : e.applied? with
  | none => simp [happlied]
  | some o => by_cases huid : o.uid? = some uid <;> simp [happlied, huid, Option.filter]

end WatchEvent

namespace RelistTracker

variable {t : RelistTracker}

/-! ## What is told -/

/-- Nothing that `raw` reads is changed by `step`, so an object is told in the same way before and
after an event. -/
theorem raw_step (t : RelistTracker) (e : WatchEvent) (o : ListedObject) :
    (t.step e).2.raw o = t.raw o := by
  have hremember : ∀ x : ListedObject, (t.remember x).raw o = t.raw o := by
    intro x
    unfold remember
    cases x.uid? <;> rfl
  cases e with
  | init => rfl
  | initApply x | apply x => exact hremember x
  | delete x =>
      show (t.forget x).raw o = _
      unfold forget
      cases x.uid? <;> rfl
  | initDone =>
      show t.complete.2.raw o = _
      unfold complete
      cases t.listed <;> rfl

theorem isOfObject_of_mem_step (h : t.Remembers) (e : WatchEvent) :
    ∀ n ∈ (t.step e).1, n.IsOfObject := by
  have hraw : ∀ o : ListedObject, (t.raw o).IsObject := fun _ => rfl
  intro n hn
  cases e with
  | init => cases hn
  | initApply o | apply o | delete o =>
      rw [List.mem_singleton.mp hn]
      intro raw heq
      cases heq
      exact hraw o
  | initDone =>
      have hstubs : ∀ m ∈ t.complete.1, m.IsOfObject := by
        unfold complete
        cases t.listed with
        | none => simp
        | some listed =>
            intro m hm
            obtain ⟨entry, hentry, rfl⟩ := List.mem_map.mp hm
            intro raw heq
            cases heq
            exact RawObject.isObject_of_uid? (h.named entry (List.mem_filter.mp hentry).1)
      rcases List.mem_append.mp hn with hn | hn
      · exact hstubs n hn
      · rw [List.mem_singleton.mp hn]
        intro raw heq
        cases heq

theorem isOfObject_of_mem_run (h : t.Remembers) (events : List WatchEvent) :
    ∀ n ∈ (t.run events).1.flatten, n.IsOfObject := by
  induction events generalizing t with
  | nil => simp [run]
  | cons e rest ih =>
      show ∀ n ∈ ((t.step e).1 :: ((t.step e).2.run rest).1).flatten, n.IsOfObject
      rw [List.flatten_cons, List.forall_mem_append]
      exact ⟨isOfObject_of_mem_step h e, ih (h.step e)⟩

/-! ## What is shown of it -/

/-- The event can be followed as one of kind `k`. Its object has an identifier, and `convert` reads
what the tracker tells of it where the event is an apply. -/
structure Admits (t : RelistTracker) (k : Kind) (e : WatchEvent) : Prop where
  /-- The object of the event, if it has one, has a `uid?`, and that is not empty. -/
  identified : ∀ o, e.object? = some o → ∃ uid, o.uid? = some uid ∧ uid ≠ ""
  /-- The object of an apply is `.ok` under `convert`, in the form in which `raw` tells it. -/
  readable : ∀ o, e.applied? = some o → ∃ object, (t.raw o).convert k k.name = .ok object

/-- The properties of the nodes under `uid` are `entries uid`. Under each of the `knownUids` there
is one entry, that of the object that was `lastApplied`, and under any other identifier there is
none. -/
structure Mirrors (w : Writer) (k : Kind) (t : RelistTracker) (events : List WatchEvent)
    (entries : String → List Properties) : Prop where
  /-- A known identifier is not empty. -/
  identified : ∀ uid ∈ t.knownUids, uid ≠ ""
  /-- Under a known identifier stand the `storedProperties` of the object that was `lastApplied`
  there, and nothing else. -/
  shown : ∀ uid ∈ t.knownUids, ∃ o object, WatchEvent.lastApplied uid events = some o
    ∧ (t.raw o).convert k k.name = .ok object
    ∧ ∀ now, entries uid = [storedProperties (ObjectOf.fields w.id now uid k object)]
  /-- Under an identifier that is not known stands nothing. -/
  absent : ∀ uid, uid ∉ t.knownUids → entries uid = []

/-- The `entries` after the notifications `told`: each is the `lastingChange` that it makes under
`uid`, and `applyAll` applies them in turn. -/
def entriesAfter (w : Writer) (k : Kind) (told : List Notification)
    (entries : String → List Properties) (uid : String) : List Properties :=
  NodeChange.applyAll (told.map (Notification.lastingChange w k uid)) (entries uid)

theorem mirrors_start (w : Writer) (k : Kind) (version name : String) :
    Mirrors w k (start version name) [] fun _ => [] :=
  ⟨nofun, nofun, fun _ _ => rfl⟩

theorem Admits.step {k : Kind} {e : WatchEvent} (h : t.Admits k e) (earlier : WatchEvent) :
    (t.step earlier).2.Admits k e := by
  refine ⟨h.identified, fun o ho => ?_⟩
  rw [raw_step]
  exact h.readable o ho

variable {w : Writer} {k : Kind} {earlier : List WatchEvent} {entries : String → List Properties}
  {o : ListedObject} {uid : String}

/-- Case of `Mirrors.step` for an apply: `remember` makes the identifier known, and the notification
leaves one entry under it. -/
theorem Mirrors.remember (h : Mirrors w k t earlier entries) (hk : k ≠ .event) {e : WatchEvent}
    (happlied : e.applied? = some o) (huid : o.uid? = some uid) (hne : uid ≠ "")
    {object : ObjectOf k} (hconvert : (t.raw o).convert k k.name = .ok object)
    {n : Notification} (hn : n = .add (t.raw o) ∨ n = .update (t.raw o)) :
    Mirrors w k (t.remember o) (earlier ++ [e]) (entriesAfter w k [n] entries) := by
  have hjson : (t.raw o).IsObject := rfl
  have hobject : (ObjectOf.objectMeta k object).uid = some uid := by
    rw [hjson.uid_of_convert hconvert, uid?_raw, huid]
  have hentry : ∀ now other, entriesAfter w k [n] entries other
      = if uid = other then [storedProperties (ObjectOf.fields w.id now uid k object)]
        else entries other := by
    intro now other
    unfold entriesAfter
    rw [List.map_singleton, NodeChange.applyAll_cons, NodeChange.applyAll_nil,
      Notification.lastingChange_of_convert hk hn hconvert hobject hne now]
    split <;> rfl
  have hlast : ∀ other, WatchEvent.lastApplied other (earlier ++ [e])
      = if uid = other then some o else WatchEvent.lastApplied other earlier := by
    intro other
    rw [WatchEvent.lastApplied_concat, happlied]
    by_cases heq : uid = other <;> simp [Option.filter, huid, heq]
  have hraw : ∀ x, (t.remember o).raw x = t.raw x := raw_step t (.apply o)
  refine ⟨fun other hother => ?_, fun other hother => ?_, fun other hother => ?_⟩
  · rw [mem_knownUids_remember, huid, Option.some.injEq] at hother
    rcases hother with rfl | hother
    · exact hne
    · exact h.identified other hother
  · rw [mem_knownUids_remember, huid, Option.some.injEq] at hother
    rw [hlast]
    by_cases heq : uid = other
    · subst heq
      refine ⟨o, object, if_pos rfl, (hraw o).symm ▸ hconvert, fun now => ?_⟩
      rw [hentry now, if_pos rfl]
    · obtain ⟨x, shown, hx, hread, hshown⟩ := h.shown other (hother.resolve_left heq)
      refine ⟨x, shown, (if_neg heq).trans hx, (hraw x).symm ▸ hread, fun now => ?_⟩
      rw [hentry now, if_neg heq, hshown now]
  · rw [mem_knownUids_remember, huid, Option.some.injEq, not_or] at hother
    rw [hentry ⟨0, 0⟩, if_neg hother.1, h.absent other hother.2]

/-- Case of `Mirrors.step` for a `.delete`: `forget` drops the identifier, and the notification
leaves no entry under it. -/
theorem Mirrors.forget (h : Mirrors w k t earlier entries) (hk : k ≠ .event)
    (huid : o.uid? = some uid) (hne : uid ≠ "") :
    Mirrors w k (t.forget o) (earlier ++ [.delete o])
      (entriesAfter w k [.delete (t.raw o)] entries) := by
  have hentry : ∀ other, entriesAfter w k [.delete (t.raw o)] entries other
      = if uid = other then [] else entries other := by
    intro other
    unfold entriesAfter
    rw [List.map_singleton, NodeChange.applyAll_cons, NodeChange.applyAll_nil,
      Notification.lastingChange_delete hk ((uid?_raw t o).trans huid) hne]
    split <;> rfl
  have hraw : ∀ x, (t.forget o).raw x = t.raw x := raw_step t (.delete o)
  refine ⟨fun other hother => ?_, fun other hother => ?_, fun other hother => ?_⟩
  · exact h.identified other (mem_knownUids_forget.mp hother).2
  · rw [mem_knownUids_forget, huid, Ne, Option.some.injEq] at hother
    obtain ⟨x, shown, hx, hread, hshown⟩ := h.shown other hother.2
    rw [WatchEvent.lastApplied_concat]
    refine ⟨x, shown, hx, (hraw x).symm ▸ hread, fun now => ?_⟩
    rw [hentry, if_neg hother.1, hshown now]
  · rw [mem_knownUids_forget, huid, Ne, Option.some.injEq] at hother
    rw [hentry]
    by_cases heq : uid = other
    · rw [if_pos heq]
    · rw [if_neg heq]
      exact h.absent other fun hknown => hother ⟨heq, hknown⟩

/-- Case of `Mirrors.step` for an `.initDone`: the deletions that `complete` tells take away the
entries of just the identifiers that it drops. -/
theorem Mirrors.complete (h : Mirrors w k t earlier entries) (hk : k ≠ .event)
    (hremembers : t.Remembers) :
    Mirrors w k (t.step .initDone).2 (earlier ++ [.initDone])
      (entriesAfter w k (t.step .initDone).1 entries) := by
  have hlast : ∀ other, WatchEvent.lastApplied other (earlier ++ [.initDone])
      = WatchEvent.lastApplied other earlier := fun other => WatchEvent.lastApplied_concat ..
  have hraw : ∀ x, (t.step .initDone).2.raw x = t.raw x := raw_step t .initDone
  cases hlisted : t.listed with
  | none =>
      rw [step_initDone_of_none hlisted]
      refine ⟨h.identified, fun other hother => ?_, h.absent⟩
      rw [hlast]
      exact h.shown other hother
  | some listed =>
      obtain ⟨gone, htold, ⟨uids, hgone, -, huids⟩, hknown⟩ := step_initDone hremembers hlisted
      -- Stubs say the identifier they are remembered by, so the handler accepts each of them.
      have hidentified : ∀ raw ∈ gone, ∃ uid, raw.uid? = some uid ∧ uid ≠ "" := by
        intro raw hmem
        have huid := List.mem_map_of_mem (f := RawObject.uid?) hmem
        rw [hgone] at huid
        obtain ⟨uid, hmem, huid⟩ := List.mem_map.mp huid
        exact ⟨uid, huid.symm, h.identified uid ((huids uid).mp hmem).1⟩
      have hentry : ∀ other, entriesAfter w k (t.step .initDone).1 entries other
          = if other ∈ uids then [] else entries other := by
        intro other
        unfold entriesAfter
        rw [htold, List.map_append, NodeChange.applyAll_append,
          Notification.applyAll_delete hk hidentified, hgone]
        simp only [List.mem_map, Option.some.injEq, exists_eq_right]
        rfl
      refine ⟨fun other hother => ?_, fun other hother => ?_, fun other hother => ?_⟩
      · exact h.identified other ((hknown other).mp hother).1
      · obtain ⟨hother, hlist⟩ := (hknown other).mp hother
        obtain ⟨x, shown, hx, hread, hshown⟩ := h.shown other hother
        rw [hlast]
        refine ⟨x, shown, hx, (hraw x).symm ▸ hread, fun now => ?_⟩
        rw [hentry, if_neg fun hmem => ((huids other).mp hmem).2 hlist, hshown now]
      · rw [hknown, not_and] at hother
        rw [hentry]
        split
        · rfl
        · rename_i hmem
          refine h.absent other fun hin => ?_
          exact hmem ((huids other).mpr ⟨hin, hother hin⟩)

/-- Step lemma of `Mirrors`: it holds after every event that `Admits` allows. -/
theorem Mirrors.step (h : Mirrors w k t earlier entries) (hk : k ≠ .event)
    (hremembers : t.Remembers) {e : WatchEvent} (he : t.Admits k e) :
    Mirrors w k (t.step e).2 (earlier ++ [e]) (entriesAfter w k (t.step e).1 entries) := by
  cases e with
  | init =>
      refine ⟨h.identified, fun other hother => ?_, h.absent⟩
      rw [WatchEvent.lastApplied_concat]
      exact h.shown other hother
  | initApply o =>
      obtain ⟨uid, huid, hne⟩ := he.identified o rfl
      obtain ⟨object, hconvert⟩ := he.readable o rfl
      exact h.remember hk rfl huid hne hconvert (.inl rfl)
  | apply o =>
      obtain ⟨uid, huid, hne⟩ := he.identified o rfl
      obtain ⟨object, hconvert⟩ := he.readable o rfl
      exact h.remember hk rfl huid hne hconvert (.inr rfl)
  | delete o =>
      obtain ⟨uid, huid, hne⟩ := he.identified o rfl
      exact h.forget hk huid hne
  | initDone => exact h.complete hk hremembers

theorem Mirrors.run (h : Mirrors w k t earlier entries) (hk : k ≠ .event)
    (hremembers : t.Remembers) {events : List WatchEvent} (hevents : ∀ e ∈ events, t.Admits k e) :
    Mirrors w k (t.run events).2 (earlier ++ events)
      (entriesAfter w k (t.run events).1.flatten entries) := by
  -- What was applied before is part of what counts as applied last, so it is generalized too.
  induction events generalizing t earlier entries with
  | nil =>
      rw [List.append_nil]
      exact h
  | cons e rest ih =>
      have hrest := ih (h.step hk hremembers (hevents e (by simp))) (hremembers.step e)
        fun x hx => (hevents x (List.mem_cons_of_mem _ hx)).step e
      rw [List.append_assoc, List.singleton_append] at hrest
      have htold : entriesAfter w k (t.run (e :: rest)).1.flatten entries
          = entriesAfter w k ((t.step e).2.run rest).1.flatten
              (entriesAfter w k (t.step e).1 entries) := by
        funext uid
        show NodeChange.applyAll (((t.step e).1 :: ((t.step e).2.run rest).1).flatten.map _) _ = _
        rw [List.flatten_cons, List.map_append, NodeChange.applyAll_append]
        rfl
      rw [htold]
      exact hrest

/-! ## Nodes -/

/-- Under `Mirrors`, the nodes with the label of `k` carry the `knownUids` as their `uid`, each of
them once, and the properties of the object that was `lastApplied` there. -/
theorem Mirrors.nodes {g : Graph}
    (h : Mirrors w k t earlier fun uid => g.propertiesAt (.ofObject k.name uid))
    (hremembers : t.Remembers) (hkeyed : g.KeyedAt k.name)
    (hnone : g.propertiesAt ⟨[k.name], none⟩ = []) :
    let nodes := g.nodesWhere (·.hasLabel k.name)
    t.knownUids.Nodup ∧ (nodes.map (·.text? Key.uid)).Perm (t.knownUids.map some)
      ∧ ∀ n ∈ nodes, ∃ uid o object, n.text? Key.uid = some uid
        ∧ WatchEvent.lastApplied uid earlier = some o
        ∧ (t.raw o).convert k k.name = .ok object
        ∧ ∀ now, n.properties = storedProperties (ObjectOf.fields w.id now uid k object) := by
  intro nodes
  have hnodup : t.knownUids.Nodup := hremembers.ordered.nodup_keys
  -- Without an identifier a node would stand under a key that is empty.
  have hkey : ∀ n ∈ nodes, ∃ uid, n.text? Key.uid = some uid ∧ n.key = .ofObject k.name uid := by
    intro n hn
    obtain ⟨hn, hlabel⟩ := List.mem_filter.mp hn
    cases huid : n.text? Key.uid with
    | some uid => exact ⟨uid, rfl, hkeyed.key_eq hn hlabel huid⟩
    | none =>
        have hmem := Graph.mem_propertiesAt hn
        rw [Node.key, hkeyed.single n hn hlabel, huid, hnone] at hmem
        cases hmem
  refine ⟨hnodup, List.perm_iff_count.mpr fun x => ?_, fun n hn => ?_⟩
  · cases x with
    | none =>
        rw [List.count_eq_zero_of_not_mem, List.count_eq_zero_of_not_mem]
        · simp
        · intro hmem
          obtain ⟨n, hn, hnone⟩ := List.mem_map.mp hmem
          obtain ⟨uid, huid, -⟩ := hkey n hn
          rw [huid] at hnone
          cases hnone
    | some uid =>
        rw [hkeyed.count_uid, List.count_map_of_injective _ _ (Option.some_injective _)]
        by_cases huid : uid ∈ t.knownUids
        · obtain ⟨o, object, -, -, hshown⟩ := h.shown uid huid
          rw [hshown ⟨0, 0⟩, List.count_eq_one_of_mem hnodup huid]
          rfl
        · rw [h.absent uid huid, List.count_eq_zero_of_not_mem huid]
          rfl
  · obtain ⟨uid, huid, hkey⟩ := hkey n hn
    have hmem := Graph.mem_propertiesAt (List.mem_filter.mp hn).1
    rw [hkey] at hmem
    by_cases hknown : uid ∈ t.knownUids
    · obtain ⟨o, object, hlast, hread, hshown⟩ := h.shown uid hknown
      refine ⟨uid, o, object, huid, hlast, hread, fun now => ?_⟩
      rw [hshown now] at hmem
      exact List.mem_singleton.mp hmem
    · rw [h.absent uid hknown] at hmem
      cases hmem

end RelistTracker

namespace Pipeline

variable {w : Writer} {buffer lanes : Nat} {sources : List Source} {s : Shared MemoryStore}
  {q : Pipeline MemoryStore} {seen : List Observation}

/-- Dropping the markers from what is told, as `work?` does, gives the same under `applyAll`. -/
theorem applyAll_filterMap_work? (w : Writer) (k : Kind) (uid : String)
    (told : List Notification) (found : List Properties) :
    NodeChange.applyAll ((told.filterMap fun n => (StreamItem.notify n).work?).map
        (Notification.lastingChange w k uid)) found
      = NodeChange.applyAll (told.map (Notification.lastingChange w k uid)) found := by
  induction told generalizing found with
  | nil => rfl
  | cons n rest ih =>
      cases n with
      | synced => exact ih found
      | add raw | update raw | delete raw => exact ih _

/-- A watch is mirrored. Let `source` be fed with what a tracker tells of `events`, each of which
`Admits` allows, and let no node have the label of its kind at the start. In every run `Steps` of
the pipeline after which the source `IsHandled`, the nodes of that label carry the `knownUids` of
the tracker, one node each, and the properties of the object that was `lastApplied` under it. -/
theorem Steps.mirrors_watch (hdistinct : (sources.map Source.kind).Nodup)
    (hwritable : s.store.writable = true) {source : Source} (hsource : source ∈ sources)
    (hkind : source.kind ≠ .event)
    (hnone : ∀ n ∈ s.store.graph.nodes, n.hasLabel source.kind.name = false)
    {version name : String} {events : List WatchEvent}
    (hadmits : ∀ e ∈ events, (RelistTracker.start version name).Admits source.kind e)
    (hwork : source.work = ((RelistTracker.start version name).run events).1.flatten.filterMap
      fun n => (StreamItem.notify n).work?)
    (h : Steps (.inMemory w buffer lanes) (ofSources s sources) seen q)
    (hhandled : source.IsHandled seen) :
    let t := ((RelistTracker.start version name).run events).2
    let nodes := q.shared.store.graph.nodesWhere (·.hasLabel source.kind.name)
    t.knownUids.Nodup ∧ (nodes.map (·.text? Key.uid)).Perm (t.knownUids.map some)
      ∧ ∀ n ∈ nodes, ∃ uid o object, n.text? Key.uid = some uid
        ∧ WatchEvent.lastApplied uid events = some o
        ∧ (t.raw o).convert source.kind source.kind.name = .ok object
        ∧ ∀ now, n.properties
          = storedProperties (ObjectOf.fields w.id now uid source.kind object) := by
  have hstart := RelistTracker.remembers_start version name
  have hreceptive : Receptive (· = source.kind) s.store := by
    refine ⟨hwritable, ?_⟩
    intro k heq
    subst heq
    exact Graph.keyedAt_of_unlabelled hnone
  have hapart : Apart (· = source.kind) (sources.map Source.kind) s.store.graph q.shared.store :=
    h.apart hdistinct hreceptive
  have hobjects : ∀ n ∈ source.work, n.IsOfObject := by
    rw [hwork]
    intro n hn
    obtain ⟨m, hm, hmn⟩ := List.mem_filterMap.mp hn
    have hsame : m = n := by
      cases m <;> cases hmn <;> rfl
    exact hsame ▸ RelistTracker.isOfObject_of_mem_run hstart events m hm
  have hentries : ∀ uid, q.shared.store.graph.propertiesAt (.ofObject source.kind.name uid)
      = RelistTracker.entriesAfter w source.kind
          ((RelistTracker.start version name).run events).1.flatten (fun _ => []) uid := by
    intro uid
    have hbefore : s.store.graph.propertiesAt (.ofObject source.kind.name uid) = [] :=
      Graph.propertiesAt_of_unlabelled hnone (some uid)
    have hlasting := h.lastingAt_of_handled hdistinct hreceptive hsource rfl hobjects hhandled uid
    rw [Notification.lastingAt_of_ne_event hkind, Notification.lastingAt_of_ne_event hkind,
      hbefore, hwork, applyAll_filterMap_work?] at hlasting
    exact hlasting
  have hmirrors := (RelistTracker.mirrors_start w source.kind version name).run hkind hstart hadmits
  rw [List.nil_append, ← funext hentries] at hmirrors
  refine hmirrors.nodes (hstart.run events) (hapart.receptive.keyed _ rfl) ?_
  -- Nobody has any business with nodes of the label that have no identifier.
  rw [hapart.same, Graph.propertiesAt_of_unlabelled hnone]
  intro k _
  by_cases hk : k = source.kind
  · exact .inr ⟨hk, fun uid heq => by simp [NodeKey.ofObject] at heq⟩
  · exact .inl ⟨source.kind.name, none, rfl, fun heq => hk (Kind.name_injective heq)⟩

/-- A first `.init` with object `a` that no `.initDone` ends, and then a whole listing of `b`. -/
def interrupted : List WatchEvent :=
  [.init, .initApply (.ofUid "a"), .init, .initApply (.ofUid "b"), .initDone]

/-- The source of `ConfigMap`s, fed with what a tracker tells of `interrupted`. -/
def interruptedMaps : Source :=
  ⟨.configMap, 0,
    (((RelistTracker.start "v1" "ConfigMap").run interrupted).1.flatten.map StreamItem.notify)⟩

/-- Instance of `Steps.mirrors_watch`: after `interruptedMaps`, only `b` has a node. -/
theorem mirrors_watch_interrupted :
    ∃ (seen : List Observation) (q : Pipeline MemoryStore),
      Steps (.inMemory ⟨⟨"cluster", "hash"⟩, OwnerKinds.empty⟩ 1 0)
        (ofSources atFirst [interruptedMaps]) seen q
      ∧ interruptedMaps.IsHandled seen
      ∧ ((q.shared.store.graph.nodesWhere (·.hasLabel Kind.configMap.name)).map
          (·.text? Key.uid)).Perm [some "b"] := by
  have hrun : (replay (.inMemory ⟨⟨"cluster", "hash"⟩, OwnerKinds.empty⟩ 1 0)
      [.act (.consumer 0 .read), .act (.consumer 0 .send),
        .act (.consumer 0 (.lane 0 .take)), .act (.consumer 0 .read),
        .act (.consumer 0 .send), .act (.consumer 0 (.lane 0 .call)),
        .act (.consumer 0 (.lane 0 .finish)), .act (.consumer 0 (.lane 0 .take)),
        .act (.consumer 0 (.lane 0 .call)), .act (.consumer 0 (.lane 0 .finish)),
        .act (.consumer 0 .read), .act (.consumer 0 .send), .act (.consumer 0 .read),
        .act (.consumer 0 (.lane 0 .take)), .act (.consumer 0 (.lane 0 .call)),
        .act (.consumer 0 (.lane 0 .finish))]
      (ofSources atFirst [interruptedMaps])).any (fun r =>
          decide (r.2.shared.cancelled = false ∧ ∀ c ∈ r.2.consumers, c.IsDrained)) = true := by
    decide +kernel
  obtain ⟨⟨seen, q⟩, hreplay, hend⟩ := (Option.any_eq_true _ _).mp hrun
  obtain ⟨hlive, hdrained⟩ := of_decide_eq_true hend
  have h := steps_of_replay hreplay
  have hmem : interruptedMaps ∈ [interruptedMaps] := List.mem_singleton_self _
  have hhandled : interruptedMaps.IsHandled seen :=
    h.isHandled_of_drained (by simp) rfl hlive hmem fun c hc _ => hdrained c hc
  have hadmits : ∀ e ∈ interrupted,
      (RelistTracker.start "v1" "ConfigMap").Admits .configMap e := by
    have hmap : ∀ uid, uid = "a" ∨ uid = "b" → (RelistTracker.start "v1" "ConfigMap").Admits
        .configMap (.initApply (.ofUid uid)) := by
      rintro uid (rfl | rfl) <;>
        exact ⟨by rintro o ⟨⟩; exact ⟨_, rfl, by decide⟩, by rintro o ⟨⟩; exact ⟨_, rfl⟩⟩
    simp only [interrupted, List.forall_mem_cons]
    exact ⟨⟨nofun, nofun⟩, hmap "a" (.inl rfl), ⟨nofun, nofun⟩, hmap "b" (.inr rfl),
      ⟨nofun, nofun⟩, nofun⟩
  have hnone : ∀ n ∈ atFirst.store.graph.nodes, n.hasLabel Kind.configMap.name = false := by
    intro n hn
    cases hn
  refine ⟨seen, q, h, hhandled, ?_⟩
  exact (h.mirrors_watch (by simp) rfl hmem (by decide) hnone hadmits rfl hhandled).2.1

end Pipeline
end ClusterGraph
