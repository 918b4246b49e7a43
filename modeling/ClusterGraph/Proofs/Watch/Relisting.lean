import ClusterGraph.Proofs.Dict.Bindings
import ClusterGraph.Proofs.Resource.Identity
import ClusterGraph.Watch.Relist
import Mathlib.Data.Finset.Basic

/-!
# ClusterGraph.Proofs.Watch.Relisting

**What a watch tells and what it remembers stay in step, over any number of listings.**

Whoever follows the notifications knows the same identifiers as the tracker, after every event
(`RelistTracker.foldl_track_run`). What a listing reports as gone is found by comparing two sets
that different events update: the known identifiers, and those applied since the listing began.
Since the latter are a part of what happened after the last `init`, both can be read off the
events after it (`RelistTracker.run_since_init`), whatever came before: earlier listings may have
been completed, interrupted or never begun.
-/

namespace ClusterGraph

/-! ## Events -/

namespace WatchEvent

def object? : WatchEvent → Option ListedObject
  | initApply o | apply o | delete o => some o
  | init | initDone => none

def uid? (e : WatchEvent) : Option String :=
  e.object?.bind ListedObject.uid?

/-- Whether the event is an `initApply` or an `apply`. -/
def isApply : WatchEvent → Bool
  | initApply _ | apply _ => true
  | _ => false

/-- Whether the event is an `init` or an `initDone`. -/
def isBoundary : WatchEvent → Bool
  | init | initDone => true
  | _ => false

/-- The `events` end with an `init` and then `since`, in which there is no other `init` and no
`initDone`. -/
def IsListingSince (events since : List WatchEvent) : Prop :=
  ∃ earlier, events = earlier ++ init :: since ∧ ∀ e ∈ since, e.isBoundary = false

/-- The identifiers of the events that are `isApply`, in the order of the events. -/
def appliedUids (events : List WatchEvent) : List String :=
  (events.filter isApply).filterMap uid?

/-- The last of the `events` whose object has the identifier `uid`. -/
def lastAbout (uid : String) (events : List WatchEvent) : Option WatchEvent :=
  (events.filter fun e => e.uid? = some uid).getLast?

theorem lastAbout_cons (uid : String) (e : WatchEvent) (rest : List WatchEvent) :
    lastAbout uid (e :: rest)
      = (lastAbout uid rest).or (if e.uid? = some uid then some e else none) := by
  unfold lastAbout
  by_cases h : e.uid? = some uid
  · rw [List.filter_cons_of_pos (by simpa using h), List.getLast?_cons, if_pos h]
    cases (rest.filter fun e => e.uid? = some uid).getLast? <;> rfl
  · rw [List.filter_cons_of_neg (by simpa using h), if_neg h, Option.or_none]

theorem mem_of_lastAbout {uid : String} {e : WatchEvent} {events : List WatchEvent}
    (h : lastAbout uid events = some e) : e ∈ events ∧ e.uid? = some uid := by
  have hmem := List.mem_of_getLast? h
  rw [List.mem_filter] at hmem
  exact ⟨hmem.1, of_decide_eq_true hmem.2⟩

theorem mem_appliedUids {uid : String} {events : List WatchEvent} :
    uid ∈ appliedUids events ↔ ∃ e ∈ events, e.isApply = true ∧ e.uid? = some uid := by
  simp [appliedUids, List.mem_filterMap, and_assoc]

theorem exists_lastAbout {uid : String} {events : List WatchEvent}
    (h : uid ∈ appliedUids events) : ∃ e, lastAbout uid events = some e := by
  obtain ⟨e, he, -, huid⟩ := mem_appliedUids.mp h
  refine Option.ne_none_iff_exists'.mp ?_
  unfold lastAbout
  rw [Ne, List.getLast?_eq_none_iff]
  exact List.ne_nil_of_mem (List.mem_filter.mpr ⟨he, decide_eq_true huid⟩)

end WatchEvent

/-! ## Identifiers of what is told -/

namespace ListedObject

theorem uid?_toJson (version kind : String) (o : ListedObject) :
    (RawObject.unstructured (o.toJson version kind)).uid? = o.uid? := by
  have hmeta : (o.toJson version kind).field? "metadata" = some o.metadata := by
    show Dict.find? (Dict.insert _ _ _) "metadata" = _
    rw [Dict.find?_insert, if_pos rfl]
  show ((o.toJson version kind).path? ["metadata", "uid"]).bind Json.text?
    = o.metadata.textAt? "uid"
  rw [Json.path?_cons, hmeta, Option.bind_some, Json.textAt?_eq_field?, Json.path?_cons]
  exact congrArg (Option.bind · Json.text?) (Option.bind_fun_some _)

/-- An object that has a `uid` in its metadata, and no other field. -/
def ofUid (uid : String) : ListedObject :=
  ⟨none, .ofFields [("uid", .text uid)], Dict.empty⟩

/-- The `stub` that the tracker keeps of an object reads back, under `uid?`, the identifier that it
was made with. -/
theorem uid?_stub (version kind uid : String) (o : ListedObject) :
    (RawObject.unstructured (o.stub version kind uid)).uid? = some uid := by
  have hfield : ∀ (fields : List (String × Json)) (key : String),
      (Json.ofFields fields).field? key
        = fields.foldl (fun found b => if b.1 = key then some b.2 else found) none :=
    fun fields key => Dict.find?_foldl_insert fields Dict.empty key
  show ((o.stub version kind uid).path? ["metadata", "uid"]).bind Json.text? = some uid
  unfold stub
  rw [Json.path?_cons, hfield]
  simp [hfield, Json.text?]

end ListedObject

/-- The identifiers that a reader of notifications takes to be there: an `.add` and an `.update`
insert that of their object, a `.delete` erases it, and `.synced` changes nothing. -/
def Notification.track (live : Finset String) : Notification → Finset String
  | .add o | .update o => o.uid?.elim live fun uid => insert uid live
  | .delete o => o.uid?.elim live fun uid => live.erase uid
  | .synced => live

/-- Folding `track` over deletions erases the identifiers of the objects `gone`, and no other. -/
theorem Notification.mem_foldl_track_delete {gone : List RawObject} {live : Finset String}
    {uid : String} : uid ∈ (gone.map Notification.delete).foldl track live
      ↔ uid ∈ live ∧ some uid ∉ gone.map RawObject.uid? := by
  induction gone generalizing live with
  | nil => simp
  | cons o rest ih =>
      rw [List.map_cons, List.foldl_cons, ih, List.map_cons, List.mem_cons, not_or, ← and_assoc]
      refine and_congr_left fun _ => ?_
      show uid ∈ o.uid?.elim live (fun uid => live.erase uid) ↔ _
      cases o.uid? with
      | none => simp
      | some other => simp [and_comm]

namespace RelistTracker

/-! ## One event -/

/-- Invariant of the tracker: `known` is ordered by key, and each stub in it tells the key that it
stands under. -/
structure Remembers (t : RelistTracker) : Prop where
  /-- The keys of `known` are strictly ordered, so an identifier is known once. -/
  ordered : t.known.Ordered
  /-- The `uid?` of a known stub is its key. -/
  named : ∀ entry ∈ t.known.entries, (RawObject.unstructured entry.2).uid? = some entry.1

theorem remembers_start (version kind : String) : (start version kind).Remembers :=
  ⟨Dict.ordered_empty, nofun⟩

variable {t : RelistTracker} {o : ListedObject}

theorem uid?_raw (t : RelistTracker) (o : ListedObject) : (t.raw o).uid? = o.uid? :=
  o.uid?_toJson t.apiVersion t.kind

theorem mem_knownUids_remember {uid : String} :
    uid ∈ (t.remember o).knownUids ↔ o.uid? = some uid ∨ uid ∈ t.knownUids := by
  unfold remember
  cases o.uid? with
  | none => simp
  | some other =>
      show uid ∈ Dict.keys (Dict.insert _ _ _) ↔ _
      rw [Dict.mem_keys_insert, Option.some.injEq]
      rfl

theorem mem_knownUids_forget {uid : String} :
    uid ∈ (t.forget o).knownUids ↔ o.uid? ≠ some uid ∧ uid ∈ t.knownUids := by
  unfold forget
  cases o.uid? with
  | none => simp
  | some other =>
      show uid ∈ Dict.keys (Dict.erase _ _) ↔ _
      rw [Dict.mem_keys_erase, Ne, Ne, Option.some.injEq]
      rfl

theorem Remembers.remember (h : t.Remembers) (o : ListedObject) : (t.remember o).Remembers := by
  unfold RelistTracker.remember
  cases o.uid? with
  | none => exact h
  | some uid =>
      refine ⟨h.ordered.insert _ _, fun entry hentry => ?_⟩
      rcases Dict.mem_insertEntry hentry with rfl | hentry
      · exact o.uid?_stub t.apiVersion t.kind uid
      · exact h.named entry hentry

theorem Remembers.forget (h : t.Remembers) (o : ListedObject) : (t.forget o).Remembers := by
  unfold RelistTracker.forget
  cases o.uid? with
  | none => exact h
  | some uid =>
      exact ⟨h.ordered.erase _, fun entry hentry => h.named entry (List.mem_filter.mp hentry).1⟩

theorem Remembers.complete (h : t.Remembers) : t.complete.2.Remembers := by
  unfold RelistTracker.complete
  cases t.listed with
  | none => exact h
  | some listed =>
      exact ⟨h.ordered.filter _, fun entry hentry => h.named entry (List.mem_filter.mp hentry).1⟩

theorem Remembers.step (h : t.Remembers) (e : WatchEvent) : (t.step e).2.Remembers := by
  cases e with
  | init => exact ⟨h.ordered, h.named⟩
  | initApply o => exact h.remember o
  | apply o => exact h.remember o
  | delete o => exact h.forget o
  | initDone => exact h.complete

/-- Running `step` on an `.initDone` while `listed` is `some listed` tells a `.delete` for each of
the `knownUids` that is not in `listed`, no identifier twice, and then `.synced`; the rest stays
known. -/
theorem step_initDone (h : t.Remembers) {listed : List String} (hlisted : t.listed = some listed) :
    ∃ gone : List RawObject, (t.step .initDone).1 = gone.map Notification.delete ++ [.synced]
      ∧ (∃ uids : List String, gone.map RawObject.uid? = uids.map some ∧ uids.Nodup
        ∧ ∀ uid, uid ∈ uids ↔ uid ∈ t.knownUids ∧ uid ∉ listed)
      ∧ ∀ uid, uid ∈ (t.step .initDone).2.knownUids ↔ uid ∈ t.knownUids ∧ uid ∈ listed := by
  have htold : (t.step .initDone).1
      = (t.missing listed).map (fun entry => .delete (.unstructured entry.2)) ++ [.synced] := by
    simp only [step, complete, hlisted]
  have hknown : (t.step .initDone).2.knownUids
      = (t.known.entries.filter fun entry => listed.contains entry.1).map Prod.fst := by
    simp only [step, complete, hlisted]
    rfl
  refine ⟨(t.missing listed).map fun entry => .unstructured entry.2, ?_,
    ⟨(t.missing listed).map Prod.fst, ?_, ?_, ?_⟩, ?_⟩
  · rw [htold, List.map_map]
    rfl
  · rw [List.map_map, List.map_map]
    exact List.map_congr_left fun entry hentry => h.named entry (List.mem_filter.mp hentry).1
  · exact h.ordered.nodup_keys.sublist (List.filter_sublist.map _)
  · intro uid
    show uid ∈ (t.missing listed).map Prod.fst ↔ uid ∈ t.known.entries.map Prod.fst ∧ _
    unfold missing
    simp only [List.mem_map, List.mem_filter, Bool.not_eq_true', List.contains_eq_mem,
      decide_eq_false_iff_not]
    constructor
    · intro hgiven
      obtain ⟨entry, ⟨hentry, hnot⟩, rfl⟩ := hgiven
      exact ⟨⟨entry, hentry, rfl⟩, hnot⟩
    · intro hgiven
      obtain ⟨⟨entry, hentry, rfl⟩, hnot⟩ := hgiven
      exact ⟨entry, ⟨hentry, hnot⟩, rfl⟩
  · intro uid
    rw [hknown]
    show _ ↔ uid ∈ t.known.entries.map Prod.fst ∧ _
    simp only [List.mem_map, List.mem_filter, List.contains_eq_mem, decide_eq_true_eq]
    constructor
    · intro hgiven
      obtain ⟨entry, ⟨hentry, hlist⟩, rfl⟩ := hgiven
      exact ⟨⟨entry, hentry, rfl⟩, hlist⟩
    · intro hgiven
      obtain ⟨⟨entry, hentry, rfl⟩, hlist⟩ := hgiven
      exact ⟨entry, ⟨hentry, hlist⟩, rfl⟩

/-- Running `step` on an `.initDone` while `listed` is `none` tells `.synced` and leaves the tracker
as it is. -/
theorem step_initDone_of_none (h : t.listed = none) : t.step .initDone = ([.synced], t) := by
  simp only [step, complete, h]
  rfl

/-- Folding `track` over what one `step` tells takes the `knownUids` before it to those after it. -/
theorem foldl_track_step (h : t.Remembers) (e : WatchEvent) :
    (t.step e).1.foldl Notification.track t.knownUids.toFinset
      = (t.step e).2.knownUids.toFinset := by
  have hthere : ∀ o : ListedObject, (t.raw o).uid?.elim t.knownUids.toFinset
      (fun uid => insert uid t.knownUids.toFinset) = (t.remember o).knownUids.toFinset := by
    intro o
    refine Finset.ext fun uid => ?_
    rw [List.mem_toFinset, mem_knownUids_remember, uid?_raw]
    cases o.uid? <;> simp [eq_comm]
  cases e with
  | init => rfl
  | initApply o => exact hthere o
  | apply o => exact hthere o
  | delete o =>
      refine Finset.ext fun uid => ?_
      rw [List.mem_toFinset]
      show uid ∈ (t.raw o).uid?.elim t.knownUids.toFinset
          (fun uid => t.knownUids.toFinset.erase uid) ↔ uid ∈ (t.forget o).knownUids
      rw [mem_knownUids_forget, uid?_raw]
      cases o.uid? <;> simp [eq_comm]
  | initDone =>
      cases hlisted : t.listed with
      | none =>
          rw [step_initDone_of_none hlisted]
          rfl
      | some listed =>
          obtain ⟨gone, htold, ⟨uids, hgone, -, huids⟩, hknown⟩ := step_initDone h hlisted
          refine Finset.ext fun uid => ?_
          rw [htold, List.foldl_append, List.mem_toFinset, hknown]
          show uid ∈ (gone.map Notification.delete).foldl Notification.track _ ↔ _
          rw [Notification.mem_foldl_track_delete, hgone, List.mem_toFinset]
          simp only [List.mem_map, Option.some.injEq, exists_eq_right, huids, not_and, not_not]
          exact and_congr_right fun huid => ⟨fun himp => himp huid, fun hlist _ => hlist⟩

/-- Running `step` on an event between `init` and `initDone`: `listed` gains the identifier of an
apply; whether that of the event is known is settled by `isApply`, and the others stay as they
are. -/
theorem step_while_listing {e : WatchEvent} (he : e.isBoundary = false) {listed : List String}
    (hlisted : t.listed = some listed) :
    ∃ listed', (t.step e).2.listed = some listed'
      ∧ (∀ uid, uid ∈ listed' ↔ uid ∈ listed ∨ (e.isApply = true ∧ e.uid? = some uid))
      ∧ ∀ uid, uid ∈ (t.step e).2.knownUids ↔
          if e.uid? = some uid then e.isApply = true else uid ∈ t.knownUids := by
  have hthere : ∀ o : ListedObject, ∃ listed', (t.remember o).listed = some listed'
      ∧ (∀ uid, uid ∈ listed' ↔ uid ∈ listed ∨ o.uid? = some uid)
      ∧ ∀ uid, uid ∈ (t.remember o).knownUids ↔
          if o.uid? = some uid then True else uid ∈ t.knownUids := by
    intro o
    refine ⟨o.uid?.toList ++ listed, ?_, fun uid => ?_, fun uid => ?_⟩
    · unfold remember
      cases o.uid? with
      | none => exact hlisted
      | some uid =>
          show t.listed.map (uid :: ·) = _
          rw [hlisted]
          rfl
    · rw [List.mem_append, Option.mem_toList, or_comm]
    · rw [mem_knownUids_remember]
      split <;> simp [*]
  cases e with
  | init => cases he
  | initDone => cases he
  | initApply o | apply o =>
      obtain ⟨listed', hlisted', hmem, hknown⟩ := hthere o
      refine ⟨listed', hlisted', fun uid => ?_, fun uid => ?_⟩
      · rw [hmem]
        exact or_congr_right ⟨fun huid => ⟨rfl, huid⟩, And.right⟩
      · exact (hknown uid).trans (by split <;> simp_all [WatchEvent.uid?, WatchEvent.object?,
          WatchEvent.isApply])
  | delete o =>
      refine ⟨listed, ?_, fun uid => ?_, fun uid => ?_⟩
      · show (t.forget o).listed = _
        unfold forget
        cases o.uid? <;> exact hlisted
      · simp [WatchEvent.isApply]
      · show uid ∈ (t.forget o).knownUids ↔ if o.uid? = some uid then false = true else _
        rw [mem_knownUids_forget]
        split <;> simp [*]

/-! ## Many events -/

theorem run_append (t : RelistTracker) (first second : List WatchEvent) :
    t.run (first ++ second)
      = ((t.run first).1 ++ ((t.run first).2.run second).1, ((t.run first).2.run second).2) := by
  induction first generalizing t with
  | nil => rfl
  | cons e rest ih =>
      show ((t.step e).1 :: ((t.step e).2.run (rest ++ second)).1,
        ((t.step e).2.run (rest ++ second)).2) = _
      rw [ih]
      rfl

theorem Remembers.run (h : t.Remembers) (events : List WatchEvent) :
    (t.run events).2.Remembers := by
  induction events generalizing t with
  | nil => exact h
  | cons e rest ih => exact ih (h.step e)

/-- Run lemma over `foldl_track_step`: folding `track` over all that `run` tells takes the
`knownUids` before it to those after it. -/
theorem foldl_track_run (h : t.Remembers) (events : List WatchEvent) :
    (t.run events).1.flatten.foldl Notification.track t.knownUids.toFinset
      = (t.run events).2.knownUids.toFinset := by
  induction events generalizing t with
  | nil => rfl
  | cons e rest ih =>
      show ((t.step e).1 :: ((t.step e).2.run rest).1).flatten.foldl Notification.track _ = _
      rw [List.flatten_cons, List.foldl_append, foldl_track_step h, ih (h.step e)]
      rfl

/-- If `listed` is `some` after a run, it was so before and no event was a boundary, or the events
end in a listing (`IsListingSince`). -/
theorem listing_of_isSome_listed_run (t : RelistTracker) (events : List WatchEvent)
    (h : (t.run events).2.listed.isSome = true) :
    (t.listed.isSome = true ∧ ∀ e ∈ events, e.isBoundary = false)
      ∨ ∃ since, WatchEvent.IsListingSince events since := by
  -- From the front: either a later event begins the listing, or this one does.
  induction events generalizing t with
  | nil => exact .inl ⟨h, nofun⟩
  | cons e rest ih =>
      rcases ih (t.step e).2 h with ⟨hopen, hrest⟩ | ⟨since, earlier, hsplit, hsince⟩
      · cases e with
        | init => exact .inr ⟨rest, [], rfl, hrest⟩
        | initDone =>
            have hnone : (t.step .initDone).2.listed = none := by
              cases hlisted : t.listed with
              | none =>
                  rw [step_initDone_of_none hlisted]
                  exact hlisted
              | some listed => simp only [step, complete, hlisted]
            rw [hnone] at hopen
            cases hopen
        | initApply o | apply o =>
            refine .inl ⟨?_, List.forall_mem_cons.mpr ⟨rfl, hrest⟩⟩
            have hopen : (t.remember o).listed.isSome = true := hopen
            unfold remember at hopen
            cases huid : o.uid? <;> simpa [huid] using hopen
        | delete o =>
            refine .inl ⟨?_, List.forall_mem_cons.mpr ⟨rfl, hrest⟩⟩
            have hopen : (t.forget o).listed.isSome = true := hopen
            unfold forget at hopen
            cases huid : o.uid? <;> simpa [huid] using hopen
      · exact .inr ⟨since, e :: earlier, congrArg (e :: ·) hsplit, hsince⟩

/-- Run lemma over `step_while_listing`: `listed` gains the `appliedUids` of the events, and an
identifier is known if `lastAbout` it was an apply, or as before if no event was about it. -/
theorem run_while_listing {since : List WatchEvent}
    (hsince : ∀ e ∈ since, e.isBoundary = false) {listed : List String}
    (hlisted : t.listed = some listed) :
    ∃ listed', (t.run since).2.listed = some listed'
      ∧ (∀ uid, uid ∈ listed' ↔ uid ∈ listed ∨ uid ∈ WatchEvent.appliedUids since)
      ∧ ∀ uid, uid ∈ (t.run since).2.knownUids ↔
          (WatchEvent.lastAbout uid since).elim (uid ∈ t.knownUids) fun e => e.isApply = true := by
  -- An `init` would empty the listed identifiers and an `initDone` close the listing; neither is
  -- among these events, so both sets only follow what each event says of its own object.
  induction since generalizing t listed with
  | nil => exact ⟨listed, hlisted, by simp [WatchEvent.appliedUids], fun uid => Iff.rfl⟩
  | cons e rest ih =>
      obtain ⟨listed', hlisted', hmem, hknown⟩ :=
        step_while_listing (hsince e (by simp)) hlisted
      obtain ⟨listed'', hlisted'', hmem', hknown'⟩ :=
        ih (fun x hx => hsince x (List.mem_cons_of_mem _ hx)) hlisted'
      refine ⟨listed'', hlisted'', fun uid => ?_, fun uid => ?_⟩
      · rw [hmem', hmem, WatchEvent.mem_appliedUids, WatchEvent.mem_appliedUids,
          List.exists_mem_cons_iff, or_assoc]
      · show uid ∈ ((t.step e).2.run rest).2.knownUids ↔ _
        rw [hknown', WatchEvent.lastAbout_cons]
        cases WatchEvent.lastAbout uid rest with
        | some last => rfl
        | none =>
            rw [Option.none_or, Option.elim_none, hknown]
            split <;> rfl

/-- Corollary of `run_while_listing`, from the `init` on: `listed` are the `appliedUids` of the
events `since`, whatever the tracker was at first. -/
theorem run_since_init {events since : List WatchEvent}
    (h : WatchEvent.IsListingSince events since) (t : RelistTracker) :
    ∃ listed, (t.run events).2.listed = some listed
      ∧ (∀ uid, uid ∈ listed ↔ uid ∈ WatchEvent.appliedUids since)
      ∧ ∀ uid, uid ∈ (t.run events).2.knownUids ∧ uid ∈ listed ↔
          ∃ e, WatchEvent.lastAbout uid since = some e ∧ e.isApply = true := by
  obtain ⟨earlier, rfl, hsince⟩ := h
  -- Whatever was listed before, the last `init` starts from nothing.
  rw [run_append]
  obtain ⟨listed, hlisted, hmem, hknown⟩ :=
    run_while_listing (t := ((t.run earlier).2.step .init).2) hsince rfl
  have hmem : ∀ uid, uid ∈ listed ↔ uid ∈ WatchEvent.appliedUids since :=
    fun uid => (hmem uid).trans (by simp)
  refine ⟨listed, hlisted, hmem, fun uid => ?_⟩
  show uid ∈ (((t.run earlier).2.step .init).2.run since).2.knownUids ∧ _ ↔ _
  rw [hknown, hmem]
  constructor
  · intro hgiven
    obtain ⟨hlast, happlied⟩ := hgiven
    obtain ⟨e, he⟩ := WatchEvent.exists_lastAbout happlied
    rw [he] at hlast
    exact ⟨e, he, hlast⟩
  · intro hgiven
    obtain ⟨e, he, happly⟩ := hgiven
    obtain ⟨hmem, huid⟩ := WatchEvent.mem_of_lastAbout he
    rw [he]
    exact ⟨happly, WatchEvent.mem_appliedUids.mpr ⟨e, hmem, happly, huid⟩⟩

/-- The accounts of a tracker after any `events`. Folding `track` over all that was told gives the
`knownUids`. An `.initDone` that ends a listing tells a `.delete` for each known identifier that is
not among the `appliedUids` since the `init`, each once and before the marker, and keeps those that
were last applied. An `.initDone` that ends none tells `.synced` alone. An object without an
identifier is told and not remembered. -/
theorem run_accounts (version kind : String) (events : List WatchEvent) :
    let told := ((start version kind).run events).1.flatten
    let t := ((start version kind).run events).2
    told.foldl Notification.track ∅ = t.knownUids.toFinset
      ∧ (∀ since, WatchEvent.IsListingSince events since →
          ∃ gone : List RawObject,
            (t.step .initDone).1 = gone.map Notification.delete ++ [.synced]
            ∧ (∃ uids : List String, gone.map RawObject.uid? = uids.map some ∧ uids.Nodup
              ∧ ∀ uid, uid ∈ uids ↔ uid ∈ t.knownUids ∧ uid ∉ WatchEvent.appliedUids since)
            ∧ ∀ uid, uid ∈ (t.step .initDone).2.knownUids ↔
                ∃ e, WatchEvent.lastAbout uid since = some e ∧ e.isApply = true)
      ∧ ((∀ since, ¬WatchEvent.IsListingSince events since) →
          t.step .initDone = ([.synced], t))
      ∧ ∀ o : ListedObject, o.uid? = none →
          t.step (.initApply o) = ([.add (t.raw o)], t)
            ∧ t.step (.apply o) = ([.update (t.raw o)], t)
            ∧ t.step (.delete o) = ([.delete (t.raw o)], t) := by
  intro told t
  have hremembers := (remembers_start version kind).run events
  refine ⟨foldl_track_run (remembers_start version kind) events, ?_, ?_, ?_⟩
  · intro since hsince
    obtain ⟨listed, hlisted, hmem, hknown⟩ := run_since_init hsince (start version kind)
    obtain ⟨gone, htold, ⟨uids, hgone, hnodup, huids⟩, hafter⟩ :=
      step_initDone hremembers hlisted
    refine ⟨gone, htold, ⟨uids, hgone, hnodup, fun uid => ?_⟩, fun uid => ?_⟩
    · rw [huids, hmem]
    · rw [hafter, hknown]
  · intro hnone
    refine step_initDone_of_none (Option.not_isSome_iff_eq_none.mp fun hopen => ?_)
    rcases listing_of_isSome_listed_run _ _ hopen with ⟨hstart, -⟩ | ⟨since, hsince⟩
    · cases hstart
    · exact hnone since hsince
  · intro o huid
    simp [step, remember, forget, huid]

/-- A listing of `a` that is complete, and one of `b` that has no `initDone` yet. -/
def relisted : List WatchEvent :=
  [.init, .initApply (.ofUid "a"), .initDone, .init, .initApply (.ofUid "b")]

/-- Instance of `run_accounts`: after `relisted`, an `.initDone` deletes `a`. -/
theorem run_accounts_relisted :
    ∃ gone : List RawObject,
      (((start "v1" "ConfigMap").run relisted).2.step .initDone).1
        = gone.map Notification.delete ++ [.synced]
      ∧ gone.map RawObject.uid? = [some "a"] := by
  have hsince : WatchEvent.IsListingSince relisted [.initApply (.ofUid "b")] :=
    ⟨[.init, .initApply (.ofUid "a"), .initDone], rfl, by simp [WatchEvent.isBoundary]⟩
  obtain ⟨gone, htold, ⟨uids, hgone, hnodup, huids⟩, -⟩ :=
    (run_accounts "v1" "ConfigMap" relisted).2.1 _ hsince
  have hknown : ((start "v1" "ConfigMap").run relisted).2.knownUids = ["a", "b"] := by
    decide +kernel
  have happlied : WatchEvent.appliedUids [.initApply (.ofUid "b")] = ["b"] := by
    decide +kernel
  have hmem : ∀ uid, uid ∈ uids ↔ uid ∈ ["a"] := by
    intro uid
    rw [huids, hknown, happlied]
    simp only [List.mem_cons, List.not_mem_nil, or_false]
    constructor
    · intro hgiven
      obtain ⟨rfl | rfl, hne⟩ := hgiven
      · rfl
      · exact absurd rfl hne
    · intro heq
      subst heq
      exact ⟨.inl rfl, by decide⟩
  have huids : uids = ["a"] :=
    List.perm_singleton.mp ((List.perm_ext_iff_of_nodup hnodup (List.nodup_singleton _)).mpr hmem)
  exact ⟨gone, htold, by rw [hgone, huids]; rfl⟩

end RelistTracker

end ClusterGraph
