import ClusterGraph.Proofs.Pipeline.Run

/-!
# ClusterGraph.Proofs.Pipeline.Accounting

**Nothing is lost, repeated or overtaken on a lane, as long as the run is not cancelled.**

Of the notifications that belong to a lane, those that were read are those that a worker began
with, then those that wait, then the one that the consumer has in hand; and those that were
begun are those that are done, then the one that the worker is at (`Consumer.Accounts`). Both
are equations between lists, so they tell about order as well as number.

The equations end with cancellation: a worker may then drop what it is at, and the consumer
what it has in hand. What remains is that each lane has done its work in the order in which it
was read (`Consumer.InOrder`).
-/

namespace ClusterGraph

/-! ## What a lane holds -/

/-- The notifications of `ns` that `laneFor` sends to lane `i` of `lanes`, in their order. -/
def onLane (lanes i : Nat) (ns : List Notification) : List Notification :=
  ns.filter fun n => laneFor n.uid? lanes = i

@[simp] theorem onLane_nil (lanes i : Nat) : onLane lanes i [] = [] :=
  rfl

@[simp] theorem onLane_append (lanes i : Nat) (first second : List Notification) :
    onLane lanes i (first ++ second) = onLane lanes i first ++ onLane lanes i second :=
  List.filter_append ..

theorem onLane_singleton (lanes i : Nat) (n : Notification) :
    onLane lanes i [n] = if laneFor n.uid? lanes = i then [n] else [] := by
  unfold onLane
  by_cases h : laneFor n.uid? lanes = i
  · rw [if_pos h, List.filter_cons_of_pos (by simpa using h), List.filter_nil]
  · rw [if_neg h, List.filter_cons_of_neg (by simpa using h), List.filter_nil]

theorem mem_onLane {lanes i : Nat} {ns : List Notification} {n : Notification} :
    n ∈ onLane lanes i ns ↔ n ∈ ns ∧ laneFor n.uid? lanes = i := by
  simp [onLane]

theorem onLane_mono {first second : List Notification} (h : first <+: second) (lanes i : Nat) :
    onLane lanes i first <+: onLane lanes i second :=
  h.filter _

/-- As `laneFor` counts at least one lane, `lanes` and `max lanes 1` give the same lists. -/
theorem onLane_max (lanes i : Nat) (ns : List Notification) :
    onLane (max lanes 1) i ns = onLane lanes i ns := by
  have hmax : max (max lanes 1) 1 = max lanes 1 := by omega
  unfold onLane laneFor
  rw [hmax]

theorem onLane_of_le {lanes i : Nat} (h : ¬i < max lanes 1) (ns : List Notification) :
    onLane lanes i ns = [] := by
  refine List.filter_eq_nil_iff.mpr fun n _ heq => h ?_
  rw [← of_decide_eq_true heq]
  exact laneFor_lt n.uid? lanes

/-- All notifications about `uid` are on the lane of `uid`. -/
theorem filter_uid_onLane (lanes : Nat) (uid : Option String) (ns : List Notification) :
    ((onLane lanes (laneFor uid lanes) ns).filter fun n => n.uid? = uid)
      = ns.filter fun n => n.uid? = uid := by
  unfold onLane
  rw [List.filter_filter]
  refine List.filter_congr fun n _ => ?_
  by_cases huid : n.uid? = uid <;> simp [huid]

/-- Two lists that agree on the lane of `uid` have the same notifications about `uid`, in the same
order. -/
theorem filter_uid_of_onLane {lanes : Nat} {uid : Option String} {first second : List Notification}
    (h : onLane lanes (laneFor uid lanes) first = onLane lanes (laneFor uid lanes) second) :
    (first.filter fun n => n.uid? = uid) = second.filter fun n => n.uid? = uid := by
  rw [← filter_uid_onLane lanes uid first, ← filter_uid_onLane lanes uid second, h]

theorem filter_uid_mono {lanes : Nat} {uid : Option String} {first second : List Notification}
    (h : onLane lanes (laneFor uid lanes) first <+: onLane lanes (laneFor uid lanes) second) :
    (first.filter fun n => n.uid? = uid) <+: second.filter fun n => n.uid? = uid := by
  rw [← filter_uid_onLane lanes uid first, ← filter_uid_onLane lanes uid second]
  exact h.filter _

/-- Each notification is on one lane, so two lists that agree on every lane are permutations of one
another. -/
theorem perm_of_onLane {lanes : Nat} {first second : List Notification}
    (h : ∀ i < max lanes 1, onLane lanes i first = onLane lanes i second) :
    first.Perm second := by
  classical
  -- A notification occurs on its own lane as often as anywhere.
  rw [List.perm_iff_count]
  intro n
  have hcount : ∀ ns : List Notification,
      (onLane lanes (laneFor n.uid? lanes) ns).count n = ns.count n := by
    intro ns
    unfold onLane
    exact List.count_filter (by simp)
  rw [← hcount first, ← hcount second, h _ (laneFor_lt n.uid? lanes)]

/-- The notification of a message; a flush has none. -/
@[simp] def LaneMessage.work? : LaneMessage → Option Notification
  | handle n => some n
  | flush => none

namespace Lane

/-- The notifications in the `queue`, the oldest first. -/
def waiting (l : Lane) : List Notification :=
  l.queue.filterMap LaneMessage.work?

/-- The notification that the worker is `handling`, as a list of one or none. -/
def current (l : Lane) : List Notification :=
  match l.worker with
  | .handling n _ => [n]
  | _ => []

@[simp] theorem waiting_send (l : Lane) (m : LaneMessage) :
    (l.send m).waiting = l.waiting ++ m.work?.toList := by
  unfold waiting send
  rw [List.filterMap_append]
  cases m <;> rfl

@[simp] theorem waiting_sendFlush (l : Lane) : l.sendFlush.waiting = l.waiting := by
  show (l.send .flush).waiting = l.waiting
  rw [waiting_send]
  exact List.append_nil _

theorem waiting_of_queue_handle {l : Lane} {n : Notification} {rest : List LaneMessage}
    (h : l.queue = .handle n :: rest) : l.waiting = n :: rest.filterMap LaneMessage.work? := by
  unfold waiting
  rw [h]
  rfl

theorem waiting_of_queue_flush {l : Lane} {rest : List LaneMessage} (h : l.queue = .flush :: rest) :
    l.waiting = rest.filterMap LaneMessage.work? := by
  unfold waiting
  rw [h]
  rfl

theorem current_of_handling {l : Lane} {n : Notification} {rest : Plan (Except SyncError Unit)}
    (h : l.worker = .handling n rest) : l.current = [n] := by
  unfold current
  rw [h]

theorem current_of_idle {l : Lane} (h : l.worker = .idle) : l.current = [] := by
  unfold current
  rw [h]

end Lane

/-- What stands at `j` after `items.set i a`: the new item if `j` is `i`, and the old one
otherwise. -/
theorem getElem?_set_cases {α : Type} {items : List α} {i j : Nat} {a b : α}
    (h : (items.set i a)[j]? = some b) : (j = i ∧ b = a) ∨ (j ≠ i ∧ items[j]? = some b) := by
  rw [List.getElem?_set] at h
  by_cases hij : i = j
  · subst hij
    rw [if_pos rfl] at h
    split at h
    · exact .inl ⟨rfl, (Option.some.inj h).symm⟩
    · cases h
  · rw [if_neg hij] at h
    exact .inr ⟨Ne.symm hij, h⟩

namespace Consumer

/-- The notification that the consumer is `sending` to lane `i`, as a list of one or none. -/
def inHand (c : Consumer) (i : Nat) : List Notification :=
  match c.phase with
  | .sending n j => if j = i then [n] else []
  | _ => []

theorem inHand_of_not_sending {c : Consumer} (h : ∀ n j, c.phase ≠ .sending n j) (i : Nat) :
    c.inHand i = [] := by
  unfold inHand
  split
  · rename_i n j hsending
    exact absurd hsending (h n j)
  · rfl

/-! ## The accounts -/

/-- Invariant of a run that is not cancelled: where the notifications are that a consumer has read.
For each lane, `begun` and `read` are equations between lists, so they say that none is lost,
repeated or overtaken. -/
structure Accounts (c : Consumer) (own : List Observation) : Prop where
  /-- There is a lane. -/
  lanes : c.lanes ≠ []
  /-- A notification that the consumer is `sending` goes to the lane of its `uid?`. -/
  addressed : ∀ n i, c.phase = .sending n i → laneFor n.uid? c.lanes.length = i
  /-- On each lane, `workBegun` is `workDone` and then what the worker is at. -/
  begun : ∀ i l, c.lanes[i]? = some l →
    onLane c.lanes.length i (workBegun own) = onLane c.lanes.length i (workDone own) ++ l.current
  /-- On each lane, `workRead` is `workBegun`, then what waits in the `queue`, then what the
  consumer has in hand. -/
  read : ∀ i l, c.lanes[i]? = some l →
    onLane c.lanes.length i (workRead own)
      = onLane c.lanes.length i (workBegun own) ++ l.waiting ++ c.inHand i
  /-- No worker has stopped before the consumer `isClosed`. -/
  running : c.isClosed = false → ∀ l ∈ c.lanes, l.worker.isStopped = false

theorem accounts_start (k : Kind) (lanes : Nat) {own : List Observation}
    (hread : workRead own = []) (hbegun : workBegun own = []) (hdone : workDone own = []) :
    (start k lanes).Accounts own := by
  have hlane : ∀ (i : Nat) (l : Lane), (start k lanes).lanes[i]? = some l → l = Lane.start :=
    fun i l h => List.eq_of_mem_replicate (List.mem_of_getElem? h)
  refine ⟨?_, ?_, ?_, ?_, ?_⟩
  · intro h
    have hlength := congrArg List.length h
    simp only [start, List.length_replicate, List.length_nil] at hlength
    omega
  · intro n i h
    rw [show (start k lanes).phase = .reading from rfl] at h
    cases h
  · intro i l h
    rw [hbegun, hdone, hlane i l h]
    rfl
  · intro i l h
    rw [hread, hbegun, hlane i l h]
    rfl
  · intro _ l h
    rw [List.eq_of_mem_replicate h]
    rfl

/-- Invariant of every run, cancelled or not: each lane does what was read for it in the order in
which it was read. After cancellation this is all that is left of `Accounts`. -/
structure InOrder (c : Consumer) (own : List Observation) : Prop where
  /-- There is a lane. -/
  lanes : c.lanes ≠ []
  /-- On each lane, `workDone` and then what the worker is at are a prefix of `workRead`. -/
  done : ∀ i l, c.lanes[i]? = some l →
    onLane c.lanes.length i (workDone own) ++ l.current <+: onLane c.lanes.length i (workRead own)

section

variable {c : Consumer} {own : List Observation} {i : Nat} {l : Lane}

namespace InOrder

theorem laneFor_lt_length (h : c.InOrder own) (uid : Option String) :
    laneFor uid c.lanes.length < c.lanes.length := by
  have hpos : 0 < c.lanes.length := List.length_pos_iff.mpr h.lanes
  have hlt := laneFor_lt uid c.lanes.length
  omega

/-- The notification that the worker of lane `i` is at was read, and belongs to lane `i`. -/
theorem mem_workRead_of_mem_current (h : c.InOrder own) (hlane : c.lanes[i]? = some l)
    {n : Notification} (hn : n ∈ l.current) :
    n ∈ workRead own ∧ laneFor n.uid? c.lanes.length = i :=
  mem_onLane.mp ((h.done i l hlane).subset (List.mem_append_right _ hn))

theorem move (h : c.InOrder own) {d : Consumer} (hlanes : d.lanes = c.lanes)
    {more : List Observation} (hdone : workDone more = []) : d.InOrder (own ++ more) := by
  refine ⟨hlanes ▸ h.lanes, ?_⟩
  rw [hlanes, workDone_append, workRead_append, hdone, List.append_nil]
  intro i l hlane
  rw [onLane_append]
  exact (h.done i l hlane).trans (List.prefix_append _ _)

theorem setLane (h : c.InOrder own) {d : Consumer} {l' : Lane} (hset : d.lanes = c.lanes.set i l')
    {more : List Observation} (hread : workRead more = [])
    (hother : ∀ j, j ≠ i → onLane c.lanes.length j (workDone more) = [])
    (hdone : onLane c.lanes.length i (workDone (own ++ more)) ++ l'.current
      <+: onLane c.lanes.length i (workRead own)) : d.InOrder (own ++ more) := by
  have hlength : d.lanes.length = c.lanes.length := by
    rw [hset, List.length_set]
  refine ⟨fun hnil => h.lanes ?_, ?_⟩
  · rw [hnil] at hlength
    exact List.length_eq_zero_iff.mp hlength.symm
  · rw [hlength, workRead_append, hread, List.append_nil, hset]
    intro j m hm
    rcases getElem?_set_cases hm with ⟨rfl, rfl⟩ | ⟨hj, hm⟩
    · exact hdone
    · rw [workDone_append, onLane_append, hother j hj, List.append_nil]
      exact h.done j m hm

end InOrder

namespace Accounts

theorem inOrder (h : c.Accounts own) : c.InOrder own := by
  refine ⟨h.lanes, fun i l hlane => ?_⟩
  rw [h.read i l hlane, h.begun i l hlane, List.append_assoc _ l.waiting]
  exact List.prefix_append _ _

theorem laneFor_of_mem_waiting (h : c.Accounts own) (hlane : c.lanes[i]? = some l)
    {n : Notification} (hn : n ∈ l.waiting) : laneFor n.uid? c.lanes.length = i := by
  have hmem : n ∈ onLane c.lanes.length i (workRead own) := by
    rw [h.read i l hlane]
    simp [hn]
  exact (mem_onLane.mp hmem).2

/-- The invariant is kept if the consumer moves on (`phase` and `arrived` change) and what is read
goes to its hand (`hhand`). -/
theorem move (h : c.Accounts own) {phase : ConsumerPhase} {arrived : List StreamItem}
    {more : List Observation} (hbegun : workBegun more = []) (hdone : workDone more = [])
    (haddressed : ∀ n i, phase = .sending n i → laneFor n.uid? c.lanes.length = i)
    (hhand : ∀ i, c.inHand i ++ onLane c.lanes.length i (workRead more)
      = ({ c with phase, arrived } : Consumer).inHand i)
    (hclosed : ({ c with phase, arrived } : Consumer).isClosed = false → c.isClosed = false) :
    ({ c with phase, arrived } : Consumer).Accounts (own ++ more) := by
  refine ⟨h.lanes, haddressed, ?_, ?_, fun hopen => h.running (hclosed hopen)⟩
  · intro i l hlane
    rw [workBegun_append, workDone_append, hbegun, hdone, List.append_nil, List.append_nil]
    exact h.begun i l hlane
  · intro i l hlane
    show onLane c.lanes.length i _ = onLane c.lanes.length i _ ++ _ ++ _
    rw [workRead_append, workBegun_append, hbegun, List.append_nil, onLane_append, ← hhand,
      h.read i l hlane, ← List.append_assoc]

/-- The invariant is kept if lane `i` becomes `l'` and its two equations hold of `l'`. -/
theorem setLane (h : c.Accounts own) {l' : Lane} {more : List Observation}
    (hread : workRead more = [])
    (hother : ∀ j, j ≠ i → onLane c.lanes.length j (workBegun more) = []
      ∧ onLane c.lanes.length j (workDone more) = [])
    (hbegun : onLane c.lanes.length i (workBegun (own ++ more))
      = onLane c.lanes.length i (workDone (own ++ more)) ++ l'.current)
    (hqueued : onLane c.lanes.length i (workRead own)
      = onLane c.lanes.length i (workBegun (own ++ more)) ++ l'.waiting ++ c.inHand i)
    (hrunning : c.isClosed = false → l'.worker.isStopped = false) :
    (c.setLane i l').Accounts (own ++ more) := by
  have hlength : (c.setLane i l').lanes.length = c.lanes.length := List.length_set
  refine ⟨?_, ?_, ?_, ?_, ?_⟩
  · intro hnil
    rw [hnil] at hlength
    exact h.lanes (List.length_eq_zero_iff.mp hlength.symm)
  · rw [hlength]
    exact h.addressed
  · rw [hlength]
    intro j m hm
    rcases getElem?_set_cases hm with ⟨rfl, rfl⟩ | ⟨hj, hm⟩
    · exact hbegun
    · rw [workBegun_append, workDone_append, onLane_append, onLane_append, (hother j hj).1,
        (hother j hj).2, List.append_nil, List.append_nil]
      exact h.begun j m hm
  · rw [hlength, workRead_append, hread, List.append_nil]
    intro j m hm
    rcases getElem?_set_cases hm with ⟨rfl, rfl⟩ | ⟨hj, hm⟩
    · exact hqueued
    · rw [workBegun_append, onLane_append, (hother j hj).1, List.append_nil]
      exact h.read j m hm
  · intro hopen m hm
    rcases List.mem_or_eq_of_mem_set hm with hm | rfl
    · exact h.running hopen m hm
    · exact hrunning hopen

/-- The invariant is about the lanes and the phase alone, so it is kept when items arrive. -/
theorem congr (h : c.Accounts own) {d : Consumer} (hlanes : d.lanes = c.lanes)
    (hphase : d.phase = c.phase) : d.Accounts own := by
  obtain ⟨kind, arrived, ended, phase, lanes⟩ := d
  cases hlanes
  cases hphase
  exact ⟨h.lanes, h.addressed, h.begun, h.read, h.running⟩

/-- The invariant is kept if a message goes from the hand of the consumer to the end of lane `i`; a
flush comes from an empty hand. -/
theorem put (h : c.Accounts own) {l' : Lane} {phase : ConsumerPhase} (m : LaneMessage)
    (hopen : c.isClosed = false) (hlane : c.lanes[i]? = some l)
    (hhand : ∀ j, c.inHand j = if i = j then m.work?.toList else [])
    (hwaiting : l'.waiting = l.waiting ++ m.work?.toList) (hworker : l'.worker = l.worker)
    (hphase : ∀ n j, phase ≠ .sending n j) :
    ({ c with lanes := c.lanes.set i l', phase } : Consumer).Accounts own := by
  have hempty : ∀ j, ({ c with lanes := c.lanes.set i l', phase } : Consumer).inHand j = [] :=
    inHand_of_not_sending hphase
  have hcurrent : l'.current = l.current := by
    unfold Lane.current
    rw [hworker]
  refine ⟨?_, fun n j hsending => absurd hsending (hphase n j), ?_, ?_, ?_⟩
  · intro hnil
    exact h.lanes (List.length_eq_zero_iff.mp (by simpa using congrArg List.length hnil))
  · intro j k hk
    show onLane (c.lanes.set i _).length j _ = onLane (c.lanes.set i _).length j _ ++ _
    rw [List.length_set]
    rcases getElem?_set_cases hk with ⟨rfl, rfl⟩ | ⟨hj, hk⟩
    · rw [hcurrent]
      exact h.begun j l hlane
    · exact h.begun j k hk
  · intro j k hk
    rw [hempty, List.append_nil]
    show onLane (c.lanes.set i _).length j _ = onLane (c.lanes.set i _).length j _ ++ _
    rw [List.length_set]
    rcases getElem?_set_cases hk with ⟨rfl, rfl⟩ | ⟨hj, hk⟩
    · rw [h.read j l hlane, hhand, if_pos rfl, hwaiting, List.append_assoc]
    · rw [h.read j k hk, hhand, if_neg (Ne.symm hj), List.append_nil]
  · intro _ k hk
    rcases List.mem_or_eq_of_mem_set hk with hk | rfl
    · exact h.running hopen k hk
    · rw [hworker]
      exact h.running hopen l (List.mem_of_getElem? hlane)

end Accounts

end

/-- The invariant is kept if the consumer moves on with empty hands and reads nothing that goes to a
lane. -/
theorem Accounts.moveOn {c : Consumer} {own : List Observation} (h : c.Accounts own)
    {phase : ConsumerPhase} {arrived : List StreamItem} {more : List Observation}
    (hfrom : ∀ n j, c.phase ≠ .sending n j) (hto : ∀ n j, phase ≠ .sending n j)
    (hread : workRead more = []) (hbegun : workBegun more = []) (hdone : workDone more = [])
    (hclosed : ({ c with phase, arrived } : Consumer).isClosed = false → c.isClosed = false) :
    ({ c with phase, arrived } : Consumer).Accounts (own ++ more) := by
  refine h.move hbegun hdone (fun n j hsending => absurd hsending (hto n j)) (fun i => ?_) hclosed
  rw [inHand_of_not_sending hfrom, inHand_of_not_sending hto, hread]
  rfl

/-- Step lemma of `Accounts`: a step keeps it, unless the run is cancelled. -/
theorem Step.accounts {σ : Type} {env : Environment σ} {c : Consumer} {s : Shared σ}
    {o : ConsumerOutcome σ} {own : List Observation} (hstep : Step env c s o)
    (hlive : s.cancelled = false) (h : c.Accounts own) :
    o.consumer.Accounts (own ++ o.seen) := by
  cases hstep with
  | readFailure hphase _ harrived =>
      exact h.moveOn (by simp [hphase]) (by simp) rfl rfl rfl (by simp [isClosed, hphase])
  | readMarker hphase _ harrived =>
      exact h.moveOn (by simp [hphase]) (by simp) rfl rfl rfl (by simp [isClosed, hphase])
  | @readWork n rest hphase _ harrived hwork =>
      refine h.move rfl rfl ?_ ?_ ?_
      · intro m i hsending
        cases hsending
        rfl
      · intro i
        rw [inHand_of_not_sending (by simp [hphase]), List.nil_append, workRead_singleton]
        show onLane c.lanes.length i (StreamItem.work? (.notify n)).toList = _
        rw [hwork]
        exact onLane_singleton _ _ _
      · simp [isClosed, hphase]
  | @send n i l hphase _ hlane hroom =>
      rw [List.append_nil]
      refine h.put (.handle n) ?_ hlane ?_ (Lane.waiting_send l _) rfl (by simp)
      · simp [isClosed, hphase]
      · intro j
        simp only [inHand, hphase]
        rfl
  | @flush i l hphase hlane hroom =>
      rw [List.append_nil]
      refine h.put .flush ?_ hlane ?_ ?_ rfl (by simp)
      · simp [isClosed, hphase]
      · intro j
        rw [inHand_of_not_sending (by simp [hphase])]
        simp
      · rw [Lane.waiting_sendFlush]
        exact (List.append_nil _).symm
  | await hphase =>
      exact h.moveOn (by simp [hphase]) (by simp) rfl rfl rfl (by simp [isClosed, hphase])
  | collect hphase =>
      exact h.moveOn (by simp [hphase]) (by simp) rfl rfl rfl (by simp [isClosed, hphase])
  | recordAgain hphase =>
      exact h.moveOn (by simp [hphase]) (by simp) rfl rfl rfl (by simp [isClosed, hphase])
  | recordFirst hphase =>
      exact h.moveOn (by simp [hphase]) (by simp) rfl rfl rfl (by simp [isClosed, hphase])
  | signal hphase =>
      exact h.moveOn (by simp [hphase]) (by simp) rfl rfl rfl (by simp [isClosed, hphase])
  | leave hleave =>
      -- With a notification in hand it would have to be cancelled, or its lane stopped.
      refine h.moveOn ?_ (by simp) rfl rfl rfl (by simp [isClosed])
      intro n j hphase
      simp only [mustLeave, hphase, hlive, Bool.false_or, isLaneStopped, Option.any_eq_true]
        at hleave
      obtain ⟨l, hlane, hstopped⟩ := hleave
      have hrunning := h.running (by simp [isClosed, hphase]) l (List.mem_of_getElem? hlane)
      rw [hstopped] at hrunning
      cases hrunning
  | join hphase =>
      exact h.moveOn (by simp [hphase]) (by simp) rfl rfl rfl (by simp [isClosed])
  | @take i l n rest hlane hidle _ hqueue =>
      have hwaiting := Lane.waiting_of_queue_handle hqueue
      have hbelongs : laneFor n.uid? c.lanes.length = i :=
        h.laneFor_of_mem_waiting hlane (by simp [hwaiting])
      have hnew : ∀ j, onLane c.lanes.length j [n] = if i = j then [n] else [] := by
        intro j
        rw [onLane_singleton, hbelongs]
      refine h.setLane rfl ?_ ?_ ?_ ?_
      · intro j hj
        refine ⟨?_, rfl⟩
        rw [workBegun_singleton]
        exact (hnew j).trans (if_neg (Ne.symm hj))
      · have hbegun := h.begun i l hlane
        rw [Lane.current_of_idle hidle, List.append_nil] at hbegun
        rw [workBegun_append, workDone_append, onLane_append, onLane_append, hbegun,
          workBegun_singleton, workDone_singleton]
        show _ ++ onLane _ _ [n] = _ ++ onLane _ _ [] ++ [n]
        rw [hnew, if_pos rfl, onLane_nil, List.append_nil]
      · rw [h.read i l hlane, hwaiting, workBegun_append, onLane_append, workBegun_singleton]
        show _ = _ ++ onLane _ _ [n] ++ _ ++ _
        rw [hnew, if_pos rfl]
        simp [Lane.waiting]
      · exact fun _ => rfl
  | @answer i l rest hlane hidle _ hqueue =>
      refine h.setLane rfl (fun _ _ => ⟨rfl, rfl⟩) ?_ ?_ ?_
      · rw [List.append_nil]
        exact h.begun i l hlane
      · rw [List.append_nil, h.read i l hlane, Lane.waiting_of_queue_flush hqueue]
        rfl
      · exact fun hopen => h.running hopen l (List.mem_of_getElem? hlane)
  | @call i l n q next hlane hworker =>
      refine h.setLane rfl (fun _ _ => ⟨rfl, rfl⟩) ?_ ?_ (fun _ => rfl)
      · rw [List.append_nil, h.begun i l hlane, Lane.current_of_handling hworker]
        rfl
      · rw [List.append_nil]
        exact h.read i l hlane
  | @finish i l n result metrics hlane hworker =>
      have hcurrent := Lane.current_of_handling hworker
      have hbelongs : laneFor n.uid? c.lanes.length = i :=
        (h.inOrder.mem_workRead_of_mem_current hlane (by simp [hcurrent])).2
      have hnew : ∀ j, onLane c.lanes.length j [n] = if i = j then [n] else [] := by
        intro j
        rw [onLane_singleton, hbelongs]
      refine h.setLane rfl ?_ ?_ ?_ (fun _ => rfl)
      · intro j hj
        refine ⟨rfl, ?_⟩
        rw [workDone_singleton]
        exact (hnew j).trans (if_neg (Ne.symm hj))
      · rw [workBegun_append, workDone_append, onLane_append, onLane_append,
          h.begun i l hlane, hcurrent, workBegun_singleton, workDone_singleton]
        show _ ++ [n] ++ onLane _ _ [] = _ ++ onLane _ _ [n] ++ []
        rw [hnew, if_pos rfl, onLane_nil]
      · rw [workBegun_append, workBegun_singleton]
        exact (h.read i l hlane).trans (by simp [Lane.waiting])
  | @halt i l hlane hhalt =>
      -- Without cancellation only an idle worker stops, and only when nothing waits.
      simp only [mayHalt, hlive, Bool.false_or, Bool.and_eq_true] at hhalt
      obtain ⟨-, ⟨hclosed, hidle⟩, hqueue⟩ := hhalt
      have hcurrent : l.current = [] := by
        cases hworker : l.worker with
        | idle => exact Lane.current_of_idle hworker
        | _ =>
            rw [hworker] at hidle
            cases hidle
      have hwaiting : l.waiting = [] := by
        unfold Lane.waiting
        rw [List.isEmpty_iff.mp hqueue]
        rfl
      refine h.setLane rfl (fun _ _ => ⟨rfl, rfl⟩) ?_ ?_ ?_
      · rw [List.append_nil, h.begun i l hlane, hcurrent]
        rfl
      · rw [List.append_nil, h.read i l hlane, hwaiting]
        rfl
      · intro hopen
        rw [hclosed] at hopen
        cases hopen

/-- Step lemma of `InOrder`: a step keeps it, cancelled or not. -/
theorem Step.inOrder {σ : Type} {env : Environment σ} {c : Consumer} {s : Shared σ}
    {o : ConsumerOutcome σ} {own : List Observation} (hstep : Step env c s o)
    (haccounts : s.cancelled = false → c.Accounts own) (h : c.InOrder own) :
    o.consumer.InOrder (own ++ o.seen) := by
  by_cases hlive : s.cancelled = false
  · exact (hstep.accounts hlive (haccounts hlive)).inOrder
  -- After cancellation nothing is read or taken up, so there is no need to know what waits.
  cases hstep with
  | readFailure _ h' | readMarker _ h' | readWork _ h' | send _ h' | collect _ h' =>
      exact absurd h' hlive
  | take _ _ h' | answer _ _ h' => exact absurd h' hlive
  | await | recordAgain | recordFirst | signal | leave | join => refine h.move ?_ ?_ <;> rfl
  | @flush i l hphase hlane =>
      refine h.setLane rfl rfl (fun _ _ => rfl) ?_
      rw [List.append_nil]
      exact h.done i l hlane
  | @call i l n q next hlane hworker =>
      refine h.setLane rfl rfl (fun _ _ => rfl) ?_
      have hdone := h.done i l hlane
      rw [Lane.current_of_handling hworker] at hdone
      rw [List.append_nil]
      exact hdone
  | @finish i l n result metrics hlane hworker =>
      have hdone := h.done i l hlane
      have hcurrent := Lane.current_of_handling hworker
      have hbelongs := (h.mem_workRead_of_mem_current hlane (n := n) (by simp [hcurrent])).2
      have hnew : ∀ j, onLane c.lanes.length j [n] = if i = j then [n] else [] := by
        intro j
        rw [onLane_singleton, hbelongs]
      refine h.setLane rfl rfl (fun j hj => ?_) ?_
      · rw [workDone_singleton]
        exact (hnew j).trans (if_neg (Ne.symm hj))
      · rw [hcurrent] at hdone
        rw [workDone_append, workDone_singleton, onLane_append]
        show _ ++ onLane _ _ [n] ++ [] <+: _
        rw [hnew, if_pos rfl, List.append_nil]
        exact hdone
  | @halt i l hlane =>
      refine h.setLane rfl rfl (fun _ _ => rfl) ?_
      show onLane _ _ (workDone (own ++ [])) ++ [] <+: _
      rw [List.append_nil, List.append_nil]
      exact (List.prefix_append _ _).trans (h.done i l hlane)

end Consumer
end ClusterGraph
