import ClusterGraph.Proofs.Pipeline.Accounting

/-!
# ClusterGraph.Proofs.Pipeline.Draining

**A kind is recorded as in sync only after everything that was read before the marker has been
handled.**

A flush is the last message of a lane until it is answered, since nothing is sent while the
consumer waits, and no flush of an earlier marker is left over. So a lane that has answered has
nothing left to do (`Lane.Fits`), and with the accounts of the lanes this says that all of its
notifications are done (`DrainedUpTo`). Once all lanes are in this state it cannot be lost
again, cancelled or not.

A flush that was cut short, by cancellation or by a lane that stopped before it answered, ends
with the consumer turning away (`Consumer.IsCut`): no marker is recorded for it, or ever after.
-/

namespace ClusterGraph

/-! ## Lanes that are flushed -/

namespace Lane

/-- The lane has nothing left to do: its `queue` is empty, and its worker is at nothing. -/
def Quiet (l : Lane) : Prop :=
  l.queue = [] ∧ l.current = []

/-- The lane has been sent a flush. Either it has `flushed` and is `Quiet`, or the flush is the last
message of its `queue`, and the only flush in it. -/
def Asked (l : Lane) : Prop :=
  if l.flushed then l.Quiet else ∃ before, l.queue = before ++ [.flush] ∧ .flush ∉ before

/-- What a lane is like while its consumer is in `phase`. A lane that has not been sent the flush of
this marker (`Asked`) holds no flush at all, so none is left over from an earlier marker. -/
def Fits (phase : ConsumerPhase) (i : Nat) (l : Lane) : Prop :=
  match phase with
  | .flushing j => if i < j then l.Asked else .flush ∉ l.queue
  | .awaiting => l.Asked
  | .recording => l.Quiet
  | .closing | .stopped => True
  | _ => .flush ∉ l.queue

/-- Whatever keeps `Asked`, `Quiet` and being free of flushes keeps `Fits`. -/
theorem Fits.imp {phase : ConsumerPhase} {i : Nat} {l l' : Lane} (h : l.Fits phase i)
    (hasked : l.Asked → l'.Asked) (hquiet : l.Quiet → l'.Quiet)
    (hfree : .flush ∉ l.queue → .flush ∉ l'.queue) : l'.Fits phase i := by
  cases phase with
  | flushing j =>
      simp only [Fits] at h ⊢
      split
      · rename_i hlt
        rw [if_pos hlt] at h
        exact hasked h
      · rename_i hge
        rw [if_neg hge] at h
        exact hfree h
  | awaiting => exact hasked h
  | recording => exact hquiet h
  | closing => trivial
  | stopped => trivial
  | reading => exact hfree h
  | sending n j => exact hfree h
  | signalling => exact hfree h

theorem Fits.take {phase : ConsumerPhase} {i : Nat} {l : Lane} (h : l.Fits phase i)
    {n : Notification} {rest : List LaneMessage} {plan : Plan (Except SyncError Unit)}
    (hqueue : l.queue = .handle n :: rest) :
    ({ l with queue := rest, worker := .handling n plan } : Lane).Fits phase i := by
  refine h.imp ?_ ?_ ?_
  · unfold Asked
    split
    · intro hgiven
      obtain ⟨hempty, -⟩ := hgiven
      rw [hqueue] at hempty
      cases hempty
    · intro hgiven
      obtain ⟨before, hbefore, hnone⟩ := hgiven
      rw [hqueue] at hbefore
      cases before with
      | nil => cases hbefore
      | cons m before =>
          obtain ⟨-, rfl⟩ := List.cons.inj hbefore
          exact ⟨before, rfl, fun hmem => hnone (List.mem_cons_of_mem _ hmem)⟩
  · intro hgiven
    obtain ⟨hempty, -⟩ := hgiven
    rw [hqueue] at hempty
    cases hempty
  · intro hnone hmem
    rw [hqueue] at hnone
    exact hnone (List.mem_cons_of_mem _ hmem)

/-- Taking a flush off the `queue` keeps `Fits`: the lane was `Asked`, and as the flush was the last
message it is `Quiet` now. -/
theorem Fits.answer {phase : ConsumerPhase} {i : Nat} {l : Lane} (h : l.Fits phase i)
    {rest : List LaneMessage} (hidle : l.worker = .idle) (hqueue : l.queue = .flush :: rest) :
    ({ l with queue := rest, flushed := true } : Lane).Fits phase i := by
  refine h.imp ?_ ?_ ?_
  · unfold Asked
    rw [if_pos rfl]
    split
    · intro hgiven
      obtain ⟨hempty, -⟩ := hgiven
      rw [hqueue] at hempty
      cases hempty
    · intro hgiven
      obtain ⟨before, hbefore, hnone⟩ := hgiven
      rw [hqueue] at hbefore
      cases before with
      | nil =>
          obtain ⟨-, rfl⟩ := List.cons.inj hbefore
          exact ⟨rfl, current_of_idle hidle⟩
      | cons m before =>
          obtain ⟨rfl, -⟩ := List.cons.inj hbefore
          exact absurd List.mem_cons_self hnone
  · intro hgiven
    obtain ⟨hempty, -⟩ := hgiven
    rw [hqueue] at hempty
    cases hempty
  · intro hnone
    rw [hqueue] at hnone
    exact absurd List.mem_cons_self hnone

/-- The actions `call` and `finish` keep `Fits`: they change what the worker is at and nothing
else. -/
theorem Fits.work {phase : ConsumerPhase} {i : Nat} {l l' : Lane} (h : l.Fits phase i)
    (hqueue : l'.queue = l.queue) (hflushed : l'.flushed = l.flushed)
    (hcurrent : l.current = [] → l'.current = []) : l'.Fits phase i := by
  have hquiet : l.Quiet → l'.Quiet := by
    intro hgiven
    obtain ⟨hempty, hnone⟩ := hgiven
    exact ⟨hqueue.trans hempty, hcurrent hnone⟩
  refine h.imp ?_ hquiet ?_
  · unfold Asked
    rw [hqueue, hflushed]
    split
    · exact hquiet
    · exact id
  · rw [hqueue]
    exact id

end Lane

/-- Phases in which no lane holds a flush (`Flushes.free`). -/
def ConsumerPhase.asksNothing : ConsumerPhase → Bool
  | reading | sending _ _ | recording | signalling => true
  | _ => false

/-! ## Flushes that come to their end -/

/-- Of the trace `own`, the last item read is the marker `synced`, and on each of the first `lanes`
lanes, `workDone` is all the work that was read before it. -/
def DrainedUpTo (lanes : Nat) (own : List Observation) : Prop :=
  ∃ earlier, itemsRead own = earlier ++ [.notify .synced] ∧
    ∀ i < lanes, onLane lanes i (workDone own)
      = onLane lanes i (earlier.filterMap StreamItem.work?)

namespace Consumer

/-- Whether the consumer is between reading a marker and the answers of all lanes: it is `flushing`
or `awaiting`. -/
def isFlushing (c : Consumer) : Bool :=
  match c.phase with
  | .flushing _ | .awaiting => true
  | _ => false

/-- Invariant of a run that is not cancelled: the `Accounts` of the consumer, and how its lanes
stand to a flush (`Lane.Fits`). -/
structure Flushes (c : Consumer) (own : List Observation) : Prop where
  accounts : c.Accounts own
  fits : ∀ (i : Nat) (l : Lane), c.lanes[i]? = some l → l.Fits c.phase i
  /-- While the consumer `isFlushing`, the marker is the last item it has read. -/
  marker : c.isFlushing = true → ∃ earlier, itemsRead own = earlier ++ [.notify .synced]

theorem flushes_start (k : Kind) (lanes : Nat) {own : List Observation}
    (h : (start k lanes).Accounts own) : (start k lanes).Flushes own := by
  refine ⟨h, ?_, fun hflushing => by cases hflushing⟩
  intro i l hlane
  rw [List.eq_of_mem_replicate (List.mem_of_getElem? hlane)]
  exact List.not_mem_nil

section Steps

variable {σ : Type} {env : Environment σ} {c : Consumer} {s : Shared σ} {o : ConsumerOutcome σ}
  {own : List Observation}

theorem fits_set {phase : ConsumerPhase} {lanes : List Lane} {i : Nat} {l' : Lane}
    (h : ∀ (j : Nat) (l : Lane), j ≠ i → lanes[j]? = some l → l.Fits phase j)
    (hnew : l'.Fits phase i) :
    ∀ (j : Nat) (l : Lane), (lanes.set i l')[j]? = some l → l.Fits phase j := by
  intro j l hl
  rcases getElem?_set_cases hl with ⟨rfl, rfl⟩ | ⟨hj, hl⟩
  · exact hnew
  · exact h j l hj hl

/-- In a phase that `asksNothing`, no lane holds a flush. -/
theorem Flushes.free (h : c.Flushes own) (hphase : c.phase.asksNothing = true) {i : Nat} {l : Lane}
    (hlane : c.lanes[i]? = some l) : .flush ∉ l.queue := by
  have hfits := h.fits i l hlane
  cases hp : c.phase with
  | recording =>
      rw [hp] at hfits
      rw [hfits.1]
      exact List.not_mem_nil
  | reading | sending n j | signalling =>
      rw [hp] at hfits
      exact hfits
  | _ =>
      rw [hp] at hphase
      cases hphase

/-- The invariant is kept when a consumer goes from a phase that `asksNothing` to one that is not
`isFlushing`, with the same lanes. -/
theorem Flushes.goOn (h : c.Flushes own) (hphase : c.phase.asksNothing = true) {d : Consumer}
    {more : List Observation} (haccounts : d.Accounts (own ++ more)) (hlanes : d.lanes = c.lanes)
    (hfits : ∀ (i : Nat) (l : Lane), .flush ∉ l.queue → l.Fits d.phase i)
    (hflushing : d.isFlushing = false) : d.Flushes (own ++ more) := by
  refine ⟨haccounts, fun i l hl => hfits i l (h.free hphase (hlanes ▸ hl)), fun hmarker => ?_⟩
  rw [hflushing] at hmarker
  cases hmarker

/-- Step lemma of `Flushes`: a step keeps it, unless the run is cancelled. -/
theorem Step.flushes (hstep : Step env c s o) (hlive : s.cancelled = false) (h : c.Flushes own) :
    o.consumer.Flushes (own ++ o.seen) := by
  have haccounts := hstep.accounts hlive h.accounts
  cases hstep with
  | readFailure hphase | readWork hphase | recordAgain hphase | recordFirst hphase =>
      exact h.goOn (by rw [hphase]; rfl) haccounts rfl (fun _ _ hfree => hfree) rfl
  | signal hphase => exact h.goOn (by rw [hphase]; rfl) haccounts rfl (fun _ _ hfree => hfree) rfl
  | readMarker hphase =>
      have hreading : c.phase.asksNothing = true := by rw [hphase]; rfl
      refine ⟨haccounts, fun i l hl => h.free hreading hl, fun _ => ⟨itemsRead own, ?_⟩⟩
      rw [itemsRead_append]
      rfl
  | @send n i l hphase _ hlane =>
      have hsending : c.phase.asksNothing = true := by rw [hphase]; rfl
      refine ⟨haccounts, fits_set (fun j m _ hm => h.free hsending hm) ?_,
        fun hflushing => by cases hflushing⟩
      show .flush ∉ l.queue ++ [.handle n]
      have hfree := h.free hsending hlane
      simp [hfree]
  | @flush i l hphase hlane =>
      have hmarker : ∃ earlier, itemsRead own = earlier ++ [.notify .synced] :=
        h.marker (by simp [isFlushing, hphase])
      refine ⟨haccounts, fits_set ?_ ?_, fun _ => by rwa [List.append_nil]⟩
      -- The other lanes are on the same side of the next one as they were of this one.
      · intro j m hj hm
        have hfits := h.fits j m hm
        rw [hphase] at hfits
        simp only [Lane.Fits] at hfits ⊢
        split at hfits
        · rw [if_pos (by omega)]
          exact hfits
        · rw [if_neg (by omega)]
          exact hfits
      · have hfits := h.fits i l hlane
        rw [hphase] at hfits
        simp only [Lane.Fits, Nat.lt_irrefl, if_false] at hfits
        simp only [Lane.Fits, Nat.lt_succ_self, if_true]
        exact ⟨l.queue, rfl, hfits⟩
  | @await i hphase hlane =>
      have hmarker : ∃ earlier, itemsRead own = earlier ++ [.notify .synced] :=
        h.marker (by simp [isFlushing, hphase])
      refine ⟨haccounts, fun j l hl => ?_, fun _ => by rwa [List.append_nil]⟩
      have hlt : j < i := by
        obtain ⟨hj, -⟩ := List.getElem?_eq_some_iff.mp hl
        exact Nat.lt_of_lt_of_le hj (List.getElem?_eq_none_iff.mp hlane)
      have hfits := h.fits j l hl
      rw [hphase] at hfits
      simp only [Lane.Fits, if_pos hlt] at hfits
      exact hfits
  | collect hphase _ hflushed =>
      refine ⟨haccounts, fun i l hl => ?_, fun hflushing => by cases hflushing⟩
      have hanswered : l.flushed = true :=
        List.all_eq_true.mp hflushed l (List.mem_of_getElem? hl)
      have hfits := h.fits i l hl
      rw [hphase] at hfits
      simp only [Lane.Fits, Lane.Asked, if_pos hanswered] at hfits
      exact hfits
  | leave => exact ⟨haccounts, fun _ _ _ => trivial, fun hflushing => by cases hflushing⟩
  | join => exact ⟨haccounts, fun _ _ _ => trivial, fun hflushing => by cases hflushing⟩
  | @take i l n rest hlane _ _ hqueue =>
      refine ⟨haccounts, fits_set (fun j m _ => h.fits j m) ((h.fits i l hlane).take hqueue),
        fun hflushing => ?_⟩
      rw [itemsRead_append]
      exact (List.append_nil (itemsRead own)).symm ▸ h.marker hflushing
  | @answer i l rest hlane hidle _ hqueue =>
      refine ⟨haccounts,
        fits_set (fun j m _ => h.fits j m) ((h.fits i l hlane).answer hidle hqueue),
        fun hflushing => ?_⟩
      rw [List.append_nil]
      exact h.marker hflushing
  | @call i l n q next hlane hworker =>
      refine ⟨haccounts, fits_set (fun j m _ => h.fits j m) ((h.fits i l hlane).work rfl rfl ?_),
        fun hflushing => ?_⟩
      · rw [Lane.current_of_handling hworker]
        exact fun hnone => absurd hnone (List.cons_ne_nil _ _)
      · rw [List.append_nil]
        exact h.marker hflushing
  | @finish i l n result metrics hlane hworker =>
      refine ⟨haccounts,
        fits_set (fun j m _ => h.fits j m) ((h.fits i l hlane).work rfl rfl fun _ => rfl),
        fun hflushing => ?_⟩
      rw [itemsRead_append]
      exact (List.append_nil (itemsRead own)).symm ▸ h.marker hflushing
  | @halt i l hlane hhalt =>
      -- Without cancellation a worker stops only after the consumer has turned away.
      have hclosed : c.isClosed = true := by
        simp only [mayHalt, hlive, Bool.false_or, Bool.and_eq_true] at hhalt
        exact hhalt.2.1.1
      have hany : ∀ (j : Nat) (m : Lane), m.Fits c.phase j := by
        intro j m
        unfold isClosed at hclosed
        split at hclosed
        · rename_i hphase
          rw [hphase]
          trivial
        · rename_i hphase
          rw [hphase]
          trivial
        · cases hclosed
      refine ⟨haccounts, fun j m _ => hany j m, fun hflushing => ?_⟩
      rw [List.append_nil]
      exact h.marker hflushing

/-- Once all lanes have `flushed`, each of them is `Quiet`; so by the `Accounts`, all work that was
read before the marker is done. -/
theorem Flushes.drainedUpTo (h : c.Flushes own) (hphase : c.phase = .awaiting)
    (hflushed : c.allFlushed = true) :
    DrainedUpTo c.lanes.length own ∧ ∀ l ∈ c.lanes, l.Quiet := by
  -- A lane that has answered has nothing waiting and nobody at work, so its accounts balance.
  have hquiet : ∀ l ∈ c.lanes, l.Quiet := by
    intro l hl
    obtain ⟨i, hi⟩ := List.mem_iff_getElem?.mp hl
    have hanswered : l.flushed = true := List.all_eq_true.mp hflushed l hl
    have hfits := h.fits i l hi
    rw [hphase] at hfits
    simp only [Lane.Fits, Lane.Asked, if_pos hanswered] at hfits
    exact hfits
  obtain ⟨earlier, hearlier⟩ := h.marker (by simp [isFlushing, hphase])
  refine ⟨⟨earlier, hearlier, fun i hi => ?_⟩, hquiet⟩
  have hlane : c.lanes[i]? = some c.lanes[i] := List.getElem?_eq_getElem hi
  have hwork : workRead own = earlier.filterMap StreamItem.work? := by
    unfold workRead
    rw [hearlier, List.filterMap_append]
    exact List.append_nil _
  obtain ⟨hqueue, hcurrent⟩ := hquiet c.lanes[i] (List.getElem_mem hi)
  have hwaiting : c.lanes[i].waiting = [] := by
    unfold Lane.waiting
    rw [hqueue]
    rfl
  have hread := h.accounts.read i _ hlane
  rw [h.accounts.begun i _ hlane, hcurrent, hwaiting,
    inHand_of_not_sending (by simp [hphase]), hwork] at hread
  simpa using hread.symm

/-- A consumer that is `recording` after a step was so before, or it has just collected the answers.
In both cases its lanes are drained and `Quiet`. -/
theorem Step.recording (hstep : Step env c s o)
    (h : c.phase = .recording → DrainedUpTo c.lanes.length own ∧ ∀ l ∈ c.lanes, l.Quiet)
    (hflushes : s.cancelled = false → c.Flushes own) (hphase : o.consumer.phase = .recording) :
    DrainedUpTo o.consumer.lanes.length (own ++ o.seen)
      ∧ ∀ l ∈ o.consumer.lanes, l.Quiet := by
  have hlength := hstep.length_lanes
  rw [hlength]
  cases hstep with
  | collect hawaiting hlive hflushed =>
      rw [List.append_nil]
      exact (hflushes hlive).drainedUpTo hawaiting hflushed
  | @take i l n rest hlane _ _ hqueue =>
      have hquiet := (h hphase).2 l (List.mem_of_getElem? hlane)
      rw [hquiet.1] at hqueue
      cases hqueue
  | @answer i l rest hlane _ _ hqueue =>
      have hquiet := (h hphase).2 l (List.mem_of_getElem? hlane)
      rw [hquiet.1] at hqueue
      cases hqueue
  | @call i l n q next hlane hworker =>
      have hquiet := (h hphase).2 l (List.mem_of_getElem? hlane)
      rw [Lane.Quiet, Lane.current_of_handling hworker] at hquiet
      cases hquiet.2
  | @finish i l n result metrics hlane hworker =>
      have hquiet := (h hphase).2 l (List.mem_of_getElem? hlane)
      rw [Lane.Quiet, Lane.current_of_handling hworker] at hquiet
      cases hquiet.2
  | @halt i l hlane =>
      -- A lane that is stopped has nothing left to do, whatever it was stopped for.
      rw [List.append_nil]
      obtain ⟨hdrained, hquiet⟩ := h hphase
      refine ⟨hdrained, fun m hm => ?_⟩
      rcases List.mem_or_eq_of_mem_set hm with hm | rfl
      · exact hquiet m hm
      · exact ⟨rfl, rfl⟩
  | _ => cases hphase

end Steps

/-! ## Flushes that are cut short -/

/-- Lane `i` has been sent the flush of the marker that the consumer is at. -/
def hasAsked (c : Consumer) (i : Nat) : Prop :=
  match c.phase with
  | .flushing j => i < j
  | .awaiting => True
  | _ => False

/-- The marker that the consumer is at will not be recorded: the consumer `isClosed`, or it
`isFlushing` and the run is cancelled or a lane has stopped without an answer. -/
def IsCut (cancelled : Bool) (c : Consumer) : Prop :=
  c.isClosed = true ∨ (c.isFlushing = true ∧ (cancelled = true ∨
    ∃ (i : Nat) (l : Lane), c.lanes[i]? = some l ∧ l.worker.isStopped = true
      ∧ ¬(c.hasAsked i ∧ l.flushed = true)))

section Cut

variable {σ : Type} {env : Environment σ} {c : Consumer} {s : Shared σ} {o : ConsumerOutcome σ}

theorem IsCut.setLane {cancelled : Bool} (h : c.IsCut cancelled) {i : Nat} {l : Lane}
    (hlane : c.lanes[i]? = some l) (hrunning : l.worker.isStopped = false) (l' : Lane) :
    (c.setLane i l').IsCut cancelled := by
  rcases h with hclosed | ⟨hflushing, hcancelled | ⟨j, m, hm, hstopped, hasked⟩⟩
  · exact .inl hclosed
  · exact .inr ⟨hflushing, .inl hcancelled⟩
  · refine .inr ⟨hflushing, .inr ⟨j, m, ?_, hstopped, hasked⟩⟩
    show (c.lanes.set i l')[j]? = some m
    rw [List.getElem?_set, if_neg]
    · exact hm
    · intro heq
      subst heq
      rw [hlane] at hm
      cases hm
      rw [hrunning] at hstopped
      cases hstopped

theorem not_isCut {cancelled : Bool} (hclosed : c.isClosed = false)
    (hflushing : c.isFlushing = false) : ¬c.IsCut cancelled := by
  intro hcase
  rcases hcase with h | ⟨h, -⟩
  · rw [hclosed] at h
    cases h
  · rw [hflushing] at h
    cases h

/-- Step lemma of `IsCut`: a step keeps it and records no marker. -/
theorem Step.isCut (hstep : Step env c s o) (h : c.IsCut s.cancelled) :
    o.consumer.IsCut s.cancelled ∧ ∀ x ∈ o.seen, x.isRecord = false := by
  have hphases : ∀ phase, c.phase = phase → (phase = .reading ∨ phase = .recording
      ∨ phase = .signalling ∨ ∃ n i, phase = .sending n i) → False := by
    rintro _ hphase (rfl | rfl | rfl | ⟨n, i, rfl⟩) <;>
      exact not_isCut (by simp [isClosed, hphase]) (by simp [isFlushing, hphase]) h
  cases hstep with
  | readFailure hphase | readMarker hphase | readWork hphase | send hphase | recordAgain hphase
  | recordFirst hphase | signal hphase => exact (hphases _ hphase (by simp)).elim
  | @flush i l hphase hlane hroom =>
      refine ⟨.inr ⟨rfl, ?_⟩, by simp⟩
      rcases h with hclosed | ⟨-, hcancelled | ⟨j, m, hm, hstopped, hasked⟩⟩
      · simp [isClosed, hphase] at hclosed
      · exact .inl hcancelled
      -- A stopped lane takes no message, so it is not the one that is asked.
      · have hne : i ≠ j := by
          intro heq
          subst heq
          rw [hlane] at hm
          cases hm
          simp [Lane.hasRoom, hstopped] at hroom
        refine .inr ⟨j, m, ?_, hstopped, ?_⟩
        · show (c.lanes.set i l.sendFlush)[j]? = some m
          rw [List.getElem?_set, if_neg hne]
          exact hm
        · intro hgiven
          obtain ⟨hlt, hflushed⟩ := hgiven
          have hlt : j < i + 1 := hlt
          refine hasked ⟨?_, hflushed⟩
          unfold hasAsked
          rw [hphase]
          show j < i
          omega
  | @await i hphase hlane =>
      refine ⟨.inr ⟨rfl, ?_⟩, by simp⟩
      rcases h with hclosed | ⟨-, hcancelled | ⟨j, m, hm, hstopped, hasked⟩⟩
      · simp [isClosed, hphase] at hclosed
      · exact .inl hcancelled
      · refine .inr ⟨j, m, hm, hstopped, ?_⟩
        intro hgiven
        obtain ⟨-, hflushed⟩ := hgiven
        refine hasked ⟨?_, hflushed⟩
        obtain ⟨hj, -⟩ := List.getElem?_eq_some_iff.mp hm
        unfold hasAsked
        rw [hphase]
        exact Nat.lt_of_lt_of_le hj (List.getElem?_eq_none_iff.mp hlane)
  | collect hphase hlive hflushed =>
      -- A cut flush cannot be collected: it is cancelled, or a lane is missing its answer.
      rcases h with hclosed | ⟨-, hcancelled | ⟨j, m, hm, -, hasked⟩⟩
      · simp [isClosed, hphase] at hclosed
      · rw [hlive] at hcancelled
        cases hcancelled
      · refine absurd ⟨?_, List.all_eq_true.mp hflushed m (List.mem_of_getElem? hm)⟩ hasked
        unfold hasAsked
        rw [hphase]
        trivial
  | leave => exact ⟨.inl rfl, by simp⟩
  | join => exact ⟨.inl rfl, by simp⟩
  | take hlane hidle =>
      exact ⟨h.setLane hlane (by rw [hidle]; rfl) _, by simp [Observation.isRecord]⟩
  | answer hlane hidle => exact ⟨h.setLane hlane (by rw [hidle]; rfl) _, by simp⟩
  | call hlane hworker => exact ⟨h.setLane hlane (by rw [hworker]; rfl) _, by simp⟩
  | finish _ hlane hworker =>
      exact ⟨h.setLane hlane (by rw [hworker]; rfl) _, by simp [Observation.isRecord]⟩
  | halt hlane hhalt =>
      simp only [mayHalt, Bool.and_eq_true, Bool.not_eq_true'] at hhalt
      exact ⟨h.setLane hlane hhalt.1 _, by simp⟩

end Cut

end Consumer

/-! ## Runs -/

namespace Pipeline

variable {σ : Type} {env : Environment σ}

/-- Invariant of every run: `Flushes` until cancellation, and, cancelled or not, lanes that are
drained and `Quiet` while the consumer is `recording`. -/
def Orderly (cancelled : Bool) (c : Consumer) (own : List Observation) : Prop :=
  (cancelled = false → c.Flushes own) ∧
    (c.phase = .recording → DrainedUpTo c.lanes.length own ∧ ∀ l ∈ c.lanes, l.Quiet)

theorem stable_orderly (env : Environment σ) :
    Stable env (fun _ => True)
      fun _ cancelled c own => c.lanes.length = max env.lanes 1 ∧ Orderly cancelled c own where
  store _ _ _ := trivial
  own hstep _ h :=
    ⟨hstep.length_lanes.trans h.1, fun hlive => hstep.flushes hlive (h.2.1 hlive),
      hstep.recording h.2.2 h.2.1⟩
  other _ _ _ _ h := h
  deliver _ _ h := by
    refine ⟨h.1, fun hlive => ?_, h.2.2⟩
    obtain ⟨haccounts, hfits, hmarker⟩ := h.2.1 hlive
    exact ⟨haccounts.congr rfl rfl, hfits, hmarker⟩
  finish h := by
    refine ⟨h.1, fun hlive => ?_, h.2.2⟩
    obtain ⟨haccounts, hfits, hmarker⟩ := h.2.1 hlive
    exact ⟨haccounts.congr rfl rfl, hfits, hmarker⟩
  cancel h := ⟨h.1, (fun hlive => by cases hlive), h.2.2⟩

theorem Steps.orderly {s : Shared σ} {probe : Kind → Except ProbeError Unit} {q : Pipeline σ}
    {seen : List Observation} (h : Steps env (begin s probe) seen q) :
    ∀ c ∈ q.consumers, c.lanes.length = max env.lanes 1
      ∧ Orderly q.shared.cancelled c (observed c.kind seen) := by
  refine (h.stable (stable_orderly env) (subscribed_begin s probe) trivial ?_ ?_).2
  · exact fun c hc => absurd hc List.not_mem_nil
  · intro _ cancelled k _ _ _
    refine ⟨List.length_replicate, fun _ => ?_, fun hphase => by cases hphase⟩
    exact Consumer.flushes_start k env.lanes (Consumer.accounts_start k env.lanes rfl rfl rfl)

/-- Only a consumer whose phase is `recording` can record a marker. -/
theorem exists_recording_of_seen {p : Pipeline σ} {a : PipelineAction} {o : PipelineOutcome σ}
    {k : Kind} (h : p.act env a = some o) (hseen : o.seen = [.recorded k]) :
    ∃ c ∈ p.consumers, c.kind = k ∧ c.phase = .recording := by
  rcases act_cases h with hstart | ⟨i, c, co, hc, hstep, rfl⟩
  · cases hstart <;> cases hseen
  · have hmem := List.mem_of_getElem? hc
    cases hstep with
    | recordAgain hphase | recordFirst hphase =>
        cases hseen
        exact ⟨c, hmem, rfl, hphase⟩
    | _ => cases hseen

/-- A consumer that `IsCut` records no marker in the rest of the run. -/
theorem Steps.not_recorded_of_isCut {p q : Pipeline σ} {seen : List Observation}
    (h : Steps env p seen q) (hp : p.Subscribed) {c : Consumer} (hc : c ∈ p.consumers)
    (hcut : c.IsCut p.shared.cancelled) : .recorded c.kind ∉ seen := by
  have hstable : Stable env (fun _ => True) fun _ cancelled d own =>
      d.kind = c.kind → d.IsCut cancelled ∧ ∀ x ∈ own, x.isRecord = false := by
    refine ⟨fun _ _ _ => trivial, ?_, fun _ _ _ _ h => h, fun _ _ h => h, fun h => h, ?_⟩
    · intro d s o own hstep _ hd hkind
      obtain ⟨hdcut, hown⟩ := hd (hstep.kind_eq ▸ hkind)
      obtain ⟨hocut, hseen⟩ := hstep.isCut hdcut
      refine ⟨hocut, fun x hx => ?_⟩
      rcases List.mem_append.mp hx with hx | hx
      · exact hown x hx
      · exact hseen x hx
    · intro _ cancelled d own hd hkind
      obtain ⟨hdcut, hown⟩ := hd hkind
      refine ⟨?_, hown⟩
      rcases hdcut with hclosed | ⟨hflushing, -⟩
      · exact .inl hclosed
      · exact .inr ⟨hflushing, .inl rfl⟩
  have hall := h.stable hstable hp trivial ?_ ?_
  · intro hmem
    obtain ⟨d, hd, hkind⟩ := List.mem_map.mp (h.kinds_prefix.subset (List.mem_map_of_mem hc))
    have hnone := (hall.2 d hd hkind).2 (.recorded c.kind)
      (List.mem_filter.mpr ⟨hmem, decide_eq_true hkind.symm⟩)
    cases hnone
  · intro d hd hkind
    rw [List.inj_on_of_nodup_map hp.distinct hd hc hkind]
    exact ⟨hcut, fun x hx => absurd hx List.not_mem_nil⟩
  · intro _ _ k _ _ hk heq
    subst heq
    exact absurd (List.mem_map_of_mem hc) hk

/-- When the state `synced` of a kind is recorded in a run, all work that was read before its marker
is done: nothing else is done yet (`List.Perm`), and on every lane it was done in the order in which
it was read. A consumer that `IsCut` never records a marker again, however the run goes on. -/
theorem Steps.drained_of_recorded {s : Shared σ} {probe : Kind → Except ProbeError Unit}
    {q : Pipeline σ} {seen : List Observation} (h : Steps env (begin s probe) seen q) :
    (∀ (k : Kind) (before after : List Observation), seen = before ++ .recorded k :: after →
      ∃ earlier, itemsRead (observed k before) = earlier ++ [.notify .synced]
        ∧ (workDone (observed k before)).Perm (earlier.filterMap StreamItem.work?)
        ∧ ∀ lane, onLane env.lanes lane (workDone (observed k before))
            = onLane env.lanes lane (earlier.filterMap StreamItem.work?))
      ∧ ∀ c ∈ q.consumers, c.IsCut q.shared.cancelled →
          ∀ (more : List Observation) (r : Pipeline σ), Steps env q more r →
            .recorded c.kind ∉ more := by
  refine ⟨?_, ?_⟩
  · intro k before after hseen
    obtain ⟨r, a, o, hr, ha, hx⟩ := h.before hseen
    obtain ⟨c, hc, rfl, hphase⟩ := exists_recording_of_seen ha hx
    obtain ⟨hlength, -, hrecording⟩ := hr.orderly c hc
    obtain ⟨⟨earlier, hearlier, hlanes⟩, -⟩ := hrecording hphase
    rw [hlength] at hlanes
    have hall : ∀ lane, onLane env.lanes lane (workDone (observed c.kind before))
        = onLane env.lanes lane (earlier.filterMap StreamItem.work?) := by
      intro lane
      by_cases hlt : lane < max env.lanes 1
      · have hlane := hlanes lane hlt
        rw [onLane_max, onLane_max] at hlane
        exact hlane
      · rw [onLane_of_le hlt, onLane_of_le hlt]
    exact ⟨earlier, hearlier, perm_of_onLane fun i _ => hall i, hall⟩
  · intro c hc hcut more r hmore
    exact hmore.not_recorded_of_isCut (h.subscribed (subscribed_begin s probe)) hc hcut

/-- Environment with one lane that holds one message. No notification has any work to do. -/
def oneLane : Environment Unit where
  perform _ s := (.error .unavailable, s)
  work _ _ _ := .done (.ok ())
  buffer := 1
  lanes := 1

/-- Only pods are watched, and nothing is cancelled. -/
def podsAlone : Shared Unit :=
  ⟨(), Registry.ofKinds [.pod], default, false, ⟨0, 0⟩⟩

/-- A run to which `drained_of_recorded` applies: an update and the marker are read, the update is
done while the lane is flushed, and the run is cancelled after the answer. The marker is still
recorded, after the update. -/
theorem drained_of_recorded_update :
    ∃ (n : Notification) (q : Pipeline Unit),
      Steps oneLane (begin podsAlone fun _ => .ok ())
        ([.watched .pod, .read .pod (.notify n), .began .pod n, .read .pod (.notify .synced),
          .ended .pod n true] ++ [.recorded .pod]) q
      ∧ ∃ earlier, itemsRead (observed .pod [.watched .pod, .read .pod (.notify n),
          .began .pod n, .read .pod (.notify .synced), .ended .pod n true])
            = earlier ++ [.notify .synced]
        ∧ List.Perm [n] (earlier.filterMap StreamItem.work?) := by
  let n : Notification := .update (.unstructured .null)
  have hrun : (replay oneLane
      [.act (.start .probe), .act (.start .probe), .act (.start .subscribe),
        .receive (.deliver .pod (.notify n)), .receive (.deliver .pod (.notify .synced)),
        .act (.consumer 0 .read), .act (.consumer 0 .send), .act (.consumer 0 (.lane 0 .take)),
        .act (.consumer 0 .read), .act (.consumer 0 .flush), .act (.consumer 0 .flush),
        .act (.consumer 0 (.lane 0 .finish)), .act (.consumer 0 (.lane 0 .take)),
        .act (.consumer 0 .collect), .receive .cancel, .act (.consumer 0 .record)]
      (begin podsAlone fun _ => .ok ())).map Prod.fst
      = some ([.watched .pod, .read .pod (.notify n), .began .pod n, .read .pod (.notify .synced),
          .ended .pod n true] ++ [.recorded .pod]) := by
    with_unfolding_all rfl
  obtain ⟨q, hq⟩ := exists_steps_of_replay hrun
  obtain ⟨earlier, hearlier, hdone, -⟩ := (Steps.drained_of_recorded hq).1 .pod _ _ rfl
  exact ⟨n, q, hq, earlier, hearlier, hdone⟩

end Pipeline
end ClusterGraph
