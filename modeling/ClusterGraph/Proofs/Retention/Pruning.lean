import ClusterGraph.Proofs.Retention.Sweeping
import ClusterGraph.Proofs.Time.Timestamps

/-!
# ClusterGraph.Proofs.Retention.Pruning

**Pruning takes away exactly the events that are older than the window.**

The store compares texts and knows nothing of time. It still decides as a clock would: the cutoff
is no later than now, so its year has four digits or a sign before it, and either way an event is
below it as a text when it is before it in time (`Instant.format_lt_iff_second`). A cutoff that
cannot be said, because the window reaches back before the first year, is before all events.
-/

namespace ClusterGraph

/-! ## The window -/

namespace Retention

/-- The number of `days` is positive, and the day that far before `now` is one that `isDayInRange`
allows. -/
def HasWindow (days : Int) (now : Instant) : Prop :=
  0 < days ∧ Instant.isDayInRange (now.dayNumber - days) = true

instance (days : Int) (now : Instant) : Decidable (HasWindow days now) :=
  inferInstanceAs (Decidable (_ ∧ _))

variable {days : Int} {now : Instant}

theorem daysBefore?_eq (hleap : now.inLeapSecond = false) :
    now.daysBefore? days = if Instant.isDayInRange (now.dayNumber - days) then
      some ⟨now.second - days * Instant.daySeconds, now.nano⟩ else none := by
  have hday : Instant.dayNumber ⟨now.second - days * Instant.daySeconds, now.nano⟩
      = now.dayNumber - days := by
    unfold Instant.dayNumber Instant.daySeconds
    simp only
    omega
  unfold Instant.daysBefore?
  rw [hleap, Bool.false_and]
  simp only [Bool.false_eq_true, if_false]
  rw [hday]

/-- With an open window, `cutoff?` gives the instant that is `days` times `daySeconds` before
`now`. -/
theorem exists_cutoff? (hleap : now.inLeapSecond = false) (h : HasWindow days now) :
    ∃ cutoff, cutoff? days now = some cutoff
      ∧ cutoff.second = now.second - days * Instant.daySeconds
      ∧ cutoff.dayNumber ≤ now.dayNumber ∧ cutoff.inLeapSecond = false := by
  have henabled : isEnabled days = true := decide_eq_true h.1
  refine ⟨⟨now.second - days * Instant.daySeconds, now.nano⟩, ?_, rfl, ?_, hleap⟩
  · unfold cutoff?
    rw [if_pos henabled, daysBefore?_eq hleap, if_pos h.2]
  · have hpos := h.1
    unfold Instant.dayNumber Instant.daySeconds
    simp only
    omega

theorem cutoff?_of_not_hasWindow (hleap : now.inLeapSecond = false) (h : ¬ HasWindow days now) :
    cutoff? days now = none := by
  unfold cutoff?
  split
  · rename_i henabled
    rw [daysBefore?_eq hleap, if_neg fun hrange => h ⟨of_decide_eq_true henabled, hrange⟩]
  · rfl

/-- If `HasWindow` holds of more days, it holds of fewer. -/
theorem HasWindow.of_le {days' : Int} (h : HasWindow days' now)
    (hnow : Instant.isDayInRange now.dayNumber = true) (hpos : 0 < days) (hle : days ≤ days') :
    HasWindow days now := by
  refine ⟨hpos, ?_⟩
  have hrange := h.2
  unfold Instant.isDayInRange at hnow hrange ⊢
  rw [Bool.and_eq_true, decide_eq_true_eq, decide_eq_true_eq] at hnow hrange ⊢
  omega

end Retention

/-! ## Events and their times -/

/-- The `createdAt` of every event of the cluster is the text of an instant, `recorded n`, of the
years 0 to 9999 and not in a leap second. -/
def Graph.RecordsEvents (g : Graph) (cluster : String) (recorded : Node → Instant) : Prop :=
  ∀ n ∈ g.nodes, n.hasLabel Label.event = true → n.holdsText Key.clusterName cluster = true →
    n.text? Key.createdAt = some (recorded n).format ∧ (recorded n).InFourDigits
      ∧ (recorded n).inLeapSecond = false

/-- Whether the node is an event of the cluster that was `recorded` before `second`. -/
def Node.isEventBefore (n : Node) (recorded : Node → Instant) (cluster : String) (second : Int) :
    Bool :=
  n.hasLabel Label.event && n.holdsText Key.clusterName cluster
    && decide ((recorded n).second < second)

/-- Under `RecordsEvents`, `isExpiredEvent` compares texts, and `isEventBefore` compares the
instants behind them: they agree. -/
theorem Graph.RecordsEvents.isExpiredEvent {g : Graph} {cluster : String}
    {recorded : Node → Instant} (h : g.RecordsEvents cluster recorded) {cutoff : Instant}
    (hyear : cutoff.date.year ≤ 9999) (hleap : cutoff.inLeapSecond = false) {n : Node}
    (hn : n ∈ g.nodes) :
    n.isExpiredEvent cluster cutoff.format = n.isEventBefore recorded cluster cutoff.second := by
  unfold Node.isExpiredEvent Node.isEventBefore
  cases hevent : n.hasLabel Label.event && n.holdsText Key.clusterName cluster with
  | false => rfl
  | true =>
      rw [Bool.and_eq_true] at hevent
      obtain ⟨htext, hrecorded, hleap'⟩ := h n hn hevent.1 hevent.2
      rw [Bool.true_and, Bool.true_and, htext, Option.any_some]
      exact decide_eq_decide.mpr (Instant.format_lt_iff_second hrecorded hyear hleap' hleap)

namespace Shared

open Retention

variable {s : Shared MemoryStore} {cluster : String} {recorded : Node → Instant} {days : Int}
  {now : Instant}

/-- The state `s` after pruning the nodes that satisfy `test`: `removeWhere` of the graph, and their
number in the metric under `ttl`. -/
def pruned (s : Shared MemoryStore) (test : Node → Bool) : Shared MemoryStore :=
  { s with
    store := s.store.withGraph (s.store.graph.removeWhere test)
    metrics := s.metrics.recordSwept "ttl" (s.store.graph.countWhere test) }

theorem prune_of_hasWindow (hwritable : s.store.writable = true)
    (hrecords : s.store.graph.RecordsEvents cluster recorded) (hyear : now.date.year ≤ 9999)
    (hleap : now.inLeapSecond = false) (h : HasWindow days now) :
    let expired := (·.isEventBefore recorded cluster (now.second - days * Instant.daySeconds))
    s.prune MemoryStore.perform cluster days now
      = (.ok (s.store.graph.countWhere expired), s.pruned expired) := by
  intro expired
  obtain ⟨cutoff, hcutoff, hsecond, hearlier, hleap'⟩ := exists_cutoff? hleap h
  have hyear' : cutoff.date.year ≤ 9999 :=
    Int.le_trans (Instant.year_le_of_dayNumber_le hearlier) hyear
  have hsame : ∀ n ∈ s.store.graph.nodes, n.isExpiredEvent cluster cutoff.format = expired n := by
    intro n hn
    rw [hrecords.isExpiredEvent hyear' hleap' hn, hsecond]
  have hcount : s.store.graph.countWhere (·.isExpiredEvent cluster cutoff.format)
      = s.store.graph.countWhere expired := congrArg List.length (List.filter_congr hsame)
  have hperform : MemoryStore.perform (.pruneEvents cluster cutoff) s.store
      = (.ok (s.store.graph.countWhere expired),
          s.store.withGraph (s.store.graph.removeWhere expired)) := by
    rw [MemoryStore.perform_of_writable hwritable]
    simp only [MemoryStore.arrival, MemoryStore.answer, MemoryStore.sweep, hcount,
      Graph.removeWhere_congr hsame]
  unfold Shared.prune carryOut Retention.prune
  simp only [hcutoff, Plan.run_call, hperform]
  rfl

theorem prune_of_not_hasWindow (hleap : now.inLeapSecond = false) (h : ¬ HasWindow days now) :
    s.prune MemoryStore.perform cluster days now = (.ok 0, s) := by
  unfold Shared.prune carryOut Retention.prune
  rw [cutoff?_of_not_hasWindow hleap h]
  rfl

/-- With an open window, `prune` answers with the number of events that are more than `days` old by
the second, and leaves the state `pruned` of these. Without one it answers 0 and changes nothing. A
node that `days` keeps is kept by any `longer` window. -/
theorem prune_exact (hwritable : s.store.writable = true)
    (hrecords : s.store.graph.RecordsEvents cluster recorded)
    (hnow : Instant.isDayInRange now.dayNumber = true) (hyear : now.date.year ≤ 9999)
    (hleap : now.inLeapSecond = false) (days : Int) :
    (HasWindow days now →
      let expired := (·.isEventBefore recorded cluster (now.second - days * Instant.daySeconds))
      s.prune MemoryStore.perform cluster days now
        = (.ok (s.store.graph.countWhere expired), s.pruned expired))
    ∧ (¬ HasWindow days now → s.prune MemoryStore.perform cluster days now = (.ok 0, s))
    ∧ ∀ longer, 0 < days → days ≤ longer →
        ∀ n ∈ (s.prune MemoryStore.perform cluster days now).2.store.graph.nodes,
          n ∈ (s.prune MemoryStore.perform cluster longer now).2.store.graph.nodes := by
  refine ⟨prune_of_hasWindow hwritable hrecords hyear hleap, prune_of_not_hasWindow hleap, ?_⟩
  intro longer hpos hle n hn
  by_cases hlonger : HasWindow longer now
  · rw [prune_of_hasWindow hwritable hrecords hyear hleap (hlonger.of_le hnow hpos hle)] at hn
    rw [prune_of_hasWindow hwritable hrecords hyear hleap hlonger]
    obtain ⟨hmem, hkept⟩ := Graph.mem_nodes_removeWhere.mp hn
    refine Graph.mem_nodes_removeWhere.mpr ⟨hmem, ?_⟩
    unfold Node.isEventBefore Instant.daySeconds at hkept ⊢
    rw [Bool.and_eq_false_iff, decide_eq_false_iff_not] at hkept ⊢
    exact hkept.imp_right fun h => by omega
  · rw [prune_of_not_hasWindow hleap hlonger]
    by_cases hshorter : HasWindow days now
    · rw [prune_of_hasWindow hwritable hrecords hyear hleap hshorter] at hn
      exact (Graph.mem_nodes_removeWhere.mp hn).1
    · rwa [prune_of_not_hasWindow hleap hshorter] at hn

/-- Events of the cluster `shop` at the seconds -1 and 0, an event of `bank` at the second -1, and a
pod that all three involve. -/
def newYear : Graph :=
  let event (id : Nat) (cluster : String) (second : Int) : Node :=
    ⟨id, [Label.event], Dict.ofList [(Key.clusterName, .text cluster),
      (Key.createdAt, .text (Instant.mk second 0).format)]⟩
  ⟨4, [event 0 "shop" (-1), event 1 "shop" 0, event 2 "bank" (-1), ⟨3, ["Pod"], Dict.ofList []⟩],
    [⟨0, .involves, 3⟩, ⟨1, .involves, 3⟩, ⟨2, .involves, 3⟩]⟩

/-- Instance of `prune_exact`: 30 days later the event of the second -1 goes, and that of the second
0 stays. A window too long for the calendar changes nothing. -/
theorem prune_exact_newYear :
    let s := Shared.ofRegistry (MemoryStore.ofGraph newYear) default default ⟨0, 0⟩
    let now : Instant := ⟨30 * 86400, 0⟩
    (s.prune MemoryStore.perform "shop" 30 now).1 = .ok 1
      ∧ (s.prune MemoryStore.perform "shop" 30 now).2.store.graph
        = ⟨4, newYear.nodes.drop 1, [⟨1, .involves, 3⟩, ⟨2, .involves, 3⟩]⟩
      ∧ (s.prune MemoryStore.perform "shop" 9223372036854775807 now).2 = s := by
  intro s now
  have hrecords : s.store.graph.RecordsEvents "shop" fun n => ⟨if n.id = 0 then -1 else 0, 0⟩ := by
    unfold Graph.RecordsEvents
    decide +kernel
  have hnow : Instant.isDayInRange now.dayNumber = true := by decide +kernel
  have hprune := prune_exact (s := s) rfl hrecords hnow (by decide +kernel) (by decide)
  have hshort := (hprune 30).1 (by decide +kernel)
  have hlong := (hprune 9223372036854775807).2.1 (by decide +kernel)
  rw [hshort, hlong]
  exact ⟨by decide +kernel, by decide +kernel, rfl⟩

end Shared
end ClusterGraph
