import ClusterGraph.Proofs.Client.Binding

/-!
# ClusterGraph.Proofs.Client.Refusing

**What a connection refuses, a store in memory refuses in the same words, or not at all.**

Before anything is sent, a connection turns down calls with a label or a key that is no name, and
upserts that have nothing under their key (`Call.isRefused_iff`, `Call.exists_request_iff`). A store
in memory stands in for it in tests. It turns down nothing else, and where it looks at a call it
gives the same error (`MemoryStore.error_iff_of_isChecked`). But it does not look at every call: a
listing and the sweep of a label are done whatever the names are, so a test passes on them where a
connection fails (`Call.refused_alike`).
-/

namespace ClusterGraph

/-! ## Names in statements -/

namespace Statement

theorem exists_conditions_iff {keys : List String} (from_ : Nat) :
    (∃ texts, conditions from_ keys = .ok texts) ↔ ∀ key ∈ keys, IsName key := by
  induction keys generalizing from_ with
  | nil => simp [conditions]
  | cons key rest ih =>
      simp only [conditions, checkName_bind_eq_ok_iff]
      rw [List.forall_mem_cons, ← ih (from_ + 1)]
      simp [bind_eq_ok_iff, pure, Except.pure]

/-- There is a statement for a list if and only if its label and the keys of its filters are
names. -/
theorem exists_list_iff {label : String} {keys : List String} :
    (∃ text, list label keys = .ok text) ↔ ∀ name ∈ label :: keys, IsName name := by
  simp only [list, checkName_bind_eq_ok_iff]
  rw [List.forall_mem_cons, ← exists_conditions_iff 0]
  simp [bind_eq_ok_iff, pure, Except.pure]

/-- There is a statement for `sweepLabel` if and only if its label is a name. -/
theorem exists_sweepLabel_iff {label : String} :
    (∃ text, sweepLabel label = .ok text) ↔ IsName label := by
  simp only [sweepLabel, checkName_bind_eq_ok_iff]
  simp [pure, Except.pure]

end Statement

namespace Call

/-- The labels and keys of the statement for a call. -/
def names : Call → List String
  | upsert _ labels _ key => key :: labels
  | delete label key _ => [label, key]
  | list label filters => label :: filters.map Prod.fst
  | link source _ target => [source.label, source.key, target.label, target.key]
  | sweepLabel label _ => [label]
  | _ => []

/-- Whether an upsert has a stored value under its key; all other calls pass. -/
def hasKey : Call → Bool
  | upsert _ _ properties key => (storedProperties properties).contains key
  | _ => true

/-- All names of the call satisfy `IsName`, and an upsert `hasKey`. -/
structure IsSound (c : Call) : Prop where
  names : ∀ name ∈ c.names, IsName name
  hasKey : c.hasKey = true

/-- Whether a store in memory checks the names of the call: it does not for `list` and
`sweepLabel`. -/
def isChecked : Call → Bool
  | list _ _ | sweepLabel _ _ => false
  | _ => true

/-- Performing the call on a connection fails with `e` and sends nothing, whatever the database
replies. -/
def IsRefused (c : Call) (e : StoreError) : Prop :=
  ∀ reply, (Database.remembering reply).perform c [] = (.error e, [])

variable {c : Call} {e : StoreError}

theorem isSound_iff : c.IsSound ↔ (∀ name ∈ c.names, IsName name) ∧ c.hasKey = true :=
  ⟨fun h => ⟨h.names, h.hasKey⟩, fun h => ⟨h.1, h.2⟩⟩

theorem exists_named_iff {text : Except NameError String} {arguments : Request → Request} :
    (∃ r, named text arguments = .ok r) ↔ ∃ t, text = .ok t := by
  cases text <;> simp [named]

/-! ## What a connection refuses -/

/-- There is a request for exactly those calls that `IsSound`. -/
theorem exists_request_iff : (∃ r, c.request = .ok r) ↔ c.IsSound := by
  rw [isSound_iff]
  cases c with
  | upsert mode labels properties key =>
      have hnames := Statement.faithful_upsert.succeeds_iff (labels, key)
      simp only [names, hasKey, Dict.contains, request, ← hnames]
      cases Statement.upsert labels key with
      | error e => simp
      | ok text => cases (storedProperties properties).find? key <;> simp
  | delete label key value =>
      have hnames := Statement.faithful_delete.succeeds_iff (label, key)
      simp only [names, hasKey, request, exists_named_iff, and_true, hnames]
  | list label filters =>
      simp only [names, hasKey, request, exists_named_iff, and_true, Statement.exists_list_iff]
  | link source rel target =>
      have hnames := Statement.faithful_relationship.succeeds_iff ⟨source, rel, target⟩
      simp only [names, hasKey, request, exists_named_iff, and_true, hnames]
  | sweepLabel label id =>
      simp only [names, hasKey, request, List.forall_mem_singleton, and_true,
        ← Statement.exists_sweepLabel_iff]
      cases Statement.sweepLabel label with
      | error e => simp
      | ok text => by_cases hlabel : label = Label.event <;> simp [hlabel]
  | _ => simp [names, hasKey, request]

/-- A request that is sent leaves at least one message. -/
theorem sent_ne_nil (c : Call) (r : Request) :
    ((Database.remembering fun _ _ => .ok []).send c r []).2 ≠ [] := by
  cases c with
  | upsert mode => cases mode <;> exact List.cons_ne_nil _ _
  | _ => exact List.cons_ne_nil _ _

/-- A call is refused with `e` if and only if making its request fails with `e`. -/
theorem isRefused_iff : c.IsRefused e ↔ c.request = .error e := by
  unfold IsRefused Database.perform
  constructor
  · intro h
    have hsilent := h fun _ _ => .ok []
    cases hrequest : c.request with
    | error e' =>
        rw [hrequest] at hsilent
        cases hsilent
        rfl
    | ok request? =>
        rw [hrequest] at hsilent
        cases request? with
        | none => cases hsilent
        | some r =>
            -- Whether the call succeeds or not, the request is on record.
            have hsent := sent_ne_nil c r
            dsimp only at hsilent
            split at hsilent <;> rename_i hsend <;> rw [hsend] at hsent <;>
              exact absurd (congrArg Prod.snd hsilent) hsent
  · intro h reply
    rw [h]

end Call

/-! ## What a store in memory refuses -/

namespace MemoryStore

variable {c : Call} {s : MemoryStore}

/-- A call that `isChecked` fails in memory with exactly the error of its request. -/
theorem error_iff_of_isChecked (hs : s.writable = true) (hc : c.isChecked = true)
    {e : StoreError} : (perform c s).1 = .error e ↔ c.request = .error e := by
  rw [perform_of_writable hs]
  cases c with
  | upsert mode labels properties key =>
      simp only [answer, settle, upsert, Call.request]
      cases Statement.upsert labels key with
      | error e => simp
      | ok text => cases (storedProperties properties).find? key <;> simp
  | delete label key value =>
      simp only [answer, settle, delete, Call.request, Call.named]
      cases Statement.delete label key <;> simp
  | link source rel target =>
      simp only [answer, settle, link, Call.request, Call.named]
      cases Statement.relationship source rel target <;> simp
  | list => cases hc
  | sweepLabel => cases hc
  | _ => simp [answer, Call.request]

/-- A call that is not checked never fails in memory. -/
theorem exists_ok_of_not_isChecked (hs : s.writable = true) (hc : c.isChecked = false) :
    ∃ a, (perform c s).1 = .ok a := by
  rw [perform_of_writable hs]
  cases c with
  | list => exact ⟨_, rfl⟩
  | sweepLabel label id =>
      simp only [answer]
      split
      · exact ⟨_, rfl⟩
      · exact ⟨_, rfl⟩
  | _ => cases hc

end MemoryStore

/-- Refusals of a store in memory that can be written, compared with those of a connection. The
store fails on exactly the calls that `isChecked` and that the connection refuses, with the same
error; the connection refuses exactly the calls that are not sound; so the two agree on a call if
and only if it `isChecked` or is sound. -/
theorem Call.refused_alike (c : Call) {s : MemoryStore} (hs : s.writable = true) :
    (∀ e, (MemoryStore.perform c s).1 = .error e ↔ c.isChecked = true ∧ c.IsRefused e)
      ∧ ((∃ e, c.IsRefused e) ↔ ¬c.IsSound)
      ∧ (((∃ e, (MemoryStore.perform c s).1 = .error e) ↔ ∃ e, c.IsRefused e)
          ↔ c.isChecked = true ∨ c.IsSound) := by
  have hfails : ∀ e, (MemoryStore.perform c s).1 = .error e
      ↔ c.isChecked = true ∧ c.IsRefused e := by
    intro e
    rw [isRefused_iff]
    cases hc : c.isChecked with
    | true => simpa using MemoryStore.error_iff_of_isChecked hs hc
    | false =>
        obtain ⟨a, ha⟩ := MemoryStore.exists_ok_of_not_isChecked hs hc
        simp [ha]
  have hrefused : (∃ e, c.IsRefused e) ↔ ¬c.IsSound := by
    rw [← exists_request_iff]
    simp only [isRefused_iff]
    cases c.request <;> simp
  refine ⟨hfails, hrefused, ?_⟩
  simp only [hfails, exists_and_left, hrefused]
  tauto

/-- Instances of `refused_alike`: deleting nodes with a hostile label is refused by both, listing
them by the connection alone. -/
theorem Call.refused_alike_hostile :
    (∀ e, (MemoryStore.perform (.delete hostileKind Key.uid "a") .empty).1 = .error e
        ↔ (delete hostileKind Key.uid "a").IsRefused e)
      ∧ (delete hostileKind Key.uid "a").IsRefused (.invalidName ⟨.label, hostileKind⟩)
      ∧ (∃ e, (list hostileKind []).IsRefused e)
      ∧ ¬((∃ e, (MemoryStore.perform (.list hostileKind []) .empty).1 = .error e)
          ↔ ∃ e, (list hostileKind []).IsRefused e) := by
  obtain ⟨hdelete, -, -⟩ := refused_alike (delete hostileKind Key.uid "a") (s := .empty) rfl
  obtain ⟨-, hrefused, hagree⟩ := refused_alike (list hostileKind []) (s := .empty) rfl
  have hunsound : ¬(list hostileKind []).IsSound := by
    intro hsound
    exact absurd (hsound.names hostileKind List.mem_cons_self) (by decide)
  refine ⟨fun e => ?delete, ?words, hrefused.mpr hunsound, ?list⟩
  case delete => simpa [isChecked] using hdelete e
  case words => exact ((hdelete _).mp rfl).2
  case list =>
    rw [hagree]
    rintro (hchecked | hsound)
    · cases hchecked
    · exact hunsound hsound

/-- Counterexample: listing nodes with a hostile label succeeds in memory and is refused by the
connection. -/
theorem Call.not_refused_alike :
    ¬∀ (c : Call) (s : MemoryStore), s.writable = true →
      ((∃ e, (MemoryStore.perform c s).1 = .error e) ↔ ∃ e, c.IsRefused e) := by
  intro h
  have hrefused : (list hostileKind []).IsRefused (.invalidName ⟨.label, hostileKind⟩) :=
    isRefused_iff.mpr (by rfl)
  obtain ⟨e, herror⟩ := (h (.list hostileKind []) .empty rfl).mpr ⟨_, hrefused⟩
  cases herror

end ClusterGraph
