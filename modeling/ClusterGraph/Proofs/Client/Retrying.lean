import ClusterGraph.Proofs.Client.Binding

/-!
# ClusterGraph.Proofs.Client.Retrying

**An upsert that is tried again takes effect once.**

A transaction is tried again when it was not acknowledged, which does not mean that nothing
happened: a commit may have taken effect and the word of it been lost. That does no harm, because
the request makes the same of a graph again (`Upsert.makes_of_request`).

What can come of one attempt is one of five things (`Attempt`), each with the messages that were
exchanged. From what the laws of transactions say of one attempt (`exists_attempted`) follows what
any number of them come to (`exists_settled`), by induction on the attempts that are left.
-/

namespace ClusterGraph

/-! ## Transactions -/

/-- Effect of a `merge` on a graph. Properties are scalars, so there is none for a record that is
`sought`. -/
def Graph.merge? (g : Graph) (labels : List String) (key : String) (sought : Argument)
    (properties : Properties) : Option Graph :=
  match sought with
  | .scalar value => some (g.upsert labels key value properties)
  | .record _ => none

/-- A database with transactions, used by one client: statements change the graph of the open
transaction (`pending`), which replaces the `graph` when a commit `lands`. The client may or may not
learn of that. -/
structure TransactionalDatabase (σ : Type) where
  answer : Database σ
  graph : σ → Graph
  /-- The graph of the open transaction. -/
  pending : σ → Graph
  /-- Whether a commit in this state takes effect. -/
  lands : σ → Bool
  /-- The effect of a statement on a graph, if it has one. -/
  carryOut : Request → Graph → Option Graph
  graph_begin : ∀ {s t reply}, answer .begin s = (reply, t) → graph t = graph s
  pending_begin : ∀ {s t rows}, answer .begin s = (.ok rows, t) → pending t = graph t
  graph_execute : ∀ {r s t reply}, answer (.execute r) s = (reply, t) → graph t = graph s
  pending_execute : ∀ {r s t rows}, answer (.execute r) s = (.ok rows, t) →
    carryOut r (pending s) = some (pending t)
  graph_rollback : ∀ {s t reply}, answer .rollback s = (reply, t) → graph t = graph s
  graph_commit : ∀ {s t reply}, answer .commit s = (reply, t) →
    graph t = if lands s then pending s else graph s
  lands_of_ok : ∀ {s t rows}, answer .commit s = (.ok rows, t) → lands s = true
  carryOut_merges : ∀ {r labels key sought properties},
    Request.Merges r labels key sought properties →
      ∀ g, carryOut r g = g.merge? labels key sought properties

/-- Record of a message: whether it was `answered` without an error, and whether it was a commit
that took effect (`landed`). -/
structure Exchange where
  message : Message
  answered : Bool
  landed : Bool
deriving DecidableEq

/-- Course of one attempt at a transaction (`Database.attempt`). -/
inductive Attempt where
  /-- No transaction could be begun. -/
  | unstarted
  /-- The statement failed, and a rollback was sent. -/
  | refused (rolledBack : Bool)
  /-- The commit failed without effect. -/
  | uncommitted
  /-- The commit took effect, but its answer was an error. -/
  | unacknowledged
  /-- The commit took effect and was answered. -/
  | acknowledged
deriving DecidableEq

namespace Attempt

/-- The messages of an attempt. A statement that failed is followed by a `.rollback`, never by a
`.commit`. -/
def exchanges (r : Request) : Attempt → List Exchange
  | unstarted => [⟨.begin, false, false⟩]
  | refused rolledBack =>
      [⟨.begin, true, false⟩, ⟨.execute r, false, false⟩, ⟨.rollback, rolledBack, false⟩]
  | uncommitted => [⟨.begin, true, false⟩, ⟨.execute r, true, false⟩, ⟨.commit, false, false⟩]
  | unacknowledged => [⟨.begin, true, false⟩, ⟨.execute r, true, false⟩, ⟨.commit, false, true⟩]
  | acknowledged => [⟨.begin, true, false⟩, ⟨.execute r, true, false⟩, ⟨.commit, true, true⟩]

/-- Whether the `.commit` of the attempt took effect. -/
def isCommitted : Attempt → Bool
  | unacknowledged | acknowledged => true
  | _ => false

end Attempt

namespace TransactionalDatabase

variable {σ : Type} (db : TransactionalDatabase σ)

/-- The same database, which also keeps a list of the `Exchange`s so far. -/
def recording : Database (σ × List Exchange) := fun m s =>
  let (reply, t) := db.answer m s.1
  (reply, t, s.2 ++ [⟨m, reply.isOk, m = .commit && db.lands s.1⟩])

/-- Asking the database comes to `result` and the state `t`, with the messages `exchanged`, whether
they are recorded or not. -/
structure Asked (ask : ∀ τ : Type, Database τ → τ → Except StoreError Unit × τ) (s : σ)
    (exchanged : List Exchange) (result : Except StoreError Unit) (t : σ) : Prop where
  plain : ask σ db.answer s = (result, t)
  recorded : ∀ log, ask _ db.recording (s, log) = (result, t, log ++ exchanged)

/-- The effect of the statement `r` is `made`, whenever it has one, and carrying it out once more
changes nothing. -/
structure Makes (r : Request) (made : Graph → Graph) : Prop where
  eq_of_carryOut : ∀ {g h}, db.carryOut r g = some h → h = made g
  made_made : ∀ g, made (made g) = made g

/-- Result of trying at most `most` times: fewer attempts only if one was `acknowledged`, none after
that one, success if and only if there was one; and the graph is `made` if some commit took effect,
once or more often, and the one from before if none did. -/
structure Settled (most : Nat) (made : Graph → Graph) (s : σ) (attempts : List Attempt)
    (result : Except StoreError Unit) (t : σ) : Prop where
  length_le : attempts.length ≤ most
  length_eq : .acknowledged ∉ attempts → attempts.length = most
  pairwise : attempts.Pairwise fun a _ => a ≠ .acknowledged
  ok_iff : result = .ok () ↔ .acknowledged ∈ attempts
  graph_eq : db.graph t
    = if attempts.any (·.isCommitted) then made (db.graph s) else db.graph s

variable {db} {r : Request} {made : Graph → Graph} {s t t' t'' : σ} {e : StoreError}
  {rows : List Row} {reply : Except StoreError (List Row)}

theorem recording_of_answer {m : Message} (h : db.answer m s = (reply, t)) (log : List Exchange) :
    db.recording m (s, log)
      = (reply, t, log ++ [⟨m, reply.isOk, m = .commit && db.lands s⟩]) := by
  simp only [recording, h]

/-! ### One attempt -/

theorem asked_of_unstarted (hbegin : db.answer .begin s = (.error e, t)) :
    db.Asked (fun _ db => db.attempt r) s (Attempt.unstarted.exchanges r) (.error e) t where
  plain := by simp [Database.attempt, hbegin]
  recorded log := by
    simp [Database.attempt, recording_of_answer hbegin, Attempt.exchanges, Except.isOk,
      Except.toBool]

theorem asked_of_refused (hbegin : db.answer .begin s = (.ok rows, t))
    (hexecute : db.answer (.execute r) t = (.error e, t'))
    (hrollback : db.answer .rollback t' = (reply, t'')) :
    db.Asked (fun _ db => db.attempt r) s ((Attempt.refused reply.isOk).exchanges r) (.error e)
      t'' where
  plain := by simp [Database.attempt, hbegin, hexecute, hrollback]
  recorded log := by
    simp [Database.attempt, recording_of_answer hbegin, recording_of_answer hexecute,
      recording_of_answer hrollback, Attempt.exchanges, Except.isOk, Except.toBool]

theorem asked_of_commit {rows' : List Row} (hbegin : db.answer .begin s = (.ok rows, t))
    (hexecute : db.answer (.execute r) t = (.ok rows', t'))
    (hcommit : db.answer .commit t' = (reply, t'')) :
    db.Asked (fun _ db => db.attempt r) s
      [⟨.begin, true, false⟩, ⟨.execute r, true, false⟩, ⟨.commit, reply.isOk, db.lands t'⟩]
      (reply.map fun _ => ()) t'' where
  plain := by
    cases reply <;> simp [Database.attempt, hbegin, hexecute, hcommit, Except.map]
  recorded log := by
    cases reply <;>
      simp [Database.attempt, recording_of_answer hbegin, recording_of_answer hexecute,
        recording_of_answer hcommit, Except.map, Except.isOk, Except.toBool]

/-- Every attempt takes one of the courses of `Attempt`, and changes the graph by `made` if it was
committed. -/
theorem exists_attempted (hmade : db.Makes r made) (s : σ) :
    ∃ (a : Attempt) (result : Except StoreError Unit) (t : σ),
      db.Asked (fun _ db => db.attempt r) s (a.exchanges r) result t
        ∧ (result = .ok () ↔ a = .acknowledged)
        ∧ db.graph t = if a.isCommitted then made (db.graph s) else db.graph s := by
  rcases hbegin : db.answer .begin s with ⟨e | rows, t⟩
  · exact ⟨_, _, t, asked_of_unstarted hbegin, by simp, db.graph_begin hbegin⟩
  rcases hexecute : db.answer (.execute r) t with ⟨e | rows', t'⟩
  · rcases hrollback : db.answer .rollback t' with ⟨reply, t''⟩
    have hgraph : db.graph t'' = db.graph s :=
      ((db.graph_rollback hrollback).trans (db.graph_execute hexecute)).trans
        (db.graph_begin hbegin)
    exact ⟨_, _, t'', asked_of_refused hbegin hexecute hrollback, by simp, hgraph⟩
  have hgraph : db.graph t' = db.graph s :=
    (db.graph_execute hexecute).trans (db.graph_begin hbegin)
  have hpending : db.pending t' = made (db.graph s) := by
    have hcarried := db.pending_execute hexecute
    rw [db.pending_begin hbegin, db.graph_begin hbegin] at hcarried
    exact hmade.eq_of_carryOut hcarried
  rcases hcommit : db.answer .commit t' with ⟨reply, t''⟩
  have hasked := asked_of_commit hbegin hexecute hcommit
  have hcommitted := db.graph_commit hcommit
  rw [hpending, hgraph] at hcommitted
  -- a commit may take effect without being acknowledged, but not the other way round
  cases reply with
  | ok rows'' =>
      rw [db.lands_of_ok hcommit] at hasked hcommitted
      exact ⟨.acknowledged, _, t'', hasked, by simp [Except.map], hcommitted⟩
  | error e =>
      cases hlands : db.lands t' with
      | true =>
          rw [hlands] at hasked hcommitted
          exact ⟨.unacknowledged, _, t'', hasked, by simp [Except.map], hcommitted⟩
      | false =>
          rw [hlands] at hasked hcommitted
          exact ⟨.uncommitted, _, t'', hasked, by simp [Except.map], hcommitted⟩

/-! ### Several attempts -/

/-- If `attempt` succeeds, `attemptUpTo` makes no further one. -/
theorem Asked.enough {exchanged : List Exchange} {u : Unit}
    (h : db.Asked (fun _ db => db.attempt r) s exchanged (.ok u) t) (further : Nat) :
    db.Asked (fun _ db => db.attemptUpTo r (further + 1)) s exchanged (.ok u) t where
  plain := by simp only [Database.attemptUpTo, h.plain]
  recorded log := by simp only [Database.attemptUpTo, h.recorded]

theorem Asked.again {exchanged more : List Exchange} {result : Except StoreError Unit}
    {further : Nat} (h : db.Asked (fun _ db => db.attempt r) s exchanged (.error e) t)
    (hmore : db.Asked (fun _ db => db.attemptUpTo r further) t more result t') :
    db.Asked (fun _ db => db.attemptUpTo r (further + 1)) s (exchanged ++ more) result t' where
  plain := by simp only [Database.attemptUpTo, h.plain, hmore.plain]
  recorded log := by
    simp only [Database.attemptUpTo, h.recorded, hmore.recorded, List.append_assoc]

theorem Settled.last {a : Attempt} {result : Except StoreError Unit}
    (hok : result = .ok () ↔ a = .acknowledged)
    (hgraph : db.graph t = if a.isCommitted then made (db.graph s) else db.graph s) {most : Nat}
    (hmost : a ≠ .acknowledged → most = 0) :
    db.Settled (most + 1) made s [a] result t where
  length_le := by simp
  length_eq h := by simp [hmost (fun ha => h (List.mem_singleton.mpr ha.symm))]
  pairwise := List.pairwise_singleton _ _
  ok_iff := by rw [hok, List.mem_singleton, eq_comm]
  graph_eq := by simpa using hgraph

theorem Settled.again (hmade : db.Makes r made) {a : Attempt} (ha : a ≠ .acknowledged)
    (hgraph : db.graph t = if a.isCommitted then made (db.graph s) else db.graph s)
    {most : Nat} {rest : List Attempt} {result : Except StoreError Unit}
    (h : db.Settled most made t rest result t') :
    db.Settled (most + 1) made s (a :: rest) result t' where
  length_le := Nat.succ_le_succ h.length_le
  length_eq hrest := by
    rw [List.mem_cons, not_or] at hrest
    rw [List.length_cons, h.length_eq hrest.2]
  pairwise := List.pairwise_cons.mpr ⟨fun _ _ => ha, h.pairwise⟩
  ok_iff := by simp [h.ok_iff, Ne.symm ha]
  graph_eq := by
    rw [h.graph_eq, hgraph, List.any_cons]
    cases a.isCommitted <;> cases rest.any (·.isCommitted) <;> simp [hmade.made_made]

/-- Up to `further + 1` attempts are `Settled`, by induction on `further`. -/
theorem exists_settled (hmade : db.Makes r made) (further : Nat) (s : σ) :
    ∃ (attempts : List Attempt) (result : Except StoreError Unit) (t : σ),
      db.Asked (fun _ db => db.attemptUpTo r further) s (attempts.flatMap (·.exchanges r)) result t
        ∧ db.Settled (further + 1) made s attempts result t := by
  induction further generalizing s with
  | zero =>
      obtain ⟨a, result, t, hasked, hok, hgraph⟩ := exists_attempted hmade s
      refine ⟨[a], result, t, ?_, .last hok hgraph fun _ => rfl⟩
      rw [List.flatMap_singleton]
      exact hasked
  | succ further ih =>
      obtain ⟨a, result, t, hasked, hok, hgraph⟩ := exists_attempted hmade s
      cases result with
      | ok u =>
          refine ⟨[a], _, t, ?_, .last hok hgraph fun ha => absurd (hok.mp rfl) ha⟩
          rw [List.flatMap_singleton]
          exact hasked.enough further
      | error e =>
          obtain ⟨rest, result, t', hrest, hsettled⟩ := ih t
          have ha : a ≠ .acknowledged := fun ha => nomatch hok.mpr ha
          exact ⟨a :: rest, result, t', hasked.again hrest, .again hmade ha hgraph hsettled⟩

end TransactionalDatabase

/-! ## Upserts -/

namespace Upsert

open TransactionalDatabase

variable {σ : Type} {db : TransactionalDatabase σ} {u : Upsert} {r : Request}

/-- The graph after the upsert, on a store with the graph `g`. -/
def made (u : Upsert) (g : Graph) : Graph :=
  (u.run (.ofGraph g)).graph

/-- The request of an upsert is one that `Makes` what the upsert has `made` of a graph. -/
theorem makes_of_request (h : u.call.request = .ok (some r)) : db.Makes r u.made := by
  obtain ⟨value, hvalue, hscalar, hrecord⟩ := merges_of_request h
  have hmade : ∀ g, u.made g = g.upsert u.labels u.key value u.stored := fun g =>
    (succeeds_of_request h (s := .ofGraph g) rfl).graph_run hvalue
  refine ⟨fun {g h} hcarried => ?_, fun g => ?_⟩
  · by_cases hkey : u.key = "properties"
    · rw [db.carryOut_merges (hrecord hkey)] at hcarried
      cases hcarried
    · rw [db.carryOut_merges (hscalar hkey)] at hcarried
      cases hcarried
      exact (hmade g).symm
  · rw [hmade, hmade]
    exact Graph.upsert_upsert hvalue u.stored

theorem asked_perform {labels : List String} {properties : Dict Json} {key : String}
    (h : (Call.upsert .transaction labels properties key).request = .ok (some r)) {s t : σ}
    {exchanged : List Exchange} {result : Except StoreError Unit}
    (hasked : db.Asked (fun _ db => db.attemptUpTo r (Database.mostAttempts - 1)) s exchanged
      result t) :
    db.Asked (fun _ db => db.perform (.upsert .transaction labels properties key)) s exchanged
      (result.mapError (Call.upsert .transaction labels properties key).failed) t where
  plain := by
    cases result <;> simp [Database.perform, h, Database.send, hasked.plain, Except.map, Call.read,
      Except.mapError]
  recorded log := by
    cases result <;> simp [Database.perform, h, Database.send, hasked.recorded, Except.map,
      Call.read, Except.mapError]

/-- Upserts in a transaction that is tried again, for every `TransactionalDatabase`, whatever it
answers at each attempt. If the upsert has no `request`, `perform` fails and sends nothing.
Otherwise the attempts are `Settled`: at most three of them, and none after one that was
acknowledged; `perform` succeeds if and only if one was; a statement that failed is rolled back and
never committed; and if some commit took effect, the graph is the one after a single upsert,
otherwise the one from before. -/
theorem retried_takes_effect_once {σ : Type} (db : TransactionalDatabase σ)
    (labels : List String) (properties : Dict Json) (key : String) (s : σ) :
    let u : Upsert := ⟨.transaction, labels, properties, key⟩
    ∃ exchanged result t,
      db.Asked (fun _ db => db.perform u.call) s exchanged result t
        ∧ ((∃ e, u.call.request = .error e ∧ exchanged = [] ∧ result = .error e ∧ t = s)
          ∨ ∃ r attempts, u.call.request = .ok (some r)
              ∧ exchanged = attempts.flatMap (·.exchanges r)
              ∧ db.Settled 3 u.made s attempts result t) := by
  intro u
  rcases u.request_cases with ⟨e, herror⟩ | ⟨-, value, -, hrequest⟩
  · refine ⟨[], .error e, s, ⟨?_, fun log => ?_⟩, .inl ⟨e, herror, rfl, rfl, rfl⟩⟩
    · simp [Database.perform, herror]
    · simp [Database.perform, herror]
  · have hmade : db.Makes (u.requestFor value) u.made := makes_of_request hrequest
    obtain ⟨attempts, result, t, hasked, hsettled⟩ :=
      exists_settled hmade (Database.mostAttempts - 1) s
    have hresult : result.mapError u.call.failed = .ok () ↔ result = .ok () := by
      cases result <;> simp [Except.mapError]
    exact ⟨_, _, t, asked_perform hrequest hasked, .inr ⟨_, attempts, hrequest, rfl,
      { hsettled with ok_iff := hresult.trans hsettled.ok_iff }⟩⟩

end Upsert

/-! ## A server that follows a script -/

/-- A server that follows a script: it says how the next transactions end. After the script all are
`acknowledged`. -/
structure ScriptedServer where
  graph : Graph
  pending : Graph
  script : List Attempt

namespace ScriptedServer

/-- The end of the transaction that is open, or of the next one to come (`script`). -/
def next (s : ScriptedServer) : Attempt :=
  s.script.headD .acknowledged

/-- The server after that transaction, with the graph `g`. -/
def ended (s : ScriptedServer) (g : Graph) : ScriptedServer :=
  ⟨g, g, s.script.tail⟩

/-- Carry out a `merge`, which it reads by `Sentence.read?`. -/
def carryOut (r : Request) (g : Graph) : Option Graph :=
  match Sentence.read? r.text with
  | some (.merge ⟨_, labels, key, parameter, none⟩ record) =>
      match r.arguments.find? parameter, r.arguments.find? record with
      | some sought, some (.record properties) => g.merge? labels key sought properties
      | _, _ => none
  | _ => none

/-- Reply of the server where it fails. -/
@[reducible] def failure : Except StoreError (List Row) :=
  .error (.database none)

/-- The answer to a message, according to the `script`. -/
def answer : Database ScriptedServer
  | .begin, s =>
      if s.next = .unstarted then (failure, s.ended s.graph)
      else (.ok [], { s with pending := s.graph })
  | .execute r, s =>
      match s.next, carryOut r s.pending with
      | .refused _, _ => (failure, s)
      | _, some g => (.ok [], { s with pending := g })
      | _, none => (failure, s)
  | .commit, s =>
      (if s.next = .acknowledged then .ok [] else failure,
        s.ended (if s.next.isCommitted then s.pending else s.graph))
  | .rollback, s =>
      (if s.next = .refused true then .ok [] else failure, s.ended s.graph)
  | .query _, s => (failure, s)

/-- The server as a `TransactionalDatabase`. -/
def database : TransactionalDatabase ScriptedServer where
  answer := answer
  graph := graph
  pending := pending
  lands s := s.next.isCommitted
  carryOut := carryOut
  graph_begin {s t reply} h := by
    simp only [answer] at h
    split at h <;> cases h <;> rfl
  pending_begin {s t rows} h := by
    simp only [answer] at h
    split at h <;> cases h
    rfl
  graph_execute {r s t reply} h := by
    simp only [answer] at h
    split at h <;> cases h <;> rfl
  pending_execute {r s t rows} h := by
    simp only [answer] at h
    split at h <;> cases h
    assumption
  graph_rollback {s t reply} h := by
    cases h
    rfl
  graph_commit {s t reply} h := by
    cases h
    rfl
  lands_of_ok {s t rows} h := by
    simp only [answer] at h
    split at h
    · rename_i hnext
      rw [hnext]
      rfl
    · cases h
  carryOut_merges {r labels key sought properties} h g := by
    obtain ⟨v, parameter, record, hworded, htext, hsought, hrecord⟩ := h
    simp only [carryOut, htext, Sentence.read?_text hworded, hsought, hrecord]

end ScriptedServer

/-- A graph with one pod, whose `phase` is `Pending`. -/
def waiting : Graph :=
  ⟨1, [⟨0, ["Pod"], Dict.ofList [(Key.uid, .text "a"), ("phase", .text "Pending")]⟩], []⟩

/-- A `ScriptedServer` that refuses the first statement, then takes a commit without acknowledging
it, and lets the third attempt succeed. -/
def unlucky : ScriptedServer :=
  ⟨waiting, waiting, [.refused false, .unacknowledged, .acknowledged]⟩

/-- An upsert that sets the `phase` of the pod to `Running`. -/
def runs : Upsert :=
  ⟨.transaction, ["Pod"], Dict.ofList [(Key.uid, .text "a"), ("phase", .text "Running")], Key.uid⟩

/-- Instance of `retried_takes_effect_once`: after three attempts, two of them committed, the graph
is the one after a single upsert. -/
theorem Upsert.retried_takes_effect_once_unlucky :
    ∃ t, ScriptedServer.database.answer.perform runs.call unlucky = (.ok (), t)
      ∧ (ScriptedServer.database.recording.perform runs.call (unlucky, [])).2.2
          = unlucky.script.flatMap (·.exchanges (runs.requestFor (.text "a")))
      ∧ t.graph = ⟨1, [⟨0, ["Pod"], runs.stored⟩], []⟩ := by
  have hok : (ScriptedServer.database.answer.perform runs.call unlucky).1 = .ok () := by
    decide +kernel
  obtain ⟨exchanged, result, t, hasked, hcases⟩ :=
    retried_takes_effect_once ScriptedServer.database runs.labels runs.properties runs.key unlucky
  have hresult : result = .ok () := (congrArg Prod.fst hasked.plain).symm.trans hok
  subst hresult
  refine ⟨t, hasked.plain, by decide +kernel, ?_⟩
  rcases hcases with ⟨e, -, -, herror, -⟩ | ⟨r, attempts, -, -, hsettled⟩
  · cases herror
  · have hcommitted : attempts.any (·.isCommitted) = true :=
      List.any_eq_true.mpr ⟨_, hsettled.ok_iff.mp rfl, rfl⟩
    have hgraph := hsettled.graph_eq
    rw [hcommitted, if_pos rfl] at hgraph
    exact hgraph.trans (by decide +kernel)

end ClusterGraph
