import ClusterGraph.Store.Call

/-!
# ClusterGraph.Store.Plan

**Computations that make calls to a store, as trees of calls and what follows each answer.**

A plan is data: it says which call comes next for every possible answer to the ones before,
failures included. What it does to a graph depends on who carries it out (`Plan.run`); what
it may ask for does not, and can be read off the tree (`Plan.Calls`).
-/

namespace ClusterGraph

/-- A computation of an `α` that makes calls to a store. -/
inductive Plan (α : Type) where
  | done (a : α)
  | call (c : Call) (next : Except StoreError c.Answer → Plan α)

namespace Plan

variable {α β γ σ : Type}

/-! ### Composition -/

/-- Go on with `f` from the result of `p`. -/
def bind (p : Plan α) (f : α → Plan β) : Plan β :=
  match p with
  | done a => f a
  | call c next => call c fun answer => (next answer).bind f

instance : Monad Plan where
  pure := done
  bind := bind

/-- Make the call `c`; its answer is the result. -/
def ask (c : Call) : Plan (Except StoreError c.Answer) :=
  call c done

/-- Make the call `c` and ignore its answer. -/
def attempt (c : Call) : Plan Unit :=
  call c fun _ => done ()

/-- Carry out `f` for each item of a list, one after the other. -/
def forEach (f : α → Plan Unit) : List α → Plan Unit
  | [] => done ()
  | a :: rest => (f a).bind fun _ => forEach f rest

/-! ### Execution -/

/-- Answers a call, given a state, and says what the state is after it. -/
abbrev Performer (σ : Type) :=
  (c : Call) → σ → Except StoreError c.Answer × σ

/-- Carry out a plan from the state `s`: its calls are answered by `perform`, one after the
other. -/
def run (perform : Performer σ) : Plan α → σ → α × σ
  | done a, s => (a, s)
  | call c next, s =>
      let (answer, s) := perform c s
      (next answer).run perform s

@[simp] theorem run_done (perform : Performer σ) (a : α) (s : σ) :
    (done a).run perform s = (a, s) :=
  rfl

@[simp] theorem run_call (perform : Performer σ) (c : Call)
    (next : Except StoreError c.Answer → Plan α) (s : σ) :
    (call c next).run perform s
      = (next (perform c s).1).run perform (perform c s).2 :=
  rfl

theorem run_bind (perform : Performer σ) (p : Plan α) (f : α → Plan β) (s : σ) :
    (p.bind f).run perform s
      = (f (p.run perform s).1).run perform (p.run perform s).2 := by
  induction p generalizing s with
  | done a => rfl
  | call c next ih => exact ih _ _

/-! ### Laws of composition -/

@[simp] theorem bind_done (p : Plan α) : p.bind done = p := by
  induction p with
  | done a => rfl
  | call c next ih => simp only [bind, ih]

@[simp] theorem done_bind (a : α) (f : α → Plan β) : (done a).bind f = f a :=
  rfl

theorem bind_assoc (p : Plan α) (f : α → Plan β) (g : β → Plan γ) :
    (p.bind f).bind g = p.bind fun a => (f a).bind g := by
  induction p with
  | done a => rfl
  | call c next ih => simp only [bind, ih]

instance : LawfulMonad Plan :=
  LawfulMonad.mk' Plan
    (fun p => bind_done p)
    (fun _ _ => rfl)
    (fun p f g => bind_assoc p f g)

/-! ### The calls a plan can make -/

/-- The plan makes this call for some answers to the calls before it. -/
inductive Calls : Plan α → Call → Prop where
  | here {c : Call} {next : Except StoreError c.Answer → Plan α} : Calls (call c next) c
  | later {c d : Call} {next : Except StoreError c.Answer → Plan α}
      (answer : Except StoreError c.Answer) (h : Calls (next answer) d) :
      Calls (call c next) d

end Plan

end ClusterGraph
