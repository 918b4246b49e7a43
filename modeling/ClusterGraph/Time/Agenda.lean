/-!
# ClusterGraph.Time.Agenda

**Virtual time: what happens when, and what a system looks like after each occurrence.**

On virtual time a system is given all the time it needs: what happens at one time is over
before the next occurrence. Times are milliseconds from the start.
-/

namespace ClusterGraph

/-- Occurrences with their times, in the order of the times, as `insert` keeps them. -/
abbrev Agenda (α : Type) := List (Nat × α)

namespace Agenda

variable {α S : Type}

/-- Put `a` behind all occurrences that are not later than `time`. -/
def insert (time : Nat) (a : α) : Agenda α → Agenda α
  | [] => [(time, a)]
  | (t, b) :: rest => if t ≤ time then (t, b) :: insert time a rest else (time, a) :: (t, b) :: rest

/-- The agenda of the `items`. Of two at one time the first in the list comes first. -/
def ofList (items : List (Nat × α)) : Agenda α :=
  items.foldl (fun agenda item => agenda.insert item.1 item.2) []

/-- The items at the times `distance`, `2 * distance` and so on. A `none` lets its time pass without
an occurrence. -/
def spaced (distance : Nat) (items : List (Option α)) : List (Nat × α) :=
  ((List.range items.length).zip items).filterMap fun (i, item) =>
    item.map fun a => ((i + 1) * distance, a)

/-- The occurrences of the agenda that are earlier than `time`. -/
def before (time : Nat) (agenda : Agenda α) : Agenda α :=
  agenda.filter fun item => item.1 < time

/-- The times `first`, `first + period` and so on that are below `stop`. -/
def ticks (first period stop : Nat) : List Nat :=
  let period := max period 1
  (List.range ((stop - first + period - 1) / period)).map fun i => first + i * period

/-- Run `step` on each occurrence in turn: the states after them, with the times. -/
def play (step : α → S → S) : Agenda α → S → List (Nat × S)
  | [], _ => []
  | (t, a) :: rest, s =>
      let s := step a s
      (t, s) :: play step rest s

/-- Run `step` on each occurrence until `stop` holds: the states from the first one on, and what is
left of the agenda. -/
def playUntil (step : α → S → S) (stop : S → Bool) :
    Agenda α → Nat × S → List (Nat × S) × Agenda α
  | [], now => ([now], [])
  | (t, a) :: rest, now =>
      if stop now.2 then ([now], (t, a) :: rest)
      else
        let (history, left) := playUntil step stop rest (t, step a now.2)
        (now :: history, left)

/-- The state at `time` in a history: that of the last entry that is not later, or `before` if there
is none. -/
def at_ (time : Nat) (before : S) (history : List (Nat × S)) : S :=
  ((history.filter fun item => item.1 ≤ time).getLast?.map Prod.snd).getD before

/-- The last entry of a history, or `now` if there is none. -/
def last (now : Nat × S) (history : List (Nat × S)) : Nat × S :=
  history.getLast?.getD now

end Agenda

end ClusterGraph
