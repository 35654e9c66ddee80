import Mockup.Agenda

namespace Mockup

/-!
# Timers

A timer does its work once, after a delay.  A table holds timers under keys:
a key has at most one pending timer, and arming it again replaces that one.
Timers that have done their work stay in the table until the next one is
scheduled.
-/

/-- Work that is done after a delay; the delay begins when the job runs. -/
inductive Timer (ω : Type) where
  | fresh (delay : Nat) (work : ω)
  | elapsed (work : ω)
  deriving Repr

namespace Timer

/-- The work that a timer is for. -/
def work : Timer ω → ω
  | .fresh _ work =>
      work
  | .elapsed work =>
      work

/-- How long the timer has still to wait when it runs; zero is no wait. -/
def delay : Timer ω → Nat
  | .fresh delay _ =>
      delay
  | .elapsed _ =>
      0

end Timer

/-- The tickets of timers under their keys. -/
structure TimerTable (κ : Type) where
  tickets : List (κ × Nat) := []
  deriving Repr

namespace TimerTable

variable {κ J : Type}

/-- Put a timer on the agenda in place of the pending one of its key. -/
def schedule
    [BEq κ]
    (table : TimerTable κ)
    (agenda : Agenda J)
    (key : κ)
    (job : J) :
    TimerTable κ × Agenda J :=
  let live := table.tickets.filter fun entry => agenda.isLive entry.2
  let (spawned, ticket) := agenda.spawn job
  let after :=
    match live.lookup key with
    | some previous =>
        spawned.abort previous
    | none =>
        spawned
  (⟨live.filter (fun entry => !(entry.1 == key)) ++ [(key, ticket)]⟩,
    after)

/-- Cancel the timers under some keys; tells how many were in the table. -/
def cancelWhere
    (table : TimerTable κ)
    (agenda : Agenda J)
    (chosen : κ → Bool) :
    TimerTable κ × Agenda J × Nat :=
  let cancelled := table.tickets.filter fun entry => chosen entry.1
  (⟨table.tickets.filter fun entry => !chosen entry.1⟩,
    cancelled.foldl (fun rest entry => rest.abort entry.2) agenda,
    cancelled.length)

/-- Cancel every timer. -/
def cancelAll
    (table : TimerTable κ)
    (agenda : Agenda J) :
    TimerTable κ × Agenda J :=
  let (rest, after, _) := table.cancelWhere agenda fun _ => true
  (rest, after)

/-- Whether a timer under a key has yet to fire. -/
def isPending
    [BEq κ]
    (table : TimerTable κ)
    (agenda : Agenda J)
    (key : κ) :
    Bool :=
  match table.tickets.lookup key with
  | some ticket =>
      agenda.isLive ticket
  | none =>
      false

/-- Cancel the timer under a key; tells whether one was pending. -/
def cancel
    [BEq κ]
    (table : TimerTable κ)
    (agenda : Agenda J)
    (key : κ) :
    TimerTable κ × Agenda J × Bool :=
  let (rest, after, _) := table.cancelWhere agenda fun other => other == key
  (rest, after, table.isPending agenda key)

/-- How many timers have yet to fire. -/
def pending
    (table : TimerTable κ)
    (agenda : Agenda J) :
    Nat :=
  (table.tickets.filter fun entry => agenda.isLive entry.2).length

end TimerTable

end Mockup
