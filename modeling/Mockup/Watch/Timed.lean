import Mockup.Clockwork
import Mockup.Watch.Desk

namespace Mockup

/-!
# Watchers on a clock

A watch with its timers and a clock of its own, which logs who fired and
when.  Without a clock, watchers that would wait fire at once.
-/

/-- A firing, and when it happened. -/
structure LoggedFiring where
  time : Nat
  firing : Firing
  deriving Repr

/-- A watch on its own clock. -/
structure TimedWatch extends WatchDesk (Timer Firing) where
  hasClock : Bool := true
  log : List LoggedFiring := []

namespace TimedWatch

/-- A watch that has just been made, with the functions that it may call. -/
def fresh
    (functions : Registry)
    (hasClock : Bool) :
    TimedWatch where
  watch :=
    { functions := functions }
  hasClock :=
    hasClock

/-- Log a firing, if there is one. -/
def record
    (timed : TimedWatch) :
    Option Firing → TimedWatch
  | some firing =>
      { timed with log := timed.log ++ [⟨timed.agenda.now, firing⟩] }
  | none =>
      timed

/-- Do what a watcher wants done. -/
def carryOut
    (timed : TimedWatch) :
    Watch.Reaction → TimedWatch
  | .fire firing =>
      timed.record (some firing)
  | .arm delay firing =>
      { timed with
        toWatchDesk :=
          timed.toWatchDesk.schedule firing.key (.fresh delay firing) }

/-- Run the next timer: it starts to wait, or its watcher fires. -/
def step?
    (timed : TimedWatch) :
    Option TimedWatch :=
  match timed.agenda.next? with
  | none =>
      none
  | some (entry, agenda) =>
      let work := entry.job.work
      if entry.job.delay = 0 then
        let (watch, fired) := timed.watch.fire work
        some ({ timed with watch := watch, agenda := agenda }.record fired)
      else
        some { timed with
          agenda :=
            agenda.arm entry.job.delay ⟨entry.ticket, .elapsed work⟩ }

/-- How a watch runs on its clock: each timer starts, waits and fires. -/
def clockwork : Clockwork TimedWatch where
  step? :=
    step?
  deadline? :=
    fun timed => timed.agenda.deadline?
  moveTo :=
    fun time timed =>
      { timed with agenda := timed.agenda.moveTo time }
  effort :=
    fun timed => 3 * timed.agenda.entries.length

/-- Let everything that is ready run. -/
def settle
    (timed : TimedWatch) :
    TimedWatch :=
  clockwork.settle timed

/-- Let some time pass; without a clock there is none. -/
def advance
    (timed : TimedWatch)
    (time : Nat) :
    TimedWatch :=
  if timed.hasClock then
    clockwork.runTo (timed.agenda.now + time) timed
  else
    timed

/-- Register a watcher. -/
def add
    (timed : TimedWatch)
    (path : String)
    (config : WatchConfig)
    (context : WatchContext) :
    TimedWatch :=
  let (watch, fired) := timed.watch.add path config context
  { timed with watch := watch }.record fired

/-- Show a change to the watchers. -/
def notify
    (timed : TimedWatch)
    (change : StateChange)
    (context : WatchContext) :
    TimedWatch :=
  let (watch, reactions) :=
    timed.watch.notify ⟨timed.agenda.now, timed.hasClock⟩ change context
  reactions.foldl carryOut { timed with watch := watch }

/-- Remove all watchers of a path; tells how many there were. -/
def removeAll
    (timed : TimedWatch)
    (path : String) :
    TimedWatch × Nat :=
  let (desk, count) := timed.toWatchDesk.removeAll path
  ({ timed with toWatchDesk := desk }, count)

/-- Remove one watcher of a path; tells whether there was such a one. -/
def remove
    (timed : TimedWatch)
    (path : String)
    (config : WatchConfig) :
    TimedWatch × Bool :=
  let (desk, found) := timed.toWatchDesk.remove path config
  ({ timed with toWatchDesk := desk }, found)

/-- Remove the watchers of a path with all they remember. -/
def clearPath
    (timed : TimedWatch)
    (path : String) :
    TimedWatch :=
  { timed with toWatchDesk := timed.toWatchDesk.clearPath path }

/-- Remove all watchers with all they remember. -/
def clear
    (timed : TimedWatch) :
    TimedWatch :=
  { timed with toWatchDesk := timed.toWatchDesk.clear }

end TimedWatch

end Mockup
