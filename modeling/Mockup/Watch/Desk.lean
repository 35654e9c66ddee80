import Mockup.TimerTable
import Mockup.Watch.Notify

namespace Mockup

/-!
# The desk of a watch

A watch with the timers its watchers have asked for.  The timers are jobs on
an agenda that may hold other jobs too.  When watchers are removed, their
timers are cancelled.
-/

/-- A watch, its timers, and the agenda they are on. -/
structure WatchDesk (J : Type) where
  watch : Watch := {}
  timers : TimerTable TriggerKey := {}
  agenda : Agenda J := {}

namespace WatchDesk

variable {J : Type}

/-- How many timers have yet to fire. -/
def pending
    (desk : WatchDesk J) :
    Nat :=
  desk.timers.pending desk.agenda

/-- Put a timer on the agenda in place of the pending one of its key. -/
def schedule
    (desk : WatchDesk J)
    (key : TriggerKey)
    (job : J) :
    WatchDesk J :=
  let (timers, agenda) := desk.timers.schedule desk.agenda key job
  { desk with timers := timers, agenda := agenda }

/-- Cancel the timers of some keys. -/
def cancelWhere
    (desk : WatchDesk J)
    (chosen : TriggerKey → Bool) :
    WatchDesk J :=
  let (timers, agenda, _) := desk.timers.cancelWhere desk.agenda chosen
  { desk with timers := timers, agenda := agenda }

/-- Remove all watchers of a path; tells how many there were. -/
def removeAll
    (desk : WatchDesk J)
    (path : String) :
    WatchDesk J × Nat :=
  match desk.watch.removeAll path with
  | (_, 0) =>
      (desk, 0)
  | (watch, count) =>
      ({ desk with watch := watch }.cancelWhere fun key =>
          key.path = Path.normalize path,
        count)

/-- Remove one watcher of a path; tells whether there was such a one. -/
def remove
    (desk : WatchDesk J)
    (path : String)
    (config : WatchConfig) :
    WatchDesk J × Bool :=
  match desk.watch.remove path config with
  | (watch, true) =>
      let removed := TriggerKey.ofConfig (Path.normalize path) config
      ({ desk with watch := watch }.cancelWhere fun key => key = removed,
        true)
  | (_, false) =>
      (desk, false)

/-- Remove the watchers of a path with all they remember. -/
def clearPath
    (desk : WatchDesk J)
    (path : String) :
    WatchDesk J :=
  { desk with watch := desk.watch.clearPath path }.cancelWhere fun key =>
    key.path = Path.normalize path

/-- Remove all watchers with all they remember. -/
def clear
    (desk : WatchDesk J) :
    WatchDesk J :=
  { desk with watch := desk.watch.clear }.cancelWhere fun _ => true

end WatchDesk

end Mockup
