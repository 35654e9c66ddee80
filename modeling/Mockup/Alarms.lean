import Mockup.Clockwork
import Mockup.TimerTable

namespace Mockup

/-!
# Alarms

Labelled timers on a clock of their own: keyed alarms, of which a new one
replaces the pending one of its key, and loose tasks, which end only by
themselves or all together.  Without a clock an alarm rings at once and no
task is taken.
-/

/-- A label that has rung, and when. -/
structure Ring where
  label : String
  time : Nat
  deriving Repr, DecidableEq

/-- Alarms and loose tasks. -/
structure Alarms where
  hasClock : Bool := true
  agenda : Agenda (Timer String) := {}
  keyed : TimerTable String := {}
  loose : List Nat := []
  rung : List Ring := []

namespace Alarms

/-- Ring a label now. -/
def ring
    (alarms : Alarms)
    (label : String) :
    Alarms :=
  { alarms with rung := alarms.rung ++ [⟨label, alarms.agenda.now⟩] }

/-- Run the next timer: it starts to wait, or it rings. -/
def step?
    (alarms : Alarms) :
    Option Alarms :=
  match alarms.agenda.next? with
  | none =>
      none
  | some (entry, agenda) =>
      let taken := { alarms with agenda := agenda }
      let label := entry.job.work
      if entry.job.delay = 0 then
        some (taken.ring label)
      else
        some { taken with
          agenda :=
            agenda.arm entry.job.delay ⟨entry.ticket, .elapsed label⟩ }

/-- How alarms run: each is started, waits and rings. -/
def clockwork : Clockwork Alarms where
  step? :=
    step?
  deadline? :=
    fun alarms => alarms.agenda.deadline?
  moveTo :=
    fun time alarms =>
      { alarms with agenda := alarms.agenda.moveTo time }
  effort :=
    fun alarms => 3 * alarms.agenda.entries.length

/-- Let everything that is ready run. -/
def settle
    (alarms : Alarms) :
    Alarms :=
  clockwork.settle alarms

/-- Let some time pass; without a clock there is none. -/
def advance
    (alarms : Alarms)
    (time : Nat) :
    Alarms :=
  if alarms.hasClock then
    clockwork.runTo (alarms.agenda.now + time) alarms
  else
    alarms

/-- Set an alarm; tells whether it waits, for it may have rung at once. -/
def set
    (alarms : Alarms)
    (key : String)
    (delay : Nat)
    (label : String) :
    Alarms × Bool :=
  if alarms.hasClock then
    let (keyed, agenda) :=
      alarms.keyed.schedule alarms.agenda key (.fresh delay label)
    ({ alarms with keyed := keyed, agenda := agenda }, true)
  else
    (alarms.ring label, false)

/-- Cancel the alarm under a key; tells whether one was pending. -/
def cancel
    (alarms : Alarms)
    (key : String) :
    Alarms × Bool :=
  let (keyed, agenda, wasPending) := alarms.keyed.cancel alarms.agenda key
  ({ alarms with keyed := keyed, agenda := agenda }, wasPending)

/-- Cancel the alarms under some keys; tells how many were known. -/
def cancelWhere
    (alarms : Alarms)
    (chosen : String → Bool) :
    Alarms × Nat :=
  let (keyed, agenda, count) :=
    alarms.keyed.cancelWhere alarms.agenda chosen
  ({ alarms with keyed := keyed, agenda := agenda }, count)

/-- Cancel every alarm. -/
def cancelAll
    (alarms : Alarms) :
    Alarms :=
  let (keyed, agenda) := alarms.keyed.cancelAll alarms.agenda
  { alarms with keyed := keyed, agenda := agenda }

/-- Whether an alarm under a key has yet to ring. -/
def isPending
    (alarms : Alarms)
    (key : String) :
    Bool :=
  alarms.keyed.isPending alarms.agenda key

/-- How many alarms have yet to ring. -/
def pending
    (alarms : Alarms) :
    Nat :=
  alarms.keyed.pending alarms.agenda

/-- Start a loose task; tells whether it was taken. -/
def start
    (alarms : Alarms)
    (delay : Nat)
    (label : String) :
    Alarms × Bool :=
  if alarms.hasClock then
    let (agenda, ticket) := alarms.agenda.spawn (.fresh delay label)
    ({ alarms with agenda := agenda, loose := alarms.loose ++ [ticket] },
      true)
  else
    (alarms, false)

/-- How many loose tasks have yet to end. -/
def running
    (alarms : Alarms) :
    Nat :=
  (alarms.loose.filter alarms.agenda.isLive).length

/-- End all loose tasks. -/
def abortTasks
    (alarms : Alarms) :
    Alarms :=
  { alarms with
    agenda := alarms.loose.foldl Agenda.abort alarms.agenda,
    loose := [] }

end Alarms

end Mockup
