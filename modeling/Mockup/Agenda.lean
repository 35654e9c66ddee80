namespace Mockup

/-!
# The agenda

Jobs take turns on one clock.  Ready jobs run first in, first out; a job that
waits is armed with a deadline.  The clock moves only when nothing is ready,
and then to the next deadline, where the jobs that are due become ready in
the order in which they were armed.

Every job has a ticket, and no ticket is given twice.
-/

/-- A job with its ticket. -/
structure Ticketed (J : Type) where
  ticket : Nat
  job : J
  deriving Repr

/-- A job that waits for its deadline. -/
structure Armed (J : Type) where
  deadline : Nat
  entry : Ticketed J
  deriving Repr

/-- The jobs that are ready and the jobs that wait. -/
structure Agenda (J : Type) where
  /-- The time on the clock, in milliseconds. -/
  now : Nat := 0
  nextTicket : Nat := 0
  /-- The ready jobs, the next one first. -/
  ready : List (Ticketed J) := []
  /-- The waiting jobs in the order in which they were armed. -/
  armed : List (Armed J) := []
  deriving Repr

namespace Agenda

variable {J : Type}

/-- All jobs on the agenda. -/
def entries
    (agenda : Agenda J) :
    List (Ticketed J) :=
  agenda.ready ++ agenda.armed.map Armed.entry

/-- Put a new job behind the ready ones; it is given the next ticket. -/
def spawn
    (agenda : Agenda J)
    (job : J) :
    Agenda J × Nat :=
  ({ agenda with
      nextTicket := agenda.nextTicket + 1,
      ready := agenda.ready ++ [⟨agenda.nextTicket, job⟩] },
    agenda.nextTicket)

/-- Take the next ready job off the agenda. -/
def next?
    (agenda : Agenda J) :
    Option (Ticketed J × Agenda J) :=
  match agenda.ready with
  | [] =>
      none
  | entry :: rest =>
      some (entry, { agenda with ready := rest })

/-- Put a job that has been taken off back in front of the ready ones. -/
def goOn
    (agenda : Agenda J)
    (entry : Ticketed J) :
    Agenda J :=
  { agenda with ready := entry :: agenda.ready }

/-- Let a job that has been taken off wait. -/
def arm
    (agenda : Agenda J)
    (delay : Nat)
    (entry : Ticketed J) :
    Agenda J :=
  { agenda with
    armed := agenda.armed ++ [⟨agenda.now + delay, entry⟩] }

/-- Whether the job with a ticket has yet to finish. -/
def isLive
    (agenda : Agenda J)
    (ticket : Nat) :
    Bool :=
  agenda.entries.any fun entry => entry.ticket = ticket

/-- Keep only some jobs. -/
def filter
    (agenda : Agenda J)
    (keep : Ticketed J → Bool) :
    Agenda J :=
  { agenda with
    ready := agenda.ready.filter keep,
    armed := agenda.armed.filter fun waiting => keep waiting.entry }

/-- Take the job with a ticket off the agenda for good. -/
def abort
    (agenda : Agenda J)
    (ticket : Nat) :
    Agenda J :=
  agenda.filter fun entry => entry.ticket ≠ ticket

/-- The next deadline. -/
def deadline?
    (agenda : Agenda J) :
    Option Nat :=
  (agenda.armed.map Armed.deadline).min?

/-- Move the clock forward; jobs that are due become ready. -/
def moveTo
    (agenda : Agenda J)
    (time : Nat) :
    Agenda J :=
  let due := agenda.armed.filter fun waiting => waiting.deadline ≤ time
  { agenda with
    now := max agenda.now time,
    ready := agenda.ready ++ due.map Armed.entry,
    armed :=
      agenda.armed.filter fun waiting => ¬ waiting.deadline ≤ time }

/--
Wake waiting jobs before their time: each job that `wake?` has a new form for
becomes ready in that form.
-/
def rouse
    (agenda : Agenda J)
    (wake? : J → Option J) :
    Agenda J :=
  let woken := agenda.armed.filterMap fun waiting =>
    (wake? waiting.entry.job).map (Ticketed.mk waiting.entry.ticket)
  { agenda with
    ready := agenda.ready ++ woken,
    armed :=
      agenda.armed.filter fun waiting =>
        (wake? waiting.entry.job).isNone }

end Agenda

end Mockup
