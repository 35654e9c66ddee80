import Mockup.Network
import Mockup.PageStack
import Mockup.Session.Presenter
import Mockup.Settings.Basic
import Mockup.Store
import Mockup.Watch.Desk

namespace Mockup

/-!
# Sessions

A session is a running application: its state, its pages, its watchers, the
network it talks to and the jobs that are under way.  Actions take effect
through the wiring; without it the session is inert.  A journal tells what
has happened.
-/

/-- How an action ended. -/
inductive Outcome where
  /-- It took effect. -/
  | completed
  /-- It was passed over. -/
  | skipped
  /-- It failed, and the action for its failure was started. -/
  | recovered
  /-- It failed, or it lies too deep in a cascade. -/
  | failed
  deriving Repr, DecidableEq

/-- The network that requests go to. -/
inductive Line where
  | session
  | stock
  deriving Repr, DecidableEq

/-- What actions take effect through. -/
structure Wiring where
  presenter : Presenter := .silent
  line : Line := .stock
  /-- Whether watchers are shown the changes that actions make. -/
  isObserved : Bool := false
  /-- Why the observer crashes after it has shown a change, if it does. -/
  observerCrash? : StateChange → WatchContext → Option String :=
    fun _ _ => none

/-- How far an action has got. -/
inductive Stage where
  /-- It has yet to be carried out. -/
  | start (action : Action) (depth : Nat)
  /-- The answer to its request is there. -/
  | answered (wiring : Wiring) (action : Action) (depth : Nat)
  /-- Its delay is over. -/
  | rested (action : Action) (depth : Nat)
  /-- There is nothing left to do. -/
  | void

/-- Where a task comes from. -/
inductive Origin where
  | dispatched
  | named (name : String)
  | cascade
  deriving Repr, DecidableEq

/-- An action with everything that follows from it in turn. -/
structure Task where
  origin : Origin
  stage : Stage
  /-- The outcome of the action that the task began with, once it is clear. -/
  settled : Option Outcome := none

/-- What timers are for. -/
inductive Errand where
  | hideToast
  | fire (firing : Firing)
  deriving Repr

/-- What stands on the agenda of a session. -/
inductive Job where
  | timer (timer : Timer Errand)
  | task (task : Task)

/-- Something that has happened. -/
inductive Occurrence where
  /-- A listener heard of a change of the pages. -/
  | delivered (delivery : PageDelivery)
  /-- Something was shown to the user. -/
  | presented (time : Nat) (shown : Presentation)
  /-- A task began to carry out an action. -/
  | performed (ticket : Nat) (action : Action) (depth : Nat)
  /-- A task was given the response to its request. -/
  | responded (ticket : Nat) (url : String) (response : Value)
  /-- A change was shown to the watchers. -/
  | notified (change : StateChange) (context : WatchContext)
  /-- A watcher fired. -/
  | fired (firing : Firing)
  /-- The time of the toast was over. -/
  | toastElapsed (time : Nat)
  /-- A task came to its end. -/
  | finished
      (time ticket : Nat)
      (origin : Origin)
      (outcome : Outcome)

/-- A running application. -/
structure Session extends WatchDesk Job where
  settings : Settings
  store : Store
  pages : PageStack
  network : Network := .stock
  wiring : Option Wiring := none
  toastTimer : TimerTable Unit := {}
  journal : List Occurrence := []

namespace Session

/-- The application that is running. -/
def app
    (session : Session) :
    AppDocument :=
  session.pages.app

/-- The functions that expressions may call. -/
def functions
    (session : Session) :
    Registry :=
  session.watch.functions

/-- Whether actions can take effect. -/
def isWired
    (session : Session) :
    Bool :=
  session.wiring.isSome

/-- Note something that has happened. -/
def note
    (session : Session)
    (occurrence : Occurrence) :
    Session :=
  { session with journal := session.journal ++ [occurrence] }

/-- Put a job behind the ready ones. -/
def spawn
    (session : Session)
    (job : Job) :
    Session × Nat :=
  let (agenda, ticket) := session.agenda.spawn job
  ({ session with agenda := agenda }, ticket)

/-- Whether a job belongs to a cascade. -/
def isCascade : Job → Bool
  | .task task =>
      task.origin = .cascade
  | .timer _ =>
      false

/-- How many actions that watchers have started are under way. -/
def cascades
    (session : Session) :
    Nat :=
  (session.agenda.entries.filter fun entry =>
    isCascade entry.job).length

/-- The network at the end of a line. -/
def networkOf
    (session : Session) :
    Line → Network
  | .session =>
      session.network
  | .stock =>
      .stock

end Session

end Mockup
