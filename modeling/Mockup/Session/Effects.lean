import Mockup.Action.Reader
import Mockup.Session.Basic

namespace Mockup

namespace Session

/-!
# Effects

What actions do to a session.  An effect hands the session back together with
its result or with the failure it ended in; what it did before the failure
stands.
-/

/-- A session after something was tried, and how that went. -/
structure Attempt (α : Type) where
  session : Session
  outcome : Except Failure α

namespace Attempt

/-- Go on after a success; a failure ends the attempt. -/
def andThen
    (attempt : Attempt α)
    (next : Session → α → Attempt β) :
    Attempt β :=
  match attempt.outcome with
  | .ok result =>
      next attempt.session result
  | .error failure =>
      ⟨attempt.session, .error failure⟩

end Attempt

/-- An attempt that succeeds without doing anything. -/
def succeed
    (session : Session)
    (result : α) :
    Attempt α :=
  ⟨session, .ok result⟩

/-- An attempt that fails without doing anything. -/
def refuse
    (session : Session)
    (failure : Failure) :
    Attempt α :=
  ⟨session, .error failure⟩

/-! ## Watchers -/

/-- The value that a watcher's action has when it fires. -/
def firedValue
    (functions : Registry)
    (firing : Firing) :
    Value :=
  match firing.config.action with
  | .string kind =>
      .map [("type", .string kind)]
  | action =>
      ((firing.change.environment functions firing.context).evaluate
        action).getD .null

/--
A watcher fires: its action becomes a task of its own, one level deeper than
the change.  A value that is no action is passed over.
-/
def trigger
    (session : Session)
    (firing : Firing) :
    Session :=
  let noted := session.note (.fired firing)
  match Action.ofValue (firedValue session.functions firing) with
  | .ok action =>
      let stage := Stage.start action (firing.context.depth + 1)
      (noted.spawn (.task ⟨.cascade, stage, none⟩)).1
  | .error _ =>
      noted

/-- Do what a watcher wants done. -/
def carryOut
    (session : Session) :
    Watch.Reaction → Session
  | .fire firing =>
      session.trigger firing
  | .arm delay firing =>
      { session with
        toWatchDesk :=
          session.toWatchDesk.schedule firing.key
            (.timer (.fresh delay (.fire firing))) }

/-- Show a change to the watchers. -/
def notify
    (session : Session)
    (change : StateChange)
    (context : WatchContext) :
    Session :=
  let noted := session.note (.notified change context)
  let (watch, reactions) :=
    noted.watch.notify ⟨noted.agenda.now, true⟩ change context
  reactions.foldl carryOut { noted with watch := watch }

/-! ## State and pages -/

/-- Show a change to the observer, who may crash when the watchers know it. -/
def observe
    (session : Session)
    (wiring : Wiring)
    (change : StateChange)
    (context : WatchContext) :
    Attempt Unit :=
  if wiring.isObserved then
    ⟨session.notify change context,
      Failure.guarded "state observer"
        (wiring.observerCrash? change context)⟩
  else
    session.succeed ()

/--
Write into the state, and show the change to those who observe it.  The write
stands even if the observer crashes.
-/
def commit
    (session : Session)
    (wiring : Wiring)
    (path : String)
    (value : Value)
    (depth : Nat) :
    Attempt StateWrite :=
  let (store, outcome) := session.store.set path value
  let written := { session with store := store }
  match outcome with
  | .error failure =>
      written.refuse failure
  | .ok write =>
      let change : StateChange := ⟨write.path, some value, write.old⟩
      let observed := written.observe wiring change ⟨store.state, depth⟩
      observed.session.succeed write

/-- Change the pages, and let the listeners hear of it. -/
def movePages
    (session : Session)
    (move : PageStack → PageStack × Except Failure α) :
    Attempt α :=
  let (moved, outcome) := move session.pages
  let (pages, deliveries) := moved.deliver
  ⟨deliveries.foldl (fun told delivery => told.note (.delivered delivery))
    { session with pages := pages }, outcome⟩

/-! ## The user -/

/-- Show something to the user. -/
def present
    (session : Session)
    (wiring : Wiring)
    (shown : Presentation) :
    Attempt Unit :=
  let after :=
    if wiring.presenter.isShowing then
      session.note (.presented session.agenda.now shown)
    else
      session
  ⟨after, Failure.guarded shown.call (wiring.presenter.crash? shown)⟩

/-- Hide the toast after a time, instead of when it was to be hidden. -/
def armToast
    (session : Session)
    (duration : Nat) :
    Session :=
  let (timer, agenda) :=
    session.toastTimer.schedule session.agenda ()
      (.timer (.fresh duration .hideToast))
  { session with toastTimer := timer, agenda := agenda }

/-- Let the toast stay. -/
def disarmToast
    (session : Session) :
    Session :=
  let (timer, agenda) := session.toastTimer.cancelAll session.agenda
  { session with toastTimer := timer, agenda := agenda }

end Session

end Mockup
