import Mockup.Session.Run
import Mockup.Visibility

namespace Mockup

/-- The stage at which a document value starts as an action. -/
def Stage.ofValue
    (value : Value)
    (depth : Nat) :
    Stage :=
  match Action.ofValue value with
  | .ok action =>
      .start action depth
  | .error _ =>
      .void

namespace Session

/-!
# Controlling a session

How a session is started and stopped, and what may be asked of it from
outside its actions.
-/

/-! ## Starting -/

/-- A session that is not wired yet and watches nothing. -/
def inert
    (app : AppDocument)
    (settings : Settings)
    (capacity : Nat) :
    Session where
  settings :=
    settings
  store :=
    .ofApp app
  pages :=
    .ofApp app capacity

/-- How many pages a session keeps: the application's limit comes first. -/
def pageCapacity
    (app : AppDocument)
    (settings : Settings) :
    Nat :=
  app.router.historyLimit.getD settings.stackCapacity

/-- Register a watcher. -/
def addWatcher
    (session : Session)
    (path : String)
    (config : WatchConfig)
    (depth : Nat) :
    Session :=
  let context : WatchContext := ⟨session.store.state, depth⟩
  match session.watch.add path config context with
  | (watch, some firing) =>
      { session with watch := watch }.trigger firing
  | (watch, none) =>
      { session with watch := watch }

/-- Register a declared watcher; a declaration that does not read is not. -/
def addDeclared
    (session : Session)
    (declaration : WatchDeclaration) :
    Session :=
  match WatchConfig.ofValue? declaration.config with
  | some config =>
      session.addWatcher declaration.path config 0
  | none =>
      session

/--
Start the session of an application, with the watchers it declares and with
functions that its expressions may call.
-/
def boot
    (app : AppDocument)
    (settings : Settings)
    (functions : Registry := .defaults) :
    Session :=
  let unwired := inert app settings (pageCapacity app settings)
  app.watchDeclarations.foldl addDeclared
    { unwired with
      watch := { functions := functions },
      wiring := some { isObserved := true } }

/-! ## Wiring -/

/-- Change the wiring; an inert session has none to change. -/
def rewire
    (session : Session)
    (change : Wiring → Wiring) :
    Session :=
  { session with wiring := session.wiring.map change }

/-- Wire a session. -/
def wire
    (session : Session)
    (wiring : Wiring) :
    Session :=
  { session with wiring := some wiring }

/-- A delay comes to nothing when the session goes inert. -/
def woken? : Job → Option Job
  | .task ⟨origin, .rested _ _, settled⟩ =>
      some (.task ⟨origin, .void, settled⟩)
  | _ =>
      none

/-- Make a session inert: no toast timer, no delay, and no wiring. -/
def destroy
    (session : Session) :
    Session :=
  let calm := session.disarmToast
  { calm with agenda := calm.agenda.rouse woken?, wiring := none }

/-- Stop the session: nothing that watchers started goes on. -/
def shutdown
    (session : Session) :
    Session :=
  let quiet :=
    { session with toWatchDesk := session.toWatchDesk.clear }.destroy
  { quiet with
    agenda := quiet.agenda.filter fun entry => !isCascade entry.job,
    pages := quiet.pages.destroy }

/-! ## Actions -/

/-- What expressions are evaluated in, in the present state. -/
def environment
    (session : Session) :
    Environment where
  state :=
    session.store.state
  functions :=
    session.functions

/-- The value of an expression in the present state. -/
def evaluate
    (session : Session)
    (expression : Value) :
    Option Value :=
  session.environment.evaluate expression

/-- A value with its expressions evaluated; an undefined one is null. -/
def evaluated
    (session : Session)
    (value : Value) :
    Value :=
  (session.evaluate value).getD .null

/-- Start a task; its ticket names it. -/
def launch
    (session : Session)
    (origin : Origin)
    (stage : Stage) :
    Session × Nat :=
  session.spawn (.task ⟨origin, stage, none⟩)

/-- How the task with a ticket ended, according to the journal. -/
def outcome?
    (session : Session)
    (ticket : Nat) :
    Option Outcome :=
  session.journal.findSome? fun occurrence =>
    match occurrence with
    | .finished _ finished _ outcome =>
        if finished = ticket then some outcome else none
    | _ =>
        none

/-- Start a task and wait for its end. -/
def dispatch
    (session : Session)
    (stage : Stage) :
    Session × Option Outcome :=
  let (launched, ticket) := session.launch .dispatched stage
  let after := launched.await ticket
  (after, after.outcome? ticket)

/-! ## State, watchers and visibility -/

/-- Write into the state from outside any action, and show the change. -/
def setState
    (session : Session)
    (path : String)
    (value : Value) :
    Attempt Unit :=
  let (store, outcome) := session.store.set path value
  let written := { session with store := store }
  match outcome with
  | .error failure =>
      written.refuse failure
  | .ok write =>
      (written.notify ⟨write.path, some value, write.old⟩
        ⟨store.state, 0⟩).succeed ()

/-- Remove all watchers of a path; tells how many there were. -/
def removeWatchers
    (session : Session)
    (path : String) :
    Session × Nat :=
  let (desk, count) := session.toWatchDesk.removeAll path
  ({ session with toWatchDesk := desk }, count)

/-- Remove one watcher of a path; tells whether there was such a one. -/
def removeWatcher
    (session : Session)
    (path : String)
    (config : WatchConfig) :
    Session × Bool :=
  let (desk, found) := session.toWatchDesk.remove path config
  ({ session with toWatchDesk := desk }, found)

/-- Whether a node is to be shown in the present state. -/
def isEligible
    (session : Session)
    (node : Value) :
    Bool :=
  Visibility.isEligible session.environment node

/-- The component tree of the current page. -/
def pageTree?
    (session : Session) :
    Option Value :=
  session.pages.currentPage?.map Page.componentTree

end Session

end Mockup
