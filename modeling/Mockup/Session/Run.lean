import Mockup.Clockwork
import Mockup.Session.Perform

namespace Mockup

namespace Session

/-!
# Running a session

A step runs the next job of the agenda: a timer starts to wait or does its
errand, and a task takes one action as far as it goes without waiting.  What
follows from an action is done in the same task, before any other job.
-/

/-- What becomes of a task. -/
inductive Progress where
  | ended (outcome : Outcome)
  /-- The outcome is clear, and a further action is to be carried out. -/
  | follow (outcome : Outcome) (stage : Stage)
  | wait (delay : Nat) (stage : Stage)

/--
What becomes of a task after an attempt for an action.  A failure starts the
action for it, which is told why, unless the action is passed over.
-/
def conclude
    (action : Action)
    (depth : Nat) :
    Except Failure Sequel → Progress
  | .ok (.finish outcome) =>
      .ended outcome
  | .ok (.follow next) =>
      .follow .completed (.start next (depth + 1))
  | .ok (.wait delay stage) =>
      .wait delay stage
  | .error failure =>
      if failure.isPassedOver then
        .ended .skipped
      else
        match action.onError with
        | some fallback =>
            let told :=
              fallback.withParam "error" (.string failure.explanation)
            .follow .recovered (.start told (depth + 1))
        | none =>
            .ended .failed

/-- Take an action further. -/
def advanceStage
    (session : Session)
    (ticket : Nat) :
    Stage → Session × Progress
  | .start action depth =>
      if session.settings.cascadeLimit < depth then
        (session, .ended .failed)
      else
        match session.wiring with
        | none =>
            (session, .ended .skipped)
        | some wiring =>
            let begun := session.note (.performed ticket action depth)
            let attempt := begun.perform wiring action depth
            (attempt.session, conclude action depth attempt.outcome)
  | .answered wiring action depth =>
      let attempt := session.receive ticket wiring action depth
      (attempt.session, conclude action depth attempt.outcome)
  | .rested action depth =>
      (session,
        conclude action depth (.ok (.ofNext action.kind.followUp?)))
  | .void =>
      (session, .ended .skipped)

/-- Run a task as far as its present action goes without waiting. -/
def runTask
    (session : Session)
    (ticket : Nat)
    (task : Task) :
    Session :=
  match session.advanceStage ticket task.stage with
  | (after, .ended outcome) =>
      after.note
        (.finished after.agenda.now ticket task.origin
          (task.settled.getD outcome))
  | (after, .follow outcome stage) =>
      let going : Task :=
        ⟨task.origin, stage, some (task.settled.getD outcome)⟩
      { after with agenda := after.agenda.goOn ⟨ticket, .task going⟩ }
  | (after, .wait 0 stage) =>
      let going : Task := ⟨task.origin, stage, task.settled⟩
      { after with agenda := after.agenda.goOn ⟨ticket, .task going⟩ }
  | (after, .wait delay stage) =>
      let waiting : Task := ⟨task.origin, stage, task.settled⟩
      { after with
        agenda := after.agenda.arm delay ⟨ticket, .task waiting⟩ }

/-- Do the errand of a timer. -/
def runErrand
    (session : Session) :
    Errand → Session
  | .hideToast =>
      let noted := session.note (.toastElapsed session.agenda.now)
      match noted.wiring with
      | some wiring =>
          (noted.present wiring .hideToast).session
      | none =>
          noted
  | .fire firing =>
      match session.watch.fire firing with
      | (watch, some fired) =>
          { session with watch := watch }.trigger fired
      | (watch, none) =>
          { session with watch := watch }

/-- Run a job that has been taken off the agenda. -/
def runJob
    (session : Session)
    (ticket : Nat) :
    Job → Session
  | .timer timer =>
      if timer.delay = 0 then
        session.runErrand timer.work
      else
        let waiting := Job.timer (.elapsed timer.work)
        { session with
          agenda := session.agenda.arm timer.delay ⟨ticket, waiting⟩ }
  | .task task =>
      session.runTask ticket task

/-- Run the next job. -/
def step?
    (session : Session) :
    Option Session :=
  match session.agenda.next? with
  | none =>
      none
  | some (entry, agenda) =>
      some ({ session with agenda := agenda }.runJob entry.ticket entry.job)

/-- How many watchers are registered. -/
def watcherCount
    (session : Session) :
    Nat :=
  session.watch.info.foldl (fun count entry => count + entry.2) 0

/--
How a session runs.  An action starts at most one timer of its own, one
further action, and for each watcher a timer and an action, all of them one
level deeper in the cascade; no action is carried out beyond the limit.
-/
def clockwork : Clockwork Session where
  step? :=
    step?
  deadline? :=
    fun session => session.agenda.deadline?
  moveTo :=
    fun time session =>
      { session with agenda := session.agenda.moveTo time }
  effort :=
    fun session =>
      session.agenda.entries.length + 1 +
        (session.settings.cascadeLimit + 2) * (session.watcherCount + 8)

/-- Let everything that is ready run. -/
def settle
    (session : Session) :
    Session :=
  clockwork.settle session

/-- Let some time pass. -/
def advance
    (session : Session)
    (time : Nat) :
    Session :=
  clockwork.runTo (session.agenda.now + time) session

/-- Whether the job with a ticket has come to its end. -/
def hasEnded
    (session : Session)
    (ticket : Nat) :
    Bool :=
  !session.agenda.isLive ticket

/-- Let as much time pass as a job needs. -/
def await
    (session : Session)
    (ticket : Nat) :
    Session :=
  clockwork.runUntil (fun current => current.hasEnded ticket) session

end Session

end Mockup
