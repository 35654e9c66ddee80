import Mockup.Proofs.Session.Footprint

namespace Mockup

/-!
# Writes from outside and writes of actions

A value is written from outside of all actions, or by an action for it.  Both
come to the same write: the same states are left, and the same is shown to the
watchers.  The journal only tells in addition that an action was carried out,
what was shown to the user, and how the action ended.

No effect depends on what the journal has told before.
-/

/-- The change that was shown to the watchers, and the context it had. -/
def Occurrence.notice? : Occurrence → Option (StateChange × WatchContext)
  | .notified change context =>
      some (change, context)
  | _ =>
      none

namespace Session

/-! ## The past does not matter -/

/-- A session that remembers more of the past. -/
def recalling
    (session : Session)
    (past : List Occurrence) :
    Session :=
  { session with journal := past ++ session.journal }

/-- A session that remembers nothing. -/
def forgetful
    (session : Session) :
    Session :=
  { session with journal := [] }

theorem recalling_forgetful
    (session : Session) :
    session.forgetful.recalling session.journal = session := by
  simp [recalling, forgetful]

theorem note_eq_recalling
    (session : Session)
    (occurrence : Occurrence) :
    session.note occurrence =
      session.forgetful.recalling (session.journal ++ [occurrence]) := by
  simp [recalling, forgetful, note]

section

variable (session : Session) (past : List Occurrence)

@[simp] theorem note_recalling
    (occurrence : Occurrence) :
    (session.recalling past).note occurrence =
      (session.note occurrence).recalling past := by
  simp [recalling, note]

@[simp] theorem trigger_recalling
    (firing : Firing) :
    (session.recalling past).trigger firing =
      (session.trigger firing).recalling past := by
  have called : (session.recalling past).functions = session.functions :=
    rfl
  simp only [trigger, note_recalling, called]
  split
  · rfl
  · rfl

@[simp] theorem carryOut_recalling
    (reaction : Watch.Reaction) :
    (session.recalling past).carryOut reaction =
      (session.carryOut reaction).recalling past := by
  cases reaction with
  | fire firing =>
      exact trigger_recalling session past firing
  | arm delay firing =>
      rfl

theorem foldl_carryOut_recalling
    (reactions : List Watch.Reaction) :
    reactions.foldl carryOut (session.recalling past) =
      (reactions.foldl carryOut session).recalling past := by
  induction reactions generalizing session with
  | nil =>
      rfl
  | cons reaction reactions inductionHypothesis =>
      rw [List.foldl_cons, carryOut_recalling, inductionHypothesis]
      rfl

theorem notify_recalling
    (change : StateChange)
    (context : WatchContext) :
    (session.recalling past).notify change context =
      (session.notify change context).recalling past := by
  let noted := session.note (.notified change context)
  let answer := noted.watch.notify ⟨noted.agenda.now, true⟩ change context
  have carried :=
    foldl_carryOut_recalling { noted with watch := answer.1 } past
      answer.2
  rw [notify, note_recalling]
  exact carried

theorem observe_recalling
    (wiring : Wiring)
    (change : StateChange)
    (context : WatchContext) :
    ((session.recalling past).observe wiring change context).session =
      (session.observe wiring change context).session.recalling past := by
  rw [session_observe, session_observe, notify_recalling]
  split <;> rfl

/-- A write is shown whatever the journal has told before. -/
theorem commit_recalling
    (wiring : Wiring)
    (path : String)
    (value : Value)
    (depth : Nat) :
    (session.recalling past).commit wiring path value depth =
      ⟨(session.commit wiring path value
            depth).session.recalling past,
        (session.commit wiring path value depth).outcome⟩ := by
  cases written : session.store.set path value with
  | mk store outcome =>
      have same :
          (session.recalling past).store.set path value =
            (store, outcome) :=
        written
      simp only [commit, written, same]
      cases outcome with
      | error failure =>
          rfl
      | ok write =>
          have shown :=
            observe_recalling { session with store := store } past wiring
              ⟨write.path, some value, write.old⟩ ⟨store.state, depth⟩
          exact congrArg (fun after => after.succeed write) shown

end

/-! ## One write -/

/-- A write from outside is a write that is shown, at the top of a cascade. -/
theorem setState_eq_commit
    (session : Session)
    {wiring : Wiring}
    (observed : wiring.isObserved = true)
    (path : String)
    (value : Value) :
    session.setState path value =
      (session.commit wiring path value 0).andThen
        fun written _ => written.succeed () := by
  cases written : session.store.set path value with
  | mk store outcome =>
      simp only [setState, commit, written, session_observe, observed,
        if_true]
      cases outcome with
      | error failure =>
          rfl
      | ok write =>
          rfl

/-- A write that is refused leaves the session as it was. -/
theorem commit_of_error
    {session : Session}
    {wiring : Wiring}
    {path : String}
    {value : Value}
    {depth : Nat}
    {failure : Failure}
    (refused :
      (session.commit wiring path value depth).outcome =
        .error failure) :
    (session.commit wiring path value depth).session = session := by
  have outcome :=
    (commit_eq_set session wiring path value depth).2
  rw [refused] at outcome
  have sameStore := Store.set_of_error outcome.symm
  cases written : session.store.set path value with
  | mk store result =>
      rw [written] at outcome sameStore
      cases outcome
      cases sameStore
      simp only [commit, written]
      rfl

/-- Watchers that answer a change show no further one. -/
theorem notices_notify
    (session : Session)
    (change : StateChange)
    (context : WatchContext) :
    ((session.notify change context).journal.filterMap
        Occurrence.notice?) =
      session.journal.filterMap Occurrence.notice? ++
        [(change, context)] := by
  have triggered :
      ∀ (current : Session) (firing : Firing),
        (current.trigger firing).journal =
          current.journal ++ [.fired firing] := by
    intro current firing
    unfold trigger
    simp only
    split <;> rfl
  have carried :
      ∀ (reactions : List Watch.Reaction) (current : Session),
        (reactions.foldl carryOut current).journal.filterMap
            Occurrence.notice? =
          current.journal.filterMap Occurrence.notice? := by
    intro reactions
    induction reactions with
    | nil =>
        exact fun _ => rfl
    | cons reaction reactions inductionHypothesis =>
        intro current
        rw [List.foldl_cons, inductionHypothesis]
        cases reaction with
        | fire firing =>
            simp [carryOut, triggered, Occurrence.notice?]
        | arm delay firing =>
            rfl
  unfold notify
  simp only
  rw [carried]
  simp [note, Occurrence.notice?]

/-- What the journal has of something that is shown to the user. -/
def shownBy
    (session : Session)
    (wiring : Wiring)
    (shown : Presentation) :
    List Occurrence :=
  if wiring.presenter.isShowing then
    [.presented session.agenda.now shown]
  else
    []

theorem present_of_calm
    (session : Session)
    {wiring : Wiring}
    {shown : Presentation}
    (calm : wiring.presenter.crash? shown = none) :
    session.present wiring shown =
      ({ session with
          journal :=
            session.journal ++
              session.shownBy wiring shown } : Session).succeed () := by
  simp only [present, calm, shownBy]
  split
  · rfl
  · simp [succeed, Failure.guarded]

/-- An observed write that succeeds shows its change, and no other. -/
theorem notices_commit
    {session : Session}
    {wiring : Wiring}
    (observed : wiring.isObserved = true)
    {path : String}
    {value : Value}
    {depth : Nat}
    {write : StateWrite}
    (succeeds :
      (session.commit wiring path value depth).outcome = .ok write) :
    (session.commit wiring path value depth).session.journal.filterMap
        Occurrence.notice? =
      session.journal.filterMap Occurrence.notice? ++
        [(⟨write.path, some value, write.old⟩,
          ⟨(session.commit wiring path value depth).session.store.state,
            depth⟩)] := by
  obtain ⟨sameStore, outcome⟩ :=
    commit_eq_set session wiring path value depth
  rw [sameStore]
  rw [succeeds] at outcome
  cases written : session.store.set path value with
  | mk store result =>
      rw [written] at outcome
      cases outcome
      simp only [commit, written, session_observe, observed, if_true]
      exact notices_notify { session with store := store } _ _

/-- A write from outside is a write without a past, recalled afterwards. -/
theorem setState_eq_recalling
    (session : Session)
    {wiring : Wiring}
    (observed : wiring.isObserved = true)
    (path : String)
    (value : Value) :
    let made := session.forgetful.commit wiring path value 0
    session.setState path value =
      ⟨made.session.recalling session.journal,
        made.outcome.map fun _ => ()⟩ := by
  intro made
  have recalled :
      session.commit wiring path value 0 =
        ⟨made.session.recalling session.journal, made.outcome⟩ := by
    rw [← commit_recalling, recalling_forgetful]
  rw [setState_eq_commit session observed, recalled]
  cases outcome : made.outcome <;> rfl

/-- An action that writes is that same write, recalled afterwards. -/
theorem advanceStage_updateState
    {session : Session}
    {wiring : Wiring}
    {path : String}
    (wired : session.wiring = some wiring)
    (calm : ∀ shown, wiring.presenter.crash? shown = none)
    (named : (Text.trim path.toList).isEmpty = false)
    (value : Value)
    (params : Entries Value)
    (ticket : Nat) :
    let action : Action := ⟨.updateState path value, params, none⟩
    let performed : Occurrence := .performed ticket action 0
    let made := session.forgetful.commit wiring path value 0
    session.advanceStage ticket (.start action 0) =
      match made.outcome with
      | .ok write =>
          ({ made.session with
              journal :=
                session.journal ++ [performed] ++ made.session.journal ++
                  made.session.shownBy wiring
                    (.stateUpdate write.path value) },
            .ended .completed)
      | .error failure =>
          (made.session.recalling (session.journal ++ [performed]),
            .ended (if failure.isPassedOver then .skipped else .failed)) := by
  intro action performed made
  have recalled :
      (session.note performed).commit wiring path value 0 =
        ⟨made.session.recalling (session.journal ++ [performed]),
          made.outcome⟩ := by
    rw [note_eq_recalling, commit_recalling]
  have shallow : ¬ session.settings.cascadeLimit < 0 :=
    Nat.not_lt_zero _
  have performs :
      (session.note performed).perform wiring action 0 =
        ((session.note performed).commit wiring path value 0).andThen
          fun written write =>
            (written.present wiring
              (.stateUpdate write.path value)).andThen
                fun shown _ => shown.succeed completed := by
    simp only [perform, action, updateState, named, Bool.false_eq_true,
      if_false]
  simp only [advanceStage, if_neg shallow, wired]
  rw [performs, recalled]
  cases outcome : made.outcome with
  | error failure =>
      simp only [Attempt.andThen, conclude, action]
      split <;> rfl
  | ok write =>
      simp only [Attempt.andThen, present_of_calm _ (calm _)]
      rfl

/-! ## Dispatching -/

/-- A task that is over is reported on no more. -/
theorem Runs.outcome?_of_lacks
    {ticket : Nat}
    {first last : Session}
    {shown : List Presentation}
    (runs : Runs ticket first last shown)
    (lacks : first.agenda.Lacks ticket) :
    last.outcome? ticket = first.outcome? ticket ∧
      last.agenda.Lacks ticket := by
  induction runs with
  | rest =>
      exact ⟨rfl, lacks⟩
  | @step before after mover _ _ moves inductionHypothesis =>
      obtain ⟨outcome, stillLacks⟩ := inductionHypothesis
      have foreign : mover ≠ some ticket := by
        rintro rfl
        obtain ⟨entry, _, takes, isOwn, _⟩ :=
          (Happens.moved moves).exists_takes
        exact stillLacks.absent entry
          (takes.perm.mem_iff.mpr List.mem_cons_self) isOwn
      have leaves := moves.leaves stillLacks.given foreign
      exact ⟨leaves.outcome.trans outcome,
        leaves.lacks moves.nextTicket_le stillLacks⟩

/-- Waiting for a task begins with the next step, if there is one. -/
theorem exists_runs_await_of_step?
    (ticket : Nat)
    {session next : Session}
    (stepped : session.step? = some next) :
    ∃ shown, Runs ticket next (session.await ticket) shown := by
  let mayMove : Session → Nat → Bool :=
    fun current _ => !current.hasEnded ticket
  have once : clockwork.runWithin mayMove 1 session = next := by
    have isStep : clockwork.step? session = some next :=
      stepped
    simp only [Clockwork.runWithin, isStep]
  change ∃ shown,
    Runs ticket next
      (clockwork.runDoubling mayMove (clockwork.effort session) 1 session)
      shown
  cases clockwork.effort session with
  | zero =>
      rw [Clockwork.runDoubling, once]
      exact ⟨[], .rest⟩
  | succ rounds =>
      rw [Clockwork.runDoubling]
      simp only [once]
      split
      · exact ⟨[], .rest⟩
      · exact exists_runs_runDoubling ticket mayMove rounds (2 * 1) next

theorem runTask_of_ended
    {session after : Session}
    {ticket : Nat}
    {stage : Stage}
    {outcome : Outcome}
    (origin : Origin)
    (advanced :
      session.advanceStage ticket stage = (after, .ended outcome)) :
    session.runTask ticket ⟨origin, stage, none⟩ =
      after.note (.finished after.agenda.now ticket origin outcome) := by
  simp [runTask, advanced]

/-- The session in which a task that was launched alone has its turn. -/
def turn
    (session : Session) :
    Session :=
  { session with
    agenda :=
      { session.agenda with
        nextTicket := session.agenda.nextTicket + 1,
        ready := [] } }

/-- A task has its turn at once when nothing else is ready. -/
theorem next?_launch
    {session : Session}
    (idle : session.agenda.ready = [])
    (origin : Origin)
    (stage : Stage) :
    (session.launch origin stage).1.agenda.next? =
      some
        (⟨session.agenda.nextTicket, .task ⟨origin, stage, none⟩⟩,
          session.turn.agenda) := by
  have ready :
      (session.launch origin stage).1.agenda.ready =
        [⟨session.agenda.nextTicket, .task ⟨origin, stage, none⟩⟩] := by
    change session.agenda.ready ++ _ = _
    rw [idle]
    rfl
  simp only [Agenda.next?, ready]
  rfl

theorem step?_launch
    {session : Session}
    (idle : session.agenda.ready = [])
    (origin : Origin)
    (stage : Stage) :
    (session.launch origin stage).1.step? =
      some
        (session.turn.runTask session.agenda.nextTicket
          ⟨origin, stage, none⟩) := by
  simp only [step?, next?_launch idle]
  rfl

/--
A dispatched action has its turn at once when nothing else is ready, and if it
comes to its end there, that is how the dispatch ends.
-/
theorem outcome_dispatch_of_ended
    {session : Session}
    (orderly : IsOrderly session)
    (nothingReady : session.agenda.ready = [])
    {stage : Stage}
    {outcome : Outcome}
    (ends :
      ∀ turn : Session,
        turn.store = session.store →
        turn.wiring = session.wiring →
        (turn.advanceStage session.agenda.nextTicket stage).2 =
          .ended outcome) :
    (session.dispatch stage).2 = some outcome := by
  let ticket := session.agenda.nextTicket
  let task : Task := ⟨.dispatched, stage, none⟩
  let launched := (session.launch .dispatched stage).1
  have stepped :
      launched.step? = some (session.turn.runTask ticket task) :=
    step?_launch nothingReady .dispatched stage
  have launchedOrderly : IsOrderly launched :=
    orderly.launch .dispatched stage
  have isNext := next?_launch nothingReady .dispatched stage
  have lacks : session.turn.agenda.Lacks ticket :=
    (launchedOrderly.agenda.taken (Agenda.takes_of_next? isNext)).2
  obtain ⟨sameOutcome, stillLacks⟩ :=
    advanceStage_own session.turn ticket stage lacks
  have unfinished : session.turn.outcome? ticket = none :=
    orderly.outcomes ticket (Nat.le_refl _)
  have concluded := concluded_runTask session.turn ticket task
  obtain ⟨_, runs⟩ := exists_runs_await_of_step? ticket stepped
  have ended :
      (session.turn.advanceStage ticket task.stage).2 = .ended outcome :=
    ends session.turn rfl rfl
  rw [ended] at concluded
  generalize session.turn.runTask ticket task = after at concluded runs
  cases concluded
  change (launched.await ticket).outcome? ticket = some outcome
  have reported :=
    (runs.outcome?_of_lacks ⟨stillLacks.given, stillLacks.absent⟩).1
  rw [reported, outcome?_note_finished, sameOutcome, unfinished]
  simp [task]

/-- A write succeeds or fails by what the store says. -/
theorem outcome_setState
    (session : Session)
    (path : String)
    (value : Value) :
    (session.setState path value).outcome =
      (session.store.set path value).2.map fun _ => () := by
  unfold setState
  simp only
  cases (session.store.set path value).2 <;> rfl

section

variable
  {session : Session}
  {wiring : Wiring}
  {path : String}
  {value : Value}
  (wired : session.wiring = some wiring)
  (observed : wiring.isObserved = true)
  (calm : ∀ shown, wiring.presenter.crash? shown = none)
  (named : (Text.trim path.toList).isEmpty = false)
include wired observed calm named

/-- An action writes what could be written from outside, with the same news. -/
theorem advanceStage_of_written
    (succeeds : (session.setState path value).outcome = .ok ())
    (params : Entries Value)
    (ticket : Nat) :
    let action : Action := ⟨.updateState path value, params, none⟩
    let written := (session.setState path value).session
    ∃ news,
      news.filterMap Occurrence.notice? =
          [(⟨Path.normalize path, some value, session.store.get? path⟩,
            ⟨written.store.state, 0⟩)] ∧
        written.journal = session.journal ++ news ∧
        session.advanceStage ticket (.start action 0) =
          ({ written with
              journal :=
                session.journal ++ [.performed ticket action 0] ++ news ++
                  written.shownBy wiring
                    (.stateUpdate (Path.normalize path) value) },
            .ended .completed) := by
  intro action written
  let made := session.forgetful.commit wiring path value 0
  have outside := setState_eq_recalling session observed path value
  have inside :=
    advanceStage_updateState wired calm named value params ticket
  have isSet := (commit_eq_set session.forgetful wiring path value 0).2
  cases outcome : made.outcome with
  | error failure =>
      rw [outside] at succeeds
      simp only [made] at outcome
      simp [outcome, Except.map] at succeeds
  | ok write =>
      have isWritten : written = made.session.recalling session.journal := by
        simp only [written, outside]
        rfl
      rw [outcome] at isSet
      obtain ⟨rfl, _⟩ := Store.eq_of_set isSet.symm
      have notices := notices_commit observed outcome
      refine ⟨made.session.journal, ?_, ?_, ?_⟩
      · rw [isWritten]
        exact notices
      · rw [isWritten]
        rfl
      · rw [inside, isWritten]
        simp only [made] at outcome
        simp only [outcome]
        rfl

/-- An action that writes is refused as the write from outside is. -/
theorem advanceStage_of_refused
    {failure : Failure}
    (refused : (session.setState path value).outcome = .error failure)
    (params : Entries Value)
    (ticket : Nat) :
    let action : Action := ⟨.updateState path value, params, none⟩
    (session.setState path value).session = session ∧
      session.advanceStage ticket (.start action 0) =
        (session.note (.performed ticket action 0),
          .ended (if failure.isPassedOver then .skipped else .failed)) := by
  intro action
  let made := session.forgetful.commit wiring path value 0
  have outside := setState_eq_recalling session observed path value
  have inside :=
    advanceStage_updateState wired calm named value params ticket
  cases outcome : made.outcome with
  | ok write =>
      rw [outside] at refused
      simp only [made] at outcome
      simp [outcome, Except.map] at refused
  | error found =>
      rw [outside] at refused ⊢
      simp only [made] at outcome
      simp only [outcome, Except.map, Except.error.injEq] at refused
      subst refused
      rw [inside]
      simp only [outcome, commit_of_error outcome]
      rw [recalling_forgetful, ← note_eq_recalling]
      exact ⟨rfl, rfl⟩

end

/--
A value written from outside and an action that writes it come to the same, as
long as nothing fails that is shown to the user.  The write succeeds exactly
if the action is completed.  Then the sessions agree but for the journal, which
has the same news of both: the watchers were shown the one change, from what
was there to the new value at the canonical path, with the state that was left
and at the top of a cascade.  A write that is refused leaves the session as it
was, and so does the action but for the journal.
-/
theorem updateState_agrees_with_setState
    {session : Session}
    {wiring : Wiring}
    {path : String}
    (orderly : IsOrderly session)
    (wired : session.wiring = some wiring)
    (observed : wiring.isObserved = true)
    (calm : ∀ shown, wiring.presenter.crash? shown = none)
    (named : (Text.trim path.toList).isEmpty = false)
    (value : Value)
    (params : Entries Value) :
    let action : Action := ⟨.updateState path value, params, none⟩
    let written := session.setState path value
    (∀ ticket origin,
      let updated :=
        session.runTask ticket ⟨origin, .start action 0, none⟩
      let performed : Occurrence := .performed ticket action 0
      match written.outcome with
      | .ok () =>
          ∃ news,
            news.filterMap Occurrence.notice? =
                [(⟨Path.normalize path, some value,
                    session.store.get? path⟩,
                  ⟨written.session.store.state, 0⟩)] ∧
              written.session.journal = session.journal ++ news ∧
              updated =
                { written.session with
                  journal :=
                    session.journal ++ [performed] ++ news ++
                      written.session.shownBy wiring
                        (.stateUpdate (Path.normalize path) value) ++
                      [.finished written.session.agenda.now ticket origin
                        .completed] }
      | .error failure =>
          written.session = session ∧
            updated =
              { session with
                journal :=
                  session.journal ++ [performed] ++
                    [.finished session.agenda.now ticket origin
                      (if failure.isPassedOver then .skipped
                        else .failed)] }) ∧
    (session.agenda.ready = [] →
      ((session.dispatch (.start action 0)).2 = some .completed ↔
        written.outcome = .ok ())) := by
  intro action written
  have sameOutcome :
      ∀ turn : Session,
        turn.store = session.store →
          (turn.setState path value).outcome = written.outcome := by
    intro turn sameStore
    rw [outcome_setState, sameStore, ← outcome_setState]
  cases outcome : written.outcome with
  | ok result =>
      refine ⟨?_, ?_⟩
      · intro ticket origin updated performed
        obtain ⟨news, notices, journal, advanced⟩ :=
          advanceStage_of_written wired observed calm named outcome params
            ticket
        refine ⟨news, notices, journal, ?_⟩
        exact runTask_of_ended origin advanced
      · intro nothingReady
        refine iff_of_true ?_ rfl
        refine outcome_dispatch_of_ended orderly nothingReady ?_
        intro turn sameStore sameWiring
        obtain ⟨_, _, _, advanced⟩ :=
          advanceStage_of_written (sameWiring.trans wired) observed calm
            named ((sameOutcome turn sameStore).trans outcome) params
            session.agenda.nextTicket
        rw [advanced]
  | error failure =>
      refine ⟨?_, ?_⟩
      · intro ticket origin updated performed
        obtain ⟨unchanged, advanced⟩ :=
          advanceStage_of_refused wired observed calm named outcome params
            ticket
        refine ⟨unchanged, ?_⟩
        exact runTask_of_ended origin advanced
      · intro nothingReady
        have ended :
            (session.dispatch (.start action 0)).2 =
              some (if failure.isPassedOver then .skipped else .failed) := by
          refine outcome_dispatch_of_ended orderly nothingReady ?_
          intro turn sameStore sameWiring
          have refused := (sameOutcome turn sameStore).trans outcome
          rw [(advanceStage_of_refused (sameWiring.trans wired) observed
            calm named refused params _).2]
        rw [ended]
        refine iff_of_false ?_ (by simp)
        split <;> simp

/-- A watcher that hides the toast. -/
def hidingToast : WatchConfig where
  action :=
    .string "hideToast"

/-- A session in which a count is watched. -/
def countingSession : Session :=
  (boot {} {}).addWatcher "/count" hidingToast 0

/-- A count is written by an action too, and the root is not. -/
theorem updateState_agrees_with_setState_count :
    let setCount : Action := ⟨.updateState "count" (.int 1), [], none⟩
    let setRoot : Action := ⟨.updateState "/" (.int 1), [], none⟩
    (countingSession.dispatch (.start setCount 0)).2 = some .completed ∧
      (countingSession.dispatch (.start setRoot 0)).2 ≠
        some .completed := by
  intro setCount setRoot
  have orderly : IsOrderly countingSession :=
    (Happens.watched "/count" hidingToast 0).isOrderly
      (isOrderly_boot {} {} .defaults)
  have countNamed : (Text.trim "count".toList).isEmpty = false := by
    decide +kernel
  have rootNamed : (Text.trim "/".toList).isEmpty = false := by
    decide +kernel
  obtain ⟨_, count⟩ :=
    updateState_agrees_with_setState orderly rfl rfl (fun _ => rfl)
      countNamed (.int 1) []
  obtain ⟨_, root⟩ :=
    updateState_agrees_with_setState orderly rfl rfl (fun _ => rfl)
      rootNamed (.int 1) []
  refine ⟨(count rfl).mpr rfl, ?_⟩
  rw [Ne, root rfl]
  have refused :
      (countingSession.setState "/" (.int 1)).outcome.isOk = false := by
    decide +kernel
  intro succeeds
  rw [succeeds] at refused
  cases refused

end Session

end Mockup
