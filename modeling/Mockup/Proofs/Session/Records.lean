import Mockup.Proofs.Session.Life
import Mockup.Proofs.Store

namespace Mockup

/-!
# Records of the state

Every write into the state is shown to the watchers, and nothing else is: the
changes in the journal of a session are those that the tried writes make, in
their order.  This needs that actions are observed, through the wiring of the
session and through the wirings that waiting tasks have kept.
-/

/-- The change that was shown to the watchers, if any. -/
def Occurrence.change? : Occurrence → Option StateChange
  | .notified change _ =>
      some change
  | _ =>
      none

/-- The wiring that a task keeps while it waits for a response. -/
def Stage.wiring? : Stage → Option Wiring
  | .answered wiring _ _ =>
      some wiring
  | _ =>
      none

/-- The wiring that a job keeps. -/
def Job.wiring? : Job → Option Wiring
  | .task work =>
      work.stage.wiring?
  | .timer _ =>
      none

/-! ## The writes that actions try -/

/-- The write of a tab that comes before a page is shown, if it exists. -/
def AppDocument.tabWrite?
    (app : AppDocument)
    (tab : Nat)
    (pageId : String) :
    Option TriedWrite :=
  (app.page? pageId).map fun _ => ⟨Store.tabKey, .ofNat tab⟩

namespace ActionKind

/-- The write that is tried when an action is carried out, if any. -/
def write?
    (app : AppDocument) : ActionKind α → Option TriedWrite
  | .reLaunch pageId =>
      app.tabWrite? 0 (pageId.getD app.initialPageId)
  | .switchTab tabIndex pageId =>
      match Session.tab app tabIndex pageId with
      | .ok (index, target) =>
          app.tabWrite? index target
      | .error _ =>
          none
  | .updateState path value =>
      if (Text.trim path.toList).isEmpty then none else some ⟨path, value⟩
  | _ =>
      none

/-- The write that is tried when the answer to a request is there, if any. -/
def responseWrite?
    (network : Network) : ActionKind α → Option TriedWrite
  | .request url _ data _ _ (some path) =>
      match network.answer url data with
      | .ok response =>
          if path = "" then none else some ⟨path, response⟩
      | .error _ =>
          none
  | _ =>
      none

end ActionKind

namespace Session

/-- The write that is tried when a stage of an action is run, if any. -/
def stageWrite?
    (session : Session) : Stage → Option TriedWrite
  | .start action depth =>
      if session.settings.cascadeLimit < depth then
        none
      else
        session.wiring.bind fun _ => action.kind.write? session.app
  | .answered wiring action _ =>
      action.kind.responseWrite? (session.networkOf wiring.line)
  | _ =>
      none

/-- The write that is tried when a job is run, if any. -/
def write?
    (session : Session) : Job → Option TriedWrite
  | .task task =>
      session.stageWrite? task.stage
  | .timer _ =>
      none

/-- The changes that have been shown to the watchers, in order. -/
def changes
    (session : Session) :
    List StateChange :=
  session.journal.filterMap Occurrence.change?

theorem changes_note
    (session : Session)
    (occurrence : Occurrence) :
    (session.note occurrence).changes =
      session.changes ++ occurrence.change?.toList := by
  cases occurrence <;> simp [changes, note, Occurrence.change?]

/-! ## What is recorded -/

/--
Some writes are tried and recorded: their changes are shown to the watchers,
and the state is as they leave it.  No job keeps another wiring than that of
the session.
-/
structure Records
    (writes : List TriedWrite)
    (before after : Session) :
    Prop where
  changes :
    after.changes =
      before.changes ++ TriedWrite.changes before.store.state writes
  state :
    after.store.state =
      writes.foldl TriedWrite.apply before.store.state
  wiring :
    after.wiring = before.wiring
  entries :
    ∀ entry ∈ after.agenda.entries,
      entry ∈ before.agenda.entries ∨
        entry.job.wiring? = none ∨
        entry.job.wiring? = before.wiring

namespace Records

/-- What leaves the journal and the state alone records nothing. -/
theorem of_entries
    {before after : Session}
    (journal : after.journal = before.journal)
    (store : after.store.state = before.store.state)
    (wiring : after.wiring = before.wiring)
    (entries :
      ∀ entry ∈ after.agenda.entries,
        entry ∈ before.agenda.entries ∨
          entry.job.wiring? = none ∨
          entry.job.wiring? = before.wiring) :
    Records [] before after where
  changes := by
    simp [Session.changes, journal, TriedWrite.changes]
  state :=
    store
  wiring :=
    wiring
  entries :=
    entries

theorem of_eq
    {before after : Session}
    (journal : after.journal = before.journal)
    (store : after.store.state = before.store.state)
    (wiring : after.wiring = before.wiring)
    (agenda : after.agenda = before.agenda) :
    Records [] before after :=
  of_entries journal store wiring fun _ member => Or.inl (agenda ▸ member)

theorem refl
    (session : Session) :
    Records [] session session :=
  of_eq rfl rfl rfl rfl

theorem trans
    {first second third : Session}
    {earlierWrites laterWrites : List TriedWrite}
    (earlier : Records earlierWrites first second)
    (later : Records laterWrites second third) :
    Records (earlierWrites ++ laterWrites) first third where
  changes := by
    rw [later.changes, earlier.changes, earlier.state,
      TriedWrite.changes_append, List.append_assoc]
  state := by
    rw [later.state, earlier.state, List.foldl_append]
  wiring :=
    later.wiring.trans earlier.wiring
  entries entry member := by
    rcases later.entries entry member with isOld | isNew
    · exact earlier.entries entry isOld
    · exact Or.inr (earlier.wiring ▸ isNew)

/-- What comes after a write and records nothing adds nothing to it. -/
theorem followed
    {first second third : Session}
    {writes : List TriedWrite}
    (earlier : Records writes first second)
    (later : Records [] second third) :
    Records writes first third := by
  simpa using earlier.trans later

theorem preceded
    {first second third : Session}
    {writes : List TriedWrite}
    (earlier : Records [] first second)
    (later : Records writes second third) :
    Records writes first third := by
  simpa using earlier.trans later

theorem note
    (session : Session)
    {occurrence : Occurrence}
    (noChange : occurrence.change? = none) :
    Records [] session (session.note occurrence) where
  changes := by
    simp [changes_note, noChange, TriedWrite.changes]
  state :=
    rfl
  wiring :=
    rfl
  entries _ :=
    Or.inl

theorem spawn
    (session : Session)
    {job : Job}
    (fresh : job.wiring? = none) :
    Records [] session (session.spawn job).1 := by
  refine of_entries rfl rfl rfl ?_
  intro entry member
  have perm := Agenda.entries_spawn session.agenda job
  rcases List.mem_cons.mp (perm.mem_iff.mp member) with rfl | isOld
  · exact Or.inr (Or.inl fresh)
  · exact Or.inl isOld

/-- What is tried after an attempt and records nothing adds nothing to it. -/
theorem andThen
    {before : Session}
    {writes : List TriedWrite}
    {attempt : Attempt α}
    {next : Session → α → Attempt β}
    (first : Records writes before attempt.session)
    (later :
      ∀ session result, Records [] session (next session result).session) :
    Records writes before (attempt.andThen next).session := by
  unfold Attempt.andThen
  split
  · exact first.followed (later _ _)
  · exact first

end Records

/-! ## Watchers -/

theorem records_trigger
    (session : Session)
    (firing : Firing) :
    Records [] session (session.trigger firing) := by
  have noted : Records [] session (session.note (.fired firing)) :=
    .note session rfl
  unfold trigger
  simp only
  split
  · exact noted.followed (.spawn _ rfl)
  · exact noted

theorem records_carryOut
    (session : Session)
    (reaction : Watch.Reaction) :
    Records [] session (session.carryOut reaction) := by
  cases reaction with
  | fire firing =>
      exact records_trigger session firing
  | arm delay firing =>
      refine .of_entries rfl rfl rfl ?_
      intro entry member
      refine (TimerTable.mem_entries_schedule member).imp_right ?_
      rintro rfl
      exact Or.inl rfl

theorem records_foldl_carryOut
    (session : Session)
    (reactions : List Watch.Reaction) :
    Records [] session (reactions.foldl carryOut session) := by
  induction reactions generalizing session with
  | nil =>
      exact .refl session
  | cons reaction reactions inductionHypothesis =>
      exact (records_carryOut session reaction).followed
        (inductionHypothesis _)

/-- A change that is shown is recorded, and what watchers do is not. -/
theorem records_notify
    (session : Session)
    (change : StateChange)
    (context : WatchContext) :
    Records [] (session.note (.notified change context))
      (session.notify change context) := by
  let noted := session.note (.notified change context)
  let answer := noted.watch.notify ⟨noted.agenda.now, true⟩ change context
  have remembers :
      Records [] noted { noted with watch := answer.1 } :=
    .of_eq rfl rfl rfl rfl
  exact remembers.followed (records_foldl_carryOut _ answer.2)

/-! ## Writes -/

/-- A write that is shown when it succeeds is recorded. -/
theorem records_write
    (session : Session)
    (depth : Nat)
    (write : TriedWrite) :
    let written : Session :=
      { session with
        store := (session.store.set write.path write.value).1 }
    match (session.store.set write.path write.value).2 with
    | .error _ =>
        Records [write] session written
    | .ok made =>
        Records [write] session
          (written.notify ⟨made.path, some write.value, made.old⟩
            ⟨written.store.state, depth⟩) := by
  intro written
  have state :
      written.store.state = write.apply session.store.state :=
    (TriedWrite.apply_eq session.store write).symm
  split
  · rename_i failure refused
    refine ⟨?_, state, rfl, fun _ => Or.inl⟩
    simp [TriedWrite.changes, TriedWrite.change?_of_error refused,
      changes, written]
  · rename_i made succeeds
    let change : StateChange := ⟨made.path, some write.value, made.old⟩
    have shown :
        Records [write] session
          (written.note
            (.notified change ⟨written.store.state, depth⟩)) := by
      refine ⟨?_, state, rfl, fun _ => Or.inl⟩
      rw [changes_note]
      simp [TriedWrite.changes, TriedWrite.change?_of_ok succeeds,
        Occurrence.change?, changes, written, change]
    exact shown.followed (records_notify written change _)

/-- An observed write is recorded. -/
theorem records_commit
    (session : Session)
    {wiring : Wiring}
    (isObserved : wiring.isObserved = true)
    (path : String)
    (value : Value)
    (depth : Nat) :
    Records [⟨path, value⟩] session
      (session.commit wiring path value depth).session := by
  have written := records_write session depth ⟨path, value⟩
  unfold commit
  simp only [session_observe, isObserved, if_true] at written ⊢
  split
  · rename_i refused
    simp only [refused] at written
    exact written
  · rename_i succeeds
    simp only [succeeds] at written
    exact written

/-- A write from outside is recorded. -/
theorem records_setState
    (session : Session)
    (path : String)
    (value : Value) :
    Records [⟨path, value⟩] session
      (session.setState path value).session := by
  have written := records_write session 0 ⟨path, value⟩
  unfold setState
  simp only at written ⊢
  split
  · rename_i refused
    simp only [refused] at written
    exact written
  · rename_i succeeds
    simp only [succeeds] at written
    exact written

/-! ## Pages and the user -/

theorem records_movePages
    (session : Session)
    (move : PageStack → PageStack × Except Failure α) :
    Records [] session (session.movePages move).session := by
  have told :
      ∀ (deliveries : List PageDelivery) (current : Session),
        Records [] current
          (deliveries.foldl (fun told delivery =>
            told.note (.delivered delivery)) current) := by
    intro deliveries
    induction deliveries with
    | nil =>
        exact .refl
    | cons delivery deliveries inductionHypothesis =>
        intro current
        exact (Records.note current rfl).followed
          (inductionHypothesis _)
  have moved :
      Records [] session
        { session with pages := (move session.pages).1.deliver.1 } :=
    .of_eq rfl rfl rfl rfl
  exact moved.followed (told _ _)

theorem records_present
    (session : Session)
    (wiring : Wiring)
    (shown : Presentation) :
    Records [] session (session.present wiring shown).session := by
  have noted :
      Records [] session
        (session.note (.presented session.agenda.now shown)) :=
    .note session rfl
  unfold present
  simp only
  split
  · exact noted
  · exact .refl session

theorem records_armToast
    (session : Session)
    (duration : Nat) :
    Records [] session (session.armToast duration) := by
  refine .of_entries rfl rfl rfl ?_
  intro entry member
  refine (TimerTable.mem_entries_schedule member).imp_right ?_
  rintro rfl
  exact Or.inl rfl

theorem records_disarmToast
    (session : Session) :
    Records [] session session.disarmToast :=
  .of_entries rfl rfl rfl fun _ member =>
    Or.inl (Agenda.mem_entries_abortAll member)

/-! ## Actions -/

section

variable (session : Session) (wiring : Wiring)

theorem records_present_completed
    (shown : Presentation) :
    Records [] session
      ((session.present wiring shown).andThen
        fun after _ => after.succeed completed).session :=
  (records_present session wiring shown).andThen fun _ _ => .refl _

theorem records_goTo
    (move : PageStack → PageStack × Except Failure Unit)
    (pageId : String)
    (params : Entries Value) :
    Records [] session
      (session.goTo wiring move pageId params).session :=
  (records_movePages session move).andThen
    fun _ _ => records_present_completed _ wiring _

theorem records_navigateBack
    (params : Entries Value) :
    Records [] session (session.navigateBack wiring params).session := by
  unfold navigateBack
  simp only
  split
  · exact .refl session
  · exact (records_movePages session _).andThen
      fun _ _ => records_present_completed _ wiring _

theorem records_showOverlay
    (found : Except Failure α)
    (present : α → Presentation) :
    Records [] session
      (session.showOverlay wiring found present).session := by
  unfold showOverlay
  split
  · exact .refl session
  · exact records_present_completed session wiring _

theorem records_showToast
    (inline : Option ToastSpec)
    (id : Option String) :
    Records [] session (session.showToast wiring inline id).session := by
  unfold showToast
  split
  · exact .refl session
  · exact (records_present session wiring _).andThen
      fun _ _ => records_armToast _ _

variable {wiring}
variable (isObserved : wiring.isObserved = true)
include isObserved

theorem records_startOver
    (tab : Nat)
    (pageId : String)
    (params : Entries Value)
    (depth : Nat) :
    Records (session.app.tabWrite? tab pageId).toList session
      (session.startOver wiring tab pageId params depth).session := by
  unfold startOver AppDocument.tabWrite?
  split
  · rename_i missing
    rw [missing]
    exact .refl session
  · rename_i page found
    rw [found]
    exact (records_commit session isObserved _ _ depth).andThen
      fun _ _ => records_movePages _ _

theorem records_reLaunch
    (pageId : Option String)
    (params : Entries Value)
    (depth : Nat) :
    Records
      ((ActionKind.reLaunch (α := Action) pageId).write?
        session.app).toList
      session (session.reLaunch wiring pageId params depth).session := by
  unfold reLaunch
  exact (records_startOver session isObserved 0 _ params depth).andThen
    fun _ _ => records_present_completed _ wiring _

theorem records_switchTab
    (tabIndex : Option Nat)
    (pageId : Option String)
    (params : Entries Value)
    (depth : Nat) :
    Records
      ((ActionKind.switchTab (α := Action) tabIndex pageId).write?
        session.app).toList
      session
      (session.switchTab wiring tabIndex pageId params depth).session := by
  unfold switchTab
  simp only [ActionKind.write?]
  cases tab session.app tabIndex pageId with
  | error failure =>
      exact .refl session
  | ok found =>
      exact
        (records_startOver session isObserved found.1 found.2 params
          depth).andThen fun _ _ => records_present_completed _ wiring _

theorem records_updateState
    (path : String)
    (value : Value)
    (depth : Nat) :
    Records
      ((ActionKind.updateState (α := Action) path value).write?
        session.app).toList
      session (session.updateState wiring path value depth).session := by
  unfold updateState ActionKind.write?
  simp only
  split
  · exact .refl session
  · exact (records_commit session isObserved path value depth).andThen
      fun _ _ => records_present_completed _ wiring _

/-- Carrying out an action records the write that it tries. -/
theorem records_perform
    (action : Action)
    (depth : Nat) :
    Records (action.kind.write? session.app).toList session
      (session.perform wiring action depth).session := by
  unfold perform
  simp only
  cases action.kind with
  | navigateTo pageId =>
      exact records_goTo session wiring _ _ _
  | redirectTo pageId =>
      exact records_goTo session wiring _ _ _
  | reLaunch pageId =>
      exact records_reLaunch session isObserved _ _ depth
  | navigateBack =>
      exact records_navigateBack session wiring _
  | switchTab tabIndex pageId =>
      exact records_switchTab session isObserved _ _ _ depth
  | showModal modal id =>
      exact records_showOverlay session wiring _ _
  | hideModal =>
      exact records_showOverlay session wiring _ _
  | showToast toast id =>
      exact records_showToast session wiring _ _
  | hideToast =>
      exact (records_disarmToast session).followed
        (records_showOverlay _ wiring _ _)
  | showActionSheet sheet id =>
      exact records_showOverlay session wiring _ _
  | hideActionSheet =>
      exact records_showOverlay session wiring _ _
  | request url method data headers onSuccess responsePath =>
      exact .refl session
  | updateState path value =>
      exact records_updateState session isObserved path value depth
  | delay duration next =>
      exact .refl session
  | unknown =>
      exact .refl session

end

/-- A task that waits keeps the wiring with which its action was begun. -/
theorem wiring?_of_perform
    {session : Session}
    {wiring : Wiring}
    {action : Action}
    {depth delay : Nat}
    {stage : Stage}
    (waits :
      (session.perform wiring action depth).outcome =
        .ok (.wait delay stage)) :
    stage.wiring? = none ∨ stage.wiring? = some wiring := by
  have ends :
      ∀ {writes : Nat} {before : Session} {attempt : Attempt Sequel},
        Attempt.ActsFor depth writes before attempt
          (Sequel.Ends action) →
        attempt.outcome = .ok (.wait delay stage) →
        stage.wiring? = none ∨ stage.wiring? = some wiring := by
    intro writes before attempt acts waits
    cases acts.result _ waits
  revert waits
  unfold perform
  simp only
  cases action.kind with
  | navigateTo pageId =>
      exact ends (acts_goTo session wiring _ _ _)
  | redirectTo pageId =>
      exact ends (acts_goTo session wiring _ _ _)
  | reLaunch pageId =>
      exact ends (acts_reLaunch session wiring _ _)
  | navigateBack =>
      exact ends (acts_navigateBack session wiring _)
  | switchTab tabIndex pageId =>
      exact ends (acts_switchTab session wiring _ _ _)
  | showModal modal id =>
      exact ends (acts_showOverlay session wiring _ _)
  | hideModal =>
      exact ends (acts_showOverlay session wiring _ _)
  | showToast toast id =>
      exact ends (acts_showToast session wiring _ _)
  | hideToast =>
      exact ends (acts_showOverlay session.disarmToast wiring _ _)
  | showActionSheet sheet id =>
      exact ends (acts_showOverlay session wiring _ _)
  | hideActionSheet =>
      exact ends (acts_showOverlay session wiring _ _)
  | request url method data headers onSuccess responsePath =>
      rintro ⟨⟩
      exact Or.inr rfl
  | updateState path value =>
      exact ends (acts_updateState session wiring _ _)
  | delay duration next =>
      rintro ⟨⟩
      exact Or.inl rfl
  | unknown =>
      rintro ⟨⟩

/-! ## Responses -/

/-- A response is kept, and the write that the request asks for recorded. -/
theorem records_receive
    (session : Session)
    {wiring : Wiring}
    (isObserved : wiring.isObserved = true)
    (ticket : Nat)
    (action : Action)
    (depth : Nat) :
    Records
      (action.kind.responseWrite? (session.networkOf wiring.line)).toList
      session (session.receive ticket wiring action depth).session := by
  cases kind : action.kind with
  | request url method data headers onSuccess path =>
      cases answer :
          (session.networkOf wiring.line).answer url data with
      | error failure =>
          rw [receive_of_failure ticket kind answer depth]
          cases path with
          | none =>
              exact .refl session
          | some target =>
              simp only [ActionKind.responseWrite?, answer]
              exact .refl session
      | ok response =>
          let kept : Session :=
            { session with
              store := session.store.keepResponse url response }
          have keeps : Records [] session kept :=
            .of_eq rfl rfl rfl rfl
          have answered :
              Records [] session
                (session.answered ticket url response) :=
            keeps.followed (.note kept rfl)
          rw [receive_of_response ticket kind answer depth]
          refine Records.andThen (answered.preceded ?_) fun _ _ => .refl _
          cases path with
          | none =>
              exact .refl _
          | some target =>
              simp only [ActionKind.responseWrite?, answer,
                commitResponse]
              split
              · exact .refl _
              · exact
                  (records_commit _ isObserved target response
                    depth).andThen fun _ _ => .refl _
  | _ =>
      simp only [receive, kind]
      exact .refl session

/-! ## Jobs -/

/-- A progress leads to stages that keep no wiring, or a given one. -/
def Progress.Keeps
    (progress : Progress)
    (wiring : Option Wiring) :
    Prop :=
  match progress with
  | .ended _ =>
      True
  | .follow _ stage =>
      stage.wiring? = none
  | .wait _ stage =>
      stage.wiring? = none ∨ stage.wiring? = wiring

theorem keeps_of_ends
    {progress : Progress}
    {action : Action}
    {depth : Nat}
    (ends : progress.Ends action depth)
    (wiring : Option Wiring) :
    progress.Keeps wiring := by
  cases ends with
  | ended =>
      trivial
  | follow _ =>
      rfl

/-- Only an attempt that waits may lead to a stage that keeps a wiring. -/
theorem keeps_conclude
    {action : Action}
    {depth : Nat}
    {outcome : Except Failure Sequel}
    {wiring : Option Wiring}
    (waits :
      ∀ delay stage, outcome = .ok (.wait delay stage) →
        stage.wiring? = none ∨ stage.wiring? = wiring) :
    (conclude action depth outcome).Keeps wiring := by
  unfold conclude
  split
  · trivial
  · rfl
  · exact waits _ _ rfl
  · split
    · trivial
    · split
      · rfl
      · trivial

/-- A stage leads to stages that keep no wiring but that of the session. -/
theorem keeps_advanceStage
    (session : Session)
    (ticket : Nat)
    (stage : Stage) :
    (session.advanceStage ticket stage).2.Keeps session.wiring := by
  cases stage with
  | start action depth =>
      simp only [advanceStage]
      split
      · trivial
      · split
        · trivial
        · rename_i wiring isWired
          rw [isWired]
          exact keeps_conclude fun _ _ => wiring?_of_perform
  | answered wiring action depth =>
      obtain ⟨_, _, acts⟩ :=
        acts_receive session ticket wiring action depth
      exact keeps_of_ends (ends_conclude acts.result depth) _
  | rested action depth =>
      exact keeps_of_ends (ends_rested action depth) _
  | void =>
      trivial

/-- A stage records its write, and leads to stages that keep no wiring. -/
theorem records_advanceStage
    (session : Session)
    (wired :
      ∀ wiring, session.wiring = some wiring → wiring.isObserved = true)
    (ticket : Nat)
    (stage : Stage)
    (kept :
      ∀ wiring, stage.wiring? = some wiring → wiring.isObserved = true) :
    Records (session.stageWrite? stage).toList session
        (session.advanceStage ticket stage).1 ∧
      (session.advanceStage ticket stage).2.Keeps session.wiring := by
  refine ⟨?_, keeps_advanceStage session ticket stage⟩
  cases stage with
  | start action depth =>
      simp only [advanceStage, stageWrite?]
      split
      · exact .refl session
      · cases isWired : session.wiring with
        | none =>
            exact .refl session
        | some wiring =>
            let begun := session.note (.performed ticket action depth)
            have noted : Records [] session begun :=
              .note session rfl
            exact noted.preceded
              (records_perform begun (wired wiring isWired) action depth)
  | answered wiring action depth =>
      exact records_receive session (kept wiring rfl) ticket action depth
  | rested action depth =>
      exact .refl session
  | void =>
      exact .refl session

/-- A job that comes back records nothing, if it keeps no other wiring. -/
theorem Records.back
    {before between : Session}
    {writes : List TriedWrite}
    (records : Records writes before between)
    {agenda : Agenda Job}
    {entry : Ticketed Job}
    (perm : agenda.entries.Perm (entry :: between.agenda.entries))
    (keeps :
      entry.job.wiring? = none ∨ entry.job.wiring? = before.wiring) :
    Records writes before { between with agenda := agenda } where
  changes :=
    records.changes
  state :=
    records.state
  wiring :=
    records.wiring
  entries other member := by
    rcases List.mem_cons.mp (perm.mem_iff.mp member) with rfl | isOther
    · exact Or.inr keeps
    · exact records.entries other isOther

/-- A task records the write of its stage. -/
theorem records_runTask
    (session : Session)
    (wired :
      ∀ wiring, session.wiring = some wiring → wiring.isObserved = true)
    (ticket : Nat)
    (task : Task)
    (kept :
      ∀ wiring, task.stage.wiring? = some wiring →
        wiring.isObserved = true) :
    Records (session.stageWrite? task.stage).toList session
      (session.runTask ticket task) := by
  obtain ⟨records, keeps⟩ :=
    records_advanceStage session wired ticket task.stage kept
  have concluded := concluded_runTask session ticket task
  generalize session.runTask ticket task = after at concluded ⊢
  generalize (session.advanceStage ticket task.stage).1 = between
    at records concluded
  generalize (session.advanceStage ticket task.stage).2 = progress
    at keeps concluded
  cases concluded with
  | ended =>
      exact records.followed (.note between rfl)
  | follow perm _ =>
      exact records.back perm (Or.inl keeps)
  | wait perm _ =>
      exact records.back perm keeps

theorem records_runErrand
    (session : Session)
    (errand : Errand) :
    Records [] session (session.runErrand errand) := by
  cases errand with
  | hideToast =>
      have noted :
          Records [] session
            (session.note (.toastElapsed session.agenda.now)) :=
        .note session rfl
      simp only [runErrand]
      split
      · exact noted.followed (records_present _ _ _)
      · exact noted
  | fire firing =>
      simp only [runErrand]
      split
      · rename_i watch fired _
        have remembers :
            Records [] session { session with watch := watch } :=
          .of_eq rfl rfl rfl rfl
        exact remembers.followed (records_trigger _ fired)
      · exact .of_eq rfl rfl rfl rfl

/-- A job records the write that it tries. -/
theorem records_runJob
    (session : Session)
    (wired :
      ∀ wiring, session.wiring = some wiring → wiring.isObserved = true)
    (ticket : Nat)
    (job : Job)
    (kept :
      ∀ wiring, job.wiring? = some wiring → wiring.isObserved = true) :
    Records (session.write? job).toList session
      (session.runJob ticket job) := by
  cases job with
  | task task =>
      exact records_runTask session wired ticket task kept
  | timer timer =>
      simp only [runJob]
      split
      · exact records_runErrand session timer.work
      · exact (Records.refl session).back (Agenda.entries_arm _ _ _)
          (Or.inl rfl)

end Session

end Mockup
