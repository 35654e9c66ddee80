import Mockup.Proofs.PageStack.BoundedList
import Mockup.Proofs.Session.Runs
import Mockup.Proofs.Store

namespace Mockup

/-!
# Sessions that stand on a page

A session that has not been stopped stands on a page of its application, and
the root of its state is a map.  An action that starts over therefore does all
that it is to do once its page is known to exist: the tab can be written, and
the page can be pushed.  Otherwise it leaves the state and the pages alone.
-/

/-! ## Actions that start over -/

namespace ActionKind

/-- Whether an action selects a tab and leaves a single page. -/
def startsOver : ActionKind α → Bool
  | .reLaunch _ =>
      true
  | .switchTab _ _ =>
      true
  | _ =>
      false

/-- The tab that an action selects, with the page that is to be left. -/
inductive Selects
    (app : AppDocument) : ActionKind α → Nat → String → Prop where
  | initially
      {pageId : Option String} :
      Selects app (.reLaunch pageId) 0 (pageId.getD app.initialPageId)
  | byIndex
      {index : Nat}
      {pageId : Option String}
      {target : String} :
      app.tabPage? index = some target →
      Selects app (.switchTab (some index) pageId) index target
  | byPage
      {index : Nat}
      {target : String} :
      app.tabIndex? target = some index →
      Selects app (.switchTab none (some target)) index target

theorem selects_switchTab_iff
    {app : AppDocument}
    {tabIndex : Option Nat}
    {pageId : Option String}
    {index : Nat}
    {target : String} :
    Selects app (.switchTab tabIndex pageId : ActionKind α) index target ↔
      Session.tab app tabIndex pageId = .ok (index, target) := by
  constructor
  · rintro (_ | ⟨found⟩ | ⟨found⟩) <;> simp [Session.tab, found]
  · intro found
    unfold Session.tab at found
    split at found
    · split at found
      · rename_i isTab
        cases found
        exact .byIndex isTab
      · cases found
    · split at found
      · rename_i isTab
        cases found
        exact .byPage isTab
      · cases found
    · cases found

end ActionKind

namespace Session

/-- Whether actions at a depth are carried out. -/
def MayAct
    (session : Session)
    (depth : Nat) :
    Prop :=
  session.wiring.isSome ∧ depth ≤ session.settings.cascadeLimit

/--
A tab has been selected and a page is the only one left; the rest of the
state is as it was.
-/
structure StartedOver
    (before : Session)
    (index : Nat)
    (pageId : String)
    (params : Entries Value)
    (after : Session) :
    Prop where
  selected :
    after.store.state.field? Store.tabKey = some (.ofNat index)
  elsewhere :
    ∀ key, key ≠ Store.tabKey →
      after.store.state.field? key = before.store.state.field? key
  entries :
    after.pages.entries = [⟨pageId, params⟩]

/--
An action that starts over has done so, which takes a page that exists, or it
has left the state, the responses and the pages as they were.
-/
inductive StartsOverOrStays
    (before : Session)
    (action : Action)
    (depth : Nat)
    (after : Session) :
    Prop where
  | started
      {index : Nat}
      {target : String} :
      before.MayAct depth →
      action.kind.Selects before.app index target →
      (before.app.page? target).isSome →
      StartedOver before index target action.params after →
      StartsOverOrStays before action depth after
  | stayed :
      (∀ index target,
        before.MayAct depth →
        action.kind.Selects before.app index target →
        before.app.page? target = none) →
      Stays before after →
      StartsOverOrStays before action depth after

/-! ## Standing on a page -/

/--
A session stands on a page of its application.  The pages are kept in order,
and the root of the state is a map.
-/
structure IsStanding
    (app : AppDocument)
    (session : Session) :
    Prop where
  app :
    session.pages.app = app
  kept :
    session.pages.IsKept
  nonempty :
    session.pages.entries ≠ []
  isMap :
    ∃ fields, session.store.state = .map fields

namespace IsStanding

variable {app : AppDocument} {session : Session}

/-- What leaves the state and the pages alone leaves a session standing. -/
theorem stays
    {after : Session}
    (standing : IsStanding app session)
    (stays : Stays session after) :
    IsStanding app after where
  app := by
    rw [stays.pages]
    exact standing.app
  kept := by
    rw [stays.pages]
    exact standing.kept
  nonempty := by
    rw [stays.pages]
    exact standing.nonempty
  isMap := by
    rw [stays.store]
    exact standing.isMap

/-- What is tried by a session that stands may keep it standing. -/
theorem andThen
    {attempt : Attempt α}
    {next : Session → α → Attempt β}
    (first : IsStanding app attempt.session)
    (later :
      ∀ current result,
        IsStanding app current →
        IsStanding app (next current result).session) :
    IsStanding app (attempt.andThen next).session := by
  unfold Attempt.andThen
  split
  · exact later _ _ first
  · exact first

/-- There is a page to be shown. -/
theorem exists_currentPage
    (standing : IsStanding app session) :
    ∃ page, session.pages.currentPage? = some page := by
  obtain ⟨index, isLast⟩ :=
    Option.ne_none_iff_exists'.mp
      (mt (PageStack.lastIndex?_eq_none_iff _).mp standing.nonempty)
  have length := PageStack.length_of_lastIndex? isLast
  have inside : index < session.pages.entries.length := by
    omega
  have declared :=
    standing.kept.declared _ (List.getElem_mem inside)
  rw [PageStack.currentPage?, PageStack.currentEntry?,
    standing.kept.current, isLast, Option.bind_some,
    List.getElem?_eq_getElem inside, Option.bind_some]
  exact Option.isSome_iff_exists.mp declared

/-! ### Writing and moving -/

theorem commit
    (standing : IsStanding app session)
    (wiring : Wiring)
    (path : String)
    (value : Value)
    (depth : Nat) :
    IsStanding app
      (session.commit wiring path value depth).session := by
  have written :
      IsStanding app
        { session with store := (session.store.set path value).1 } := by
    obtain ⟨fields, isMap⟩ := standing.isMap
    exact
      ⟨standing.app, standing.kept, standing.nonempty,
        Store.exists_map_set isMap path value⟩
  unfold Session.commit
  simp only [session_observe]
  split
  · exact written
  · split
    · exact written.stays (stays_notify _ _ _)
    · exact written

theorem setState
    (standing : IsStanding app session)
    (path : String)
    (value : Value) :
    IsStanding app (session.setState path value).session := by
  -- A write from outside is an observed one at the top of a cascade.
  let wiring : Wiring := { isObserved := true }
  have same :
      (session.setState path value).session =
        (session.commit wiring path value 0).session := by
    unfold Session.setState Session.commit
    simp only [session_observe]
    cases (session.store.set path value).2 <;> rfl
  rw [same]
  exact standing.commit wiring path value 0

/-- To deliver what has been queued leaves a session standing. -/
theorem of_moved
    {move : PageStack → PageStack × Except Failure α}
    (standing :
      IsStanding app { session with pages := (move session.pages).1 }) :
    IsStanding app (session.movePages move).session := by
  have kept := standing.kept
  have emptied :
      IsStanding app
        { session with
          pages := { (move session.pages).1 with queued := [] } } :=
    ⟨standing.app, ⟨kept.bounded, kept.current, kept.declared⟩,
      standing.nonempty, standing.isMap⟩
  exact emptied.stays (stays_movePages session move)

theorem movePages
    (standing : IsStanding app session)
    {move : PageStack → PageStack × Except Failure α}
    (operation : PageOperation)
    (moves :
      (move session.pages).1 = (session.pages.perform operation).1)
    (leaves : operation.dropsAll = false) :
    IsStanding app (session.movePages move).session := by
  have sameApp := (PageStack.app_perform standing.kept operation).1
  refine .of_moved ?_
  rw [moves]
  exact
    ⟨sameApp.trans standing.app, standing.kept.perform operation,
      PageStack.entries_perform_ne_nil standing.kept standing.nonempty
        leaves,
      standing.isMap⟩

/-- Pushing, popping and replacing, and showing where that has led. -/
theorem present_movePages
    (standing : IsStanding app session)
    {move : PageStack → PageStack × Except Failure α}
    (operation : PageOperation)
    (moves :
      (move session.pages).1 = (session.pages.perform operation).1)
    (leaves : operation.dropsAll = false)
    (wiring : Wiring)
    (shown : α → Presentation) :
    IsStanding app
      ((session.movePages move).andThen fun moved result =>
        (moved.present wiring (shown result)).andThen
          fun after _ => after.succeed completed).session :=
  (standing.movePages operation moves leaves).andThen
    fun current _ still =>
      still.stays
        ((stays_present current wiring _).andThen fun _ _ => .refl _)

end IsStanding

/-! ## Starting over -/

/-- The tab can be written whenever the root of the state is a map. -/
theorem commit_tab
    {session : Session}
    {fields : Entries Value}
    (isMap : session.store.state = .map fields)
    (wiring : Wiring)
    (value : Value)
    (depth : Nat) :
    let attempt := session.commit wiring Store.tabKey value depth
    (∃ write, attempt.outcome = .ok write) ∧
      attempt.session.store.state =
        .map (Entries.insert fields Store.tabKey value) := by
  have named : Path.stateSegments Store.tabKey = [Store.tabKey] := by
    decide +kernel
  unfold commit
  rw [Store.set_key isMap named]
  simp only [session_observe]
  split
  · exact ⟨⟨_, rfl⟩, congrArg Store.state (stays_notify _ _ _).store⟩
  · exact ⟨⟨_, rfl⟩, rfl⟩

namespace StartedOver

variable {before between after : Session} {index : Nat}
variable {pageId : String} {params : Entries Value}

theorem stays
    (started : StartedOver before index pageId params between)
    (stays : Stays between after) :
    StartedOver before index pageId params after where
  selected := by
    rw [stays.store]
    exact started.selected
  elsewhere := by
    rw [stays.store]
    exact started.elsewhere
  entries := by
    rw [stays.pages]
    exact started.entries

theorem preceded
    (stays : Stays before between)
    (started : StartedOver between index pageId params after) :
    StartedOver before index pageId params after where
  selected :=
    started.selected
  elsewhere := by
    rw [← stays.store]
    exact started.elsewhere
  entries :=
    started.entries

end StartedOver

section

variable {app : AppDocument} {session : Session}
variable (standing : IsStanding app session)
variable (wiring : Wiring) (index : Nat) {pageId : String}
variable (params : Entries Value) (depth : Nat)
include standing

/-- Once its page is known to exist, starting over cannot fail. -/
theorem startedOver_startOver
    {page : Page}
    (found : session.app.page? pageId = some page) :
    let attempt := session.startOver wiring index pageId params depth
    attempt.outcome = .ok () ∧
      IsStanding app attempt.session ∧
      StartedOver session index pageId params attempt.session := by
  obtain ⟨fields, isMap⟩ := standing.isMap
  obtain ⟨⟨write, succeeds⟩, state⟩ :=
    commit_tab isMap wiring (.ofNat index) depth
  have written :=
    standing.commit wiring Store.tabKey (.ofNat index) depth
  have pages :=
    pages_commit session wiring Store.tabKey (.ofNat index)
      depth
  unfold startOver
  simp only [found, Attempt.andThen, succeeds]
  generalize
    (session.commit wiring Store.tabKey (.ofNat index)
      depth).session = tabbed at written state pages ⊢
  have foundStill : tabbed.pages.app.page? pageId = some page := by
    rw [pages]
    exact found
  obtain ⟨kept, sameApp, entries⟩ :=
    PageStack.restart_spec written.kept foundStill params
  refine ⟨PageStack.restart_of_page foundStill params,
    .of_moved
      ⟨sameApp.trans written.app, kept, by simp [entries],
        written.isMap⟩,
    StartedOver.stays ⟨?_, ?_, entries⟩ (stays_movePages tabbed _)⟩
  · simp [state, Value.field?]
  · intro key different
    simp [state, isMap, Value.field?,
      Entries.get?_insert_other _ _ different]

/--
Starting over and showing it: if the page does not exist, nothing is done, and
if showing it crashes, it has been started over with all the same.
-/
theorem startOver_present
    (pageId : String)
    (shown : Presentation) :
    let after :=
      ((session.startOver wiring index pageId params depth).andThen
        fun moved _ =>
          (moved.present wiring shown).andThen
            fun after _ => after.succeed completed).session
    IsStanding app after ∧
      (((session.app.page? pageId).isSome ∧
          StartedOver session index pageId params after) ∨
        (session.app.page? pageId = none ∧ Stays session after)) := by
  cases found : session.app.page? pageId with
  | none =>
      have refused :
          session.startOver wiring index pageId params depth =
            session.refuse (.pageNotFound pageId) := by
        simp [startOver, found]
      rw [refused]
      exact ⟨standing, Or.inr ⟨rfl, .refl session⟩⟩
  | some page =>
      obtain ⟨succeeds, moved, started⟩ :=
        startedOver_startOver standing wiring index params depth found
      unfold Attempt.andThen
      simp only [succeeds]
      have stays :=
        (stays_present
          (session.startOver wiring index pageId params depth).session
          wiring shown).andThen
          fun current _ => .refl (current.succeed completed).session
      exact
        ⟨moved.stays stays,
          Or.inl ⟨rfl, started.stays stays⟩⟩

end

/-! ## Actions -/

section

variable {app : AppDocument} {session : Session}
variable (standing : IsStanding app session)
variable (wiring : Wiring) {action : Action} (depth : Nat)
include standing

/-- An action that starts over finds its page and does so, or does nothing. -/
theorem startsOver_perform
    (startsOver : action.kind.startsOver = true) :
    let after := (session.perform wiring action depth).session
    IsStanding app after ∧
      ((∃ index target,
          action.kind.Selects session.app index target ∧
            (session.app.page? target).isSome ∧
            StartedOver session index target action.params after) ∨
        ((∀ index target,
            action.kind.Selects session.app index target →
              session.app.page? target = none) ∧
          Stays session after)) := by
  unfold perform
  simp only
  cases kind : action.kind with
  | reLaunch pageId =>
      obtain ⟨still, ⟨isPage, started⟩ | ⟨missing, stays⟩⟩ :=
        startOver_present standing wiring 0 action.params depth
          (pageId.getD session.app.initialPageId)
          (.navigate (pageId.getD session.app.initialPageId)
            action.params)
      · exact ⟨still, Or.inl ⟨0, _, .initially, isPage, started⟩⟩
      · refine ⟨still, Or.inr ⟨?_, stays⟩⟩
        rintro _ _ ⟨⟩
        exact missing
  | switchTab tabIndex pageId =>
      simp only [switchTab, ActionKind.selects_switchTab_iff]
      cases isTab : tab session.app tabIndex pageId with
      | error failure =>
          exact
            ⟨standing, Or.inr ⟨by rintro _ _ ⟨⟩, .refl session⟩⟩
      | ok found =>
          obtain ⟨index, target⟩ := found
          obtain ⟨still, ⟨isPage, started⟩ | ⟨missing, stays⟩⟩ :=
            startOver_present standing wiring index action.params depth
              target (.switchTab index)
          · exact ⟨still, Or.inl ⟨index, target, rfl, isPage, started⟩⟩
          · refine ⟨still, Or.inr ⟨?_, stays⟩⟩
            rintro _ _ ⟨⟩
            exact missing
  | _ =>
      simp [kind, ActionKind.startsOver] at startsOver

end

section

variable (session : Session) (wiring : Wiring)

theorem stays_showOverlay
    (found : Except Failure α)
    (present : α → Presentation) :
    Stays session
      (session.showOverlay wiring found present).session := by
  unfold showOverlay
  split
  · exact .refl session
  · exact (stays_present session wiring _).andThen fun _ _ => .refl _

theorem stays_showToast
    (inline : Option ToastSpec)
    (id : Option String) :
    Stays session (session.showToast wiring inline id).session := by
  unfold showToast
  split
  · exact .refl session
  · exact (stays_present session wiring _).andThen
      fun _ _ => ⟨rfl, rfl⟩

end

namespace IsStanding

variable {app : AppDocument} {session : Session}

/-- Carrying out any action leaves a session standing. -/
theorem perform
    (standing : IsStanding app session)
    (wiring : Wiring)
    (action : Action)
    (depth : Nat) :
    IsStanding app (session.perform wiring action depth).session := by
  by_cases startsOver : action.kind.startsOver = true
  · exact (startsOver_perform standing wiring depth startsOver).1
  · unfold Session.perform
    simp only
    cases kind : action.kind with
    | reLaunch _ =>
        simp [kind, ActionKind.startsOver] at startsOver
    | switchTab _ _ =>
        simp [kind, ActionKind.startsOver] at startsOver
    | navigateTo pageId =>
        exact standing.present_movePages (.push pageId action.params)
          rfl rfl wiring _
    | redirectTo pageId =>
        exact standing.present_movePages (.replace pageId action.params)
          rfl rfl wiring _
    | navigateBack =>
        unfold navigateBack
        simp only
        split
        · exact standing
        · exact standing.present_movePages
            (.pop (stepsBack action.params).toNat) rfl rfl wiring _
    | showModal modal id =>
        exact standing.stays (stays_showOverlay session wiring _ _)
    | hideModal =>
        exact standing.stays (stays_showOverlay session wiring _ _)
    | showToast toast id =>
        exact standing.stays (stays_showToast session wiring _ _)
    | hideToast =>
        have calm : Stays session session.disarmToast :=
          ⟨rfl, rfl⟩
        exact
          (standing.stays calm).stays (stays_showOverlay _ wiring _ _)
    | showActionSheet sheet id =>
        exact standing.stays (stays_showOverlay session wiring _ _)
    | hideActionSheet =>
        exact standing.stays (stays_showOverlay session wiring _ _)
    | request _ _ _ _ _ _ =>
        exact standing
    | updateState path value =>
        unfold updateState
        simp only
        split
        · exact standing
        · exact
            (standing.commit wiring path value depth).andThen
              fun current write still =>
                still.stays
                  ((stays_present current wiring _).andThen
                    fun _ _ => .refl _)
    | delay _ _ =>
        exact standing
    | unknown =>
        exact standing

/-- The answer to a request leaves a session standing. -/
theorem receive
    (standing : IsStanding app session)
    (ticket : Nat)
    (wiring : Wiring)
    (action : Action)
    (depth : Nat) :
    IsStanding app
      (session.receive ticket wiring action depth).session := by
  cases kind : action.kind with
  | request url method data headers onSuccess path =>
      cases answer :
          (session.networkOf wiring.line).answer url data with
      | error failure =>
          rw [receive_of_failure ticket kind answer depth]
          exact standing
      | ok response =>
          have kept : IsStanding app (session.answered ticket url response) :=
            ⟨standing.app, standing.kept, standing.nonempty,
              standing.isMap⟩
          rw [receive_of_response ticket kind answer depth]
          refine IsStanding.andThen ?_ fun _ _ => id
          unfold commitResponse
          split
          · exact kept
          · split
            · exact kept
            · exact (kept.commit wiring _ response depth).andThen
                fun _ _ => id
  | _ =>
      simp only [Session.receive, kind]
      exact standing

/-- Taking an action further leaves a session standing. -/
theorem advanceStage
    (standing : IsStanding app session)
    (ticket : Nat)
    (stage : Stage) :
    IsStanding app (session.advanceStage ticket stage).1 := by
  cases stage with
  | start action depth =>
      simp only [Session.advanceStage]
      split
      · exact standing
      · cases session.wiring with
        | none =>
            exact standing
        | some wiring =>
            have begun :
                Stays session
                  (session.note (.performed ticket action depth)) :=
              ⟨rfl, rfl⟩
            exact (standing.stays begun).perform wiring action depth
  | answered wiring action depth =>
      exact standing.receive ticket wiring action depth
  | rested action depth =>
      exact standing
  | void =>
      exact standing

end IsStanding

/-! ## Jobs -/

/-- To tell a task how its stage went leaves the state and the pages alone. -/
theorem Concluded.stays
    {before after : Session}
    {ticket : Nat}
    {task : Task}
    {progress : Progress}
    (concluded : Concluded before ticket task progress after) :
    Stays before after := by
  cases concluded <;> exact ⟨rfl, rfl⟩

theorem stays_runErrand
    (session : Session)
    (errand : Errand) :
    Stays session (session.runErrand errand) := by
  cases errand with
  | hideToast =>
      have noted :
          Stays session
            (session.note (.toastElapsed session.agenda.now)) :=
        ⟨rfl, rfl⟩
      simp only [runErrand]
      split
      · exact noted.trans (stays_present _ _ _)
      · exact noted
  | fire firing =>
      simp only [runErrand]
      split
      · rename_i watch fired _
        have remembers : Stays session { session with watch := watch } :=
          ⟨rfl, rfl⟩
        exact remembers.trans (stays_trigger _ fired)
      · exact ⟨rfl, rfl⟩

/-- Every job leaves a session standing. -/
theorem IsStanding.runJob
    {app : AppDocument}
    {session : Session}
    (standing : IsStanding app session)
    (ticket : Nat)
    (job : Job) :
    IsStanding app (session.runJob ticket job) := by
  cases job with
  | task task =>
      exact
        (standing.advanceStage ticket task.stage).stays
          (concluded_runTask session ticket task).stays
  | timer timer =>
      simp only [Session.runJob]
      split
      · exact standing.stays (stays_runErrand session timer.work)
      · exact
          ⟨standing.app, standing.kept, standing.nonempty,
            standing.isMap⟩

/-- A task whose action starts over does all of it, or stays. -/
theorem startsOverOrStays_runTask
    {app : AppDocument}
    {session : Session}
    (standing : IsStanding app session)
    (ticket : Nat)
    {task : Task}
    {action : Action}
    {depth : Nat}
    (isStart : task.stage = .start action depth)
    (startsOver : action.kind.startsOver = true) :
    StartsOverOrStays session action depth
      (session.runTask ticket task) := by
  have concluded := (concluded_runTask session ticket task).stays
  rw [isStart] at concluded
  simp only [advanceStage] at concluded
  split at concluded
  · rename_i tooDeep
    refine .stayed ?_ concluded
    rintro _ _ ⟨_, allowed⟩ _
    omega
  · rename_i notTooDeep
    cases isWired : session.wiring with
    | none =>
        simp only [isWired] at concluded
        refine .stayed ?_ concluded
        rintro _ _ ⟨wired, _⟩ _
        simp [isWired] at wired
    | some wiring =>
        simp only [isWired] at concluded
        let begun := session.note (.performed ticket action depth)
        have begins : Stays session begun :=
          ⟨rfl, rfl⟩
        obtain ⟨_, outcome⟩ :=
          startsOver_perform (standing.stays begins) wiring depth
            startsOver
        rcases outcome with
            ⟨index, target, selects, isPage, started⟩ | ⟨missing, stays⟩
        · have mayAct : session.MayAct depth :=
            ⟨by simp [isWired], Nat.le_of_not_lt notTooDeep⟩
          exact .started mayAct selects isPage
            ((started.preceded begins).stays concluded)
        · exact .stayed (fun index target _ => missing index target)
            (begins.trans (stays.trans concluded))

/-! ## Everything that may happen before the shutdown -/

theorem Moves.isStanding
    {app : AppDocument}
    {before after : Session}
    {mover : Option Nat}
    (moves : Moves before mover after)
    (standing : IsStanding app before) :
    IsStanding app after := by
  cases moves with
  | @ran entry rest takes =>
      have taken : IsStanding app { before with agenda := rest } :=
        standing.stays ⟨rfl, rfl⟩
      exact taken.runJob entry.ticket entry.job
  | slept time =>
      exact standing.stays ⟨rfl, rfl⟩
  | wired wiring =>
      exact standing.stays ⟨rfl, rfl⟩
  | rewired change =>
      exact standing.stays ⟨rfl, rfl⟩
  | destroyed =>
      exact standing.stays ⟨rfl, rfl⟩
  | connected network =>
      exact standing.stays ⟨rfl, rfl⟩

/--
What may happen to a session before it is stopped.  Observers may crash: then
the watchers, the agenda and the journal are in whatever state that leaves
them, and the state and the pages are not theirs to change.
-/
inductive Continues
    (before : Session) : Session → Prop where
  | moved
      {mover : Option Nat}
      {next : Session} :
      Moves before mover next →
      Continues before next
  | launched
      (origin : Origin)
      (stage : Stage) :
      Continues before (before.launch origin stage).1
  | wrote
      (path : String)
      (value : Value) :
      Continues before (before.setState path value).session
  | watched
      (path : String)
      (config : WatchConfig)
      (depth : Nat) :
      Continues before (before.addWatcher path config depth)
  | unwatched
      (path : String) :
      Continues before (before.removeWatchers path).1
  | unwatchedOne
      (path : String)
      (config : WatchConfig) :
      Continues before (before.removeWatcher path config).1
  | listened
      (name : String)
      (crash? : PageEvent → String → Option String) :
      Continues before
        { before with pages := (before.pages.listen name crash?).1 }
  | unlistened
      (number : Nat) :
      Continues before
        { before with pages := before.pages.unlisten number }
  | disturbed
      (desk : WatchDesk Job)
      (journal : List Occurrence) :
      Continues before
        { before with toWatchDesk := desk, journal := journal }

theorem Continues.isStanding
    {app : AppDocument}
    {before after : Session}
    (continues : Continues before after)
    (standing : IsStanding app before) :
    IsStanding app after := by
  cases continues with
  | moved moves =>
      exact moves.isStanding standing
  | launched origin stage =>
      exact standing.stays ⟨rfl, rfl⟩
  | wrote path value =>
      exact standing.setState path value
  | watched path config depth =>
      exact standing.stays (stays_addWatcher before path config depth)
  | unwatched path =>
      exact standing.stays ⟨rfl, rfl⟩
  | unwatchedOne path config =>
      exact standing.stays ⟨rfl, rfl⟩
  | listened name crash? =>
      have kept := standing.kept.perform (.listen name crash?)
      exact ⟨standing.app, kept, standing.nonempty, standing.isMap⟩
  | unlistened number =>
      have kept := standing.kept.perform (.unlisten number)
      exact ⟨standing.app, kept, standing.nonempty, standing.isMap⟩
  | disturbed desk journal =>
      exact standing.stays ⟨rfl, rfl⟩

/-- A session of an application has come about, and has not been stopped. -/
inductive Ongoing
    (app : AppDocument) : Session → Prop where
  | inert
      (settings : Settings)
      (capacity : Nat) :
      Ongoing app (inert app settings capacity)
  | booted
      (settings : Settings)
      (functions : Registry) :
      Ongoing app (boot app settings functions)
  | continued
      {before after : Session} :
      Ongoing app before →
      Continues before after →
      Ongoing app after

section

variable {app : AppDocument}
variable (exists_initial : (app.page? app.initialPageId).isSome)
include exists_initial

/-- A session begins on its initial page. -/
theorem isStanding_inert
    (settings : Settings)
    (capacity : Nat) :
    IsStanding app (inert app settings capacity) where
  app :=
    (PageStack.app_perform (PageStack.isKept_empty app capacity)
      (.push app.initialPageId [])).1
  kept :=
    (PageStack.isKept_empty app capacity).perform
      (.push app.initialPageId [])
  nonempty := by
    obtain ⟨page, found⟩ := Option.isSome_iff_exists.mp exists_initial
    simp [inert, PageStack.ofApp, PageStack.push, found]
  isMap :=
    ⟨_, rfl⟩

theorem isStanding_boot
    (settings : Settings)
    (functions : Registry) :
    IsStanding app (boot app settings functions) := by
  have declared :
      ∀ (declarations : List WatchDeclaration) (session : Session),
        IsStanding app session →
        IsStanding app (declarations.foldl addDeclared session) := by
    intro declarations
    induction declarations with
    | nil =>
        exact fun _ => id
    | cons declaration declarations inductionHypothesis =>
        intro session standing
        refine inductionHypothesis _ ?_
        unfold addDeclared
        split
        · exact standing.stays (stays_addWatcher session _ _ _)
        · exact standing
  have wired :
      Stays (inert app settings (pageCapacity app settings))
        { inert app settings (pageCapacity app settings) with
          watch := { functions := functions },
          wiring := some { isObserved := true } } :=
    ⟨rfl, rfl⟩
  exact declared _ _
    ((isStanding_inert exists_initial settings _).stays wired)

theorem Ongoing.isStanding
    {session : Session}
    (ongoing : Ongoing app session) :
    IsStanding app session := by
  induction ongoing with
  | inert settings capacity =>
      exact isStanding_inert exists_initial settings capacity
  | booted settings functions =>
      exact isStanding_boot exists_initial settings functions
  | continued _ continues inductionHypothesis =>
      exact continues.isStanding inductionHypothesis

/--
Before the shutdown there is always a page to be shown.  A task that carries
out an action that starts over has by then selected the tab and left the page
alone on the stack, if the page exists; otherwise, or if actions are not
carried out, the state, the responses and the pages are as they were.  What
else follows from the action, an action for its failure or a watcher's, has
yet to run.
-/
theorem ongoing_never_stranded
    {session : Session}
    (ongoing : Ongoing app session) :
    session.pages.entries ≠ [] ∧
      (∃ page, session.pages.currentPage? = some page) ∧
      ∀ {entry : Ticketed Job} {rest : Agenda Job} {task : Task}
        {action : Action} {depth : Nat},
        session.agenda.Takes entry rest →
        entry.job = .task task →
        task.stage = .start action depth →
        action.kind.startsOver = true →
          StartsOverOrStays session action depth
            ({ session with agenda := rest }.runJob entry.ticket
              entry.job) := by
  have standing := ongoing.isStanding exists_initial
  refine ⟨standing.nonempty, standing.exists_currentPage, ?_⟩
  intro entry rest task action depth _ isTask isStart startsOver
  have taken : Stays session { session with agenda := rest } :=
    ⟨rfl, rfl⟩
  rw [isTask]
  rcases
    startsOverOrStays_runTask (standing.stays taken) entry.ticket isStart
      startsOver with
      ⟨mayAct, selects, isPage, started⟩ | ⟨missing, stays⟩
  · exact .started mayAct selects isPage (started.preceded taken)
  · exact .stayed missing (taken.trans stays)

end

/-- An application with a tab for each of its two pages. -/
def twoTabs : AppDocument where
  pages :=
    [⟨"home", "", .null⟩, ⟨"cart", "", .null⟩]
  router :=
    { initialPageId := "home" }
  tabBar :=
    some
      ⟨0, [⟨"Home", "home", none, none, false⟩,
        ⟨"Cart", "cart", none, none, false⟩]⟩

/-- Switch to the second tab. -/
def switchToCart : Action where
  kind :=
    .switchTab (some 1) none
  params :=
    [("from", .string "home")]
  onError :=
    none

/-- A session that is about to switch tabs, on a screen that will crash. -/
def switchingSession : Session :=
  (((boot twoTabs {}).wire
      { presenter := .screen ["switchTab"], isObserved := true }).launch
    .dispatched (.start switchToCart 0)).1

/-- The tab is switched although the screen crashes. -/
theorem ongoing_never_stranded_switchToCart :
    ∃ (entry : Ticketed Job) (rest : Agenda Job),
      (twoTabs.page? twoTabs.initialPageId).isSome ∧
        Ongoing twoTabs switchingSession ∧
        switchingSession.agenda.Takes entry rest ∧
        StartedOver switchingSession 1 "cart" [("from", .string "home")]
          ({ switchingSession with agenda := rest }.runJob entry.ticket
            entry.job) := by
  have exists_initial : (twoTabs.page? twoTabs.initialPageId).isSome := by
    decide +kernel
  have ongoing : Ongoing twoTabs switchingSession :=
    .continued (.continued (.booted {} .defaults) (.moved (.wired _)))
      (.launched .dispatched _)
  have takes :
      switchingSession.agenda.Takes
        ⟨0, .task ⟨.dispatched, .start switchToCart 0, none⟩⟩
        { switchingSession.agenda with ready := [] } :=
    ⟨[], [], rfl, rfl⟩
  refine ⟨_, _, exists_initial, ongoing, takes, ?_⟩
  have switches :=
    (ongoing_never_stranded exists_initial ongoing).2.2 takes rfl rfl rfl
  have second : twoTabs.tabPage? 1 = some "cart" := by
    decide +kernel
  cases switches with
  | started _ selects _ started =>
      cases selects with
      | byIndex found =>
          cases second.symm.trans found
          exact started
  | stayed missing _ =>
      have isThere : (twoTabs.page? "cart").isSome := by
        decide +kernel
      have lacks : twoTabs.page? "cart" = none :=
        missing 1 "cart" ⟨rfl, Nat.zero_le _⟩ (.byIndex second)
      rw [lacks] at isThere
      cases isThere

end Session

end Mockup
