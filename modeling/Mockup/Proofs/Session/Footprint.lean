import Mockup.Proofs.Session.Records
import Mockup.Proofs.Session.Skipped
import Mockup.Proofs.Session.Standing

namespace Mockup

/-!
# What an action may touch

The kind of an action decides what it may touch.  Only navigation moves the
pages, only requests keep responses, each under its own URL, and few kinds
write into the state.  An action that nobody observes starts nothing besides,
unless it be a timer of the toast.
-/

namespace ActionKind

/-- Whether an action moves the pages. -/
def movesPages : ActionKind α → Bool
  | .navigateTo _ =>
      true
  | .redirectTo _ =>
      true
  | .reLaunch _ =>
      true
  | .navigateBack =>
      true
  | .switchTab _ _ =>
      true
  | _ =>
      false

/-- Where a request wants its response to be written, if anywhere. -/
def responsePath? : ActionKind α → Option String
  | .request _ _ _ _ _ path =>
      path.filter (· ≠ "")
  | _ =>
      none

/-- Whether an action may write into the state. -/
def writesState : ActionKind α → Bool
  | .reLaunch _ =>
      true
  | .switchTab _ _ =>
      true
  | .updateState _ _ =>
      true
  | kind =>
      kind.responsePath?.isSome

/-- The URL of a request. -/
def url? : ActionKind α → Option String
  | .request url _ _ _ _ _ =>
      some url
  | _ =>
      none

end ActionKind

namespace Session

/-! ## Footprints -/

/--
Some kinds of actions have been at work: the pages, the state and the
responses are as they were, unless one of the kinds may touch them, and so is
the response under every URL to which none of them sends a request.
-/
structure Footprint
    (kinds : ActionKind Action → Prop)
    (before after : Session) :
    Prop where
  pages :
    (∀ kind, kinds kind → kind.movesPages = false) →
      after.pages = before.pages
  state :
    (∀ kind, kinds kind → kind.writesState = false) →
      after.store.state = before.store.state
  responses :
    (∀ kind, kinds kind → kind.url? = none) →
      after.store.responses = before.store.responses
  elsewhere :
    ∀ url,
      (∀ kind, kinds kind → kind.url? ≠ some url) →
        after.store.response? url = before.store.response? url

/--
Some kinds of actions have been at work, and, under a condition, no job has
been started but a timer of the toast.
-/
structure Treads
    (kinds : ActionKind Action → Prop)
    (isQuiet : Prop)
    (before after : Session) :
    Prop extends Footprint kinds before after where
  jobs :
    isQuiet →
      ∀ entry ∈ after.agenda.entries,
        entry ∈ before.agenda.entries ∨ isToastTimer entry.job = true

section

variable {kinds : ActionKind Action → Prop} {isQuiet : Prop}

namespace Footprint

theorem of_stays
    {before after : Session}
    (stays : Stays before after) :
    Footprint kinds before after where
  pages _ :=
    stays.pages
  state _ :=
    congrArg Store.state stays.store
  responses _ :=
    congrArg Store.responses stays.store
  elsewhere url _ :=
    congrArg (fun store => store.response? url) stays.store

theorem trans
    {first second third : Session}
    (earlier : Footprint kinds first second)
    (later : Footprint kinds second third) :
    Footprint kinds first third where
  pages none :=
    (later.pages none).trans (earlier.pages none)
  state none :=
    (later.state none).trans (earlier.state none)
  responses none :=
    (later.responses none).trans (earlier.responses none)
  elsewhere url none :=
    (later.elsewhere url none).trans (earlier.elsewhere url none)

end Footprint

namespace Treads

/-- What stays, and adds no job, is within every footprint. -/
theorem of_stays
    {before after : Session}
    (stays : Stays before after)
    (entries : after.agenda.entries ⊆ before.agenda.entries) :
    Treads kinds isQuiet before after where
  toFootprint :=
    .of_stays stays
  jobs _ _ member :=
    Or.inl (entries member)

theorem refl
    (session : Session) :
    Treads kinds isQuiet session session :=
  .of_stays (.refl session) fun _ => id

theorem trans
    {first second third : Session}
    (earlier : Treads kinds isQuiet first second)
    (later : Treads kinds isQuiet second third) :
    Treads kinds isQuiet first third where
  toFootprint :=
    earlier.toFootprint.trans later.toFootprint
  jobs quiet entry member := by
    rcases later.jobs quiet entry member with isOld | isToast
    · exact earlier.jobs quiet entry isOld
    · exact Or.inr isToast

theorem andThen
    {before : Session}
    {attempt : Attempt α}
    {next : Session → α → Attempt β}
    (first : Treads kinds isQuiet before attempt.session)
    (later :
      ∀ session result,
        Treads kinds isQuiet session (next session result).session) :
    Treads kinds isQuiet before (attempt.andThen next).session := by
  unfold Attempt.andThen
  split
  · exact first.trans (later _ _)
  · exact first

/-- A stricter condition is enough. -/
theorem mono
    {before after : Session}
    {stricter : Prop}
    (treads : Treads kinds isQuiet before after)
    (implies : stricter → isQuiet) :
    Treads kinds stricter before after :=
  ⟨treads.toFootprint, treads.jobs ∘ implies⟩

end Treads

/-! ## Effects -/

/-- To commit a value is to set it in the store. -/
theorem commit_eq_set
    (session : Session)
    (wiring : Wiring)
    (path : String)
    (value : Value)
    (depth : Nat) :
    let attempt := session.commit wiring path value depth
    attempt.session.store = (session.store.set path value).1 ∧
      attempt.outcome = (session.store.set path value).2 := by
  unfold commit
  simp only [session_observe]
  split
  · rename_i failed
    exact ⟨rfl, failed.symm⟩
  · rename_i succeeds
    split
    · exact ⟨(stays_notify _ _ _).store, succeeds.symm⟩
    · exact ⟨rfl, succeeds.symm⟩

theorem responses_commit
    (session : Session)
    (wiring : Wiring)
    (path : String)
    (value : Value)
    (depth : Nat) :
    (session.commit wiring path value depth).session.store.responses =
      session.store.responses := by
  rw [(commit_eq_set session wiring path value depth).1, Store.set_eq]

theorem treads_present
    (session : Session)
    (wiring : Wiring)
    (shown : Presentation) :
    Treads kinds isQuiet session
      (session.present wiring shown).session := by
  unfold present
  simp only
  split <;> exact .of_stays ⟨rfl, rfl⟩ fun _ => id

theorem treads_present_completed
    (session : Session)
    (wiring : Wiring)
    (shown : Presentation) :
    Treads kinds isQuiet session
      ((session.present wiring shown).andThen
        fun after _ => after.succeed completed).session :=
  (treads_present session wiring shown).andThen fun _ _ => .refl _

theorem treads_showOverlay
    (session : Session)
    (wiring : Wiring)
    (found : Except Failure α)
    (present : α → Presentation) :
    Treads kinds isQuiet session
      (session.showOverlay wiring found present).session := by
  unfold showOverlay
  split
  · exact .refl session
  · exact treads_present_completed session wiring _

/-- The job that hides a toast is a timer of the toast. -/
theorem treads_armToast
    (session : Session)
    (duration : Nat) :
    Treads kinds isQuiet session (session.armToast duration) where
  toFootprint :=
    .of_stays ⟨rfl, rfl⟩
  jobs _ entry member := by
    refine (TimerTable.mem_entries_schedule member).imp_right ?_
    rintro rfl
    rfl

theorem treads_showToast
    (session : Session)
    (wiring : Wiring)
    (inline : Option ToastSpec)
    (id : Option String) :
    Treads kinds isQuiet session
      (session.showToast wiring inline id).session := by
  unfold showToast
  split
  · exact .refl session
  · exact (treads_present session wiring _).andThen
      fun _ _ => treads_armToast _ _

theorem treads_disarmToast
    (session : Session) :
    Treads kinds isQuiet session session.disarmToast :=
  .of_stays ⟨rfl, rfl⟩ fun _ => Agenda.mem_entries_abortAll

section

variable (session : Session)
variable {kind : ActionKind Action} (isKind : kinds kind)

section

variable (moves : kind.movesPages = true)
include isKind moves

theorem treads_movePages
    (move : PageStack → PageStack × Except Failure α) :
    Treads kinds isQuiet session (session.movePages move).session := by
  let delivered := (move session.pages).1.deliver
  let moved : Session := { session with pages := delivered.1 }
  have stays : Stays moved (session.movePages move).session :=
    stays_foldl_delivered _ _
  have untouched :
      Untouched moved (session.movePages move).session :=
    .foldl_delivered _ _
  have treads : Treads kinds isQuiet session moved := by
    refine ⟨⟨?_, fun _ => rfl, fun _ => rfl, fun _ _ => rfl⟩,
      fun _ _ => Or.inl⟩
    intro none
    rw [none kind isKind] at moves
    cases moves
  refine treads.trans (.of_stays stays ?_)
  rw [untouched.agenda]
  exact fun _ => id

theorem treads_goTo
    (wiring : Wiring)
    (move : PageStack → PageStack × Except Failure Unit)
    (pageId : String)
    (params : Entries Value) :
    Treads kinds isQuiet session
      (session.goTo wiring move pageId params).session :=
  (treads_movePages session isKind moves move).andThen
    fun _ _ => treads_present_completed _ wiring _

theorem treads_navigateBack
    (wiring : Wiring)
    (params : Entries Value) :
    Treads kinds isQuiet session
      (session.navigateBack wiring params).session := by
  unfold navigateBack
  simp only
  split
  · exact .refl session
  · exact (treads_movePages session isKind moves _).andThen
      fun _ _ => treads_present_completed _ wiring _

end

section

variable (writes : kind.writesState = true)
include isKind writes

/-- A write that nobody observes starts nothing. -/
theorem treads_commit
    (wiring : Wiring)
    (path : String)
    (value : Value)
    (depth : Nat) :
    Treads kinds (wiring.isObserved = false) session
      (session.commit wiring path value depth).session := by
  have sameResponses :=
    responses_commit session wiring path value depth
  refine ⟨⟨fun _ => pages_commit session _ path value depth, ?_,
    fun _ => sameResponses, ?_⟩, ?_⟩
  · intro none
    rw [none kind isKind] at writes
    cases writes
  · intro url _
    rw [Store.response?, sameResponses]
    rfl
  · intro unobserved entry member
    refine Or.inl ?_
    simp only [commit, session_observe, unobserved, Bool.false_eq_true,
      if_false] at member
    split at member <;> exact member

theorem treads_updateState
    (wiring : Wiring)
    (path : String)
    (value : Value)
    (depth : Nat) :
    Treads kinds (wiring.isObserved = false) session
      (session.updateState wiring path value depth).session := by
  unfold updateState
  split
  · exact .refl session
  · exact (treads_commit session isKind writes _ path value depth).andThen
      fun _ _ => treads_present_completed _ wiring _

theorem treads_startOver
    (moves : kind.movesPages = true)
    (wiring : Wiring)
    (tab : Nat)
    (pageId : String)
    (params : Entries Value)
    (depth : Nat) :
    Treads kinds (wiring.isObserved = false) session
      (session.startOver wiring tab pageId params depth).session := by
  unfold startOver
  split
  · exact .refl session
  · exact (treads_commit session isKind writes _ _ _ depth).andThen
      fun _ _ => treads_movePages _ isKind moves _

theorem treads_reLaunch
    (moves : kind.movesPages = true)
    (wiring : Wiring)
    (pageId : Option String)
    (params : Entries Value)
    (depth : Nat) :
    Treads kinds (wiring.isObserved = false) session
      (session.reLaunch wiring pageId params depth).session := by
  unfold reLaunch
  exact
    (treads_startOver session isKind writes moves wiring 0 _ params
      depth).andThen fun _ _ => treads_present_completed _ wiring _

theorem treads_switchTab
    (moves : kind.movesPages = true)
    (wiring : Wiring)
    (tabIndex : Option Nat)
    (pageId : Option String)
    (params : Entries Value)
    (depth : Nat) :
    Treads kinds (wiring.isObserved = false) session
      (session.switchTab wiring tabIndex pageId params depth).session := by
  unfold switchTab
  split
  · exact .refl session
  · exact
      (treads_startOver session isKind writes moves wiring _ _ params
        depth).andThen fun _ _ => treads_present_completed _ wiring _

end

end

/-! ## Actions -/

/-- Carrying out an action touches what its kind may touch. -/
theorem treads_perform
    (session : Session)
    (wiring : Wiring)
    {action : Action}
    (isKind : kinds action.kind)
    (depth : Nat) :
    Treads kinds (wiring.isObserved = false) session
      (session.perform wiring action depth).session := by
  unfold perform
  simp only
  cases kind : action.kind with
  | navigateTo pageId =>
      exact treads_goTo session (kind ▸ isKind) rfl wiring _ _ _
  | redirectTo pageId =>
      exact treads_goTo session (kind ▸ isKind) rfl wiring _ _ _
  | reLaunch pageId =>
      exact treads_reLaunch session (kind ▸ isKind) rfl rfl wiring _ _
        depth
  | navigateBack =>
      exact treads_navigateBack session (kind ▸ isKind) rfl wiring _
  | switchTab tabIndex pageId =>
      exact treads_switchTab session (kind ▸ isKind) rfl rfl wiring _ _ _
        depth
  | showModal modal id =>
      exact treads_showOverlay session wiring _ _
  | hideModal =>
      exact treads_showOverlay session wiring _ _
  | showToast toast id =>
      exact treads_showToast session wiring _ _
  | hideToast =>
      exact (treads_disarmToast session).trans
        (treads_showOverlay _ wiring _ _)
  | showActionSheet sheet id =>
      exact treads_showOverlay session wiring _ _
  | hideActionSheet =>
      exact treads_showOverlay session wiring _ _
  | request url method data headers onSuccess responsePath =>
      exact .refl session
  | updateState path value =>
      exact treads_updateState session (kind ▸ isKind) rfl wiring _ _ depth
  | delay duration next =>
      exact .refl session
  | unknown =>
      exact .refl session

/-- A response is kept under the URL of its request. -/
theorem treads_answered
    (session : Session)
    {kind : ActionKind Action}
    (isKind : kinds kind)
    {url : String}
    (isUrl : kind.url? = some url)
    (ticket : Nat)
    (response : Value) :
    Treads kinds isQuiet session
      (session.answered ticket url response) := by
  refine ⟨⟨fun _ => rfl, fun _ => rfl, ?_, ?_⟩, fun _ _ => Or.inl⟩
  · intro none
    rw [none kind isKind] at isUrl
    cases isUrl
  · intro other elsewhere
    have different : other ≠ url := by
      rintro rfl
      exact elsewhere kind isKind isUrl
    exact Entries.get?_insert_other _ _ different

theorem treads_receive
    (session : Session)
    (ticket : Nat)
    (wiring : Wiring)
    {action : Action}
    (isKind : kinds action.kind)
    (depth : Nat) :
    Treads kinds (wiring.isObserved = false) session
      (session.receive ticket wiring action depth).session := by
  cases kind : action.kind with
  | request url method data headers onSuccess path =>
      cases answer :
          (session.networkOf wiring.line).answer url data with
      | error failure =>
          rw [receive_of_failure ticket kind answer depth]
          exact .refl session
      | ok response =>
          rw [receive_of_response ticket kind answer depth]
          have isUrl : action.kind.url? = some url := by
            rw [kind]
            rfl
          refine Treads.andThen ?_ fun _ _ => .refl _
          refine (treads_answered session isKind isUrl ticket
            response).trans ?_
          unfold commitResponse
          split
          · exact .refl _
          · rename_i target
            split
            · exact .refl _
            · rename_i nonempty
              have writes : action.kind.writesState = true := by
                simp [kind, ActionKind.writesState,
                  ActionKind.responsePath?, nonempty]
              exact
                (treads_commit _ isKind writes _ target response
                  depth).andThen fun _ _ => .refl _
  | _ =>
      simp only [receive, kind]
      exact .refl session

end

/-! ## Stages of a task -/

/-- No change that an action makes is shown to watchers. -/
def IsUnobserved
    (session : Session) :
    Prop :=
  ∀ wiring, session.wiring = some wiring → wiring.isObserved = false

/-- No change that a stage makes is shown to watchers. -/
def IsUnobservedFor
    (stage : Stage)
    (session : Session) :
    Prop :=
  IsUnobserved session ∧
    ∀ wiring, stage.wiring? = some wiring → wiring.isObserved = false

/-- A stage touches what the kind of its action may touch. -/
theorem treads_advanceStage
    (session : Session)
    (ticket : Nat)
    {stage : Stage}
    {kinds : ActionKind Action → Prop}
    (isKind : ∀ action, stage.action? = some action → kinds action.kind) :
    Treads kinds (IsUnobservedFor stage session) session
      (session.advanceStage ticket stage).1 := by
  cases stage with
  | start action depth =>
      simp only [advanceStage]
      split
      · exact .refl session
      · split
        · exact .refl session
        · rename_i wiring isWired
          have begins :
              Stays session
                (session.note (.performed ticket action depth)) :=
            ⟨rfl, rfl⟩
          exact (Treads.of_stays begins fun _ => id).trans
            ((treads_perform _ wiring (isKind action rfl) depth).mono
              fun unobserved => unobserved.1 wiring isWired)
  | answered wiring action depth =>
      exact (treads_receive session ticket wiring (isKind action rfl)
        depth).mono fun unobserved => unobserved.2 wiring rfl
  | rested action depth =>
      exact .refl session
  | void =>
      exact .refl session

/-- A task touches what the kind of its action may touch. -/
theorem footprint_runTask
    (session : Session)
    (ticket : Nat)
    {task : Task}
    {kinds : ActionKind Action → Prop}
    (isKind :
      ∀ action, task.stage.action? = some action → kinds action.kind) :
    Footprint kinds session (session.runTask ticket task) :=
  (treads_advanceStage session ticket isKind).toFootprint.trans
    (.of_stays (concluded_runTask session ticket task).stays)

/-- A task that is not observed starts nothing but timers of the toast. -/
theorem isQuietFor_runTask
    {session : Session}
    {ticket : Nat}
    (isQuiet : IsQuietFor ticket session)
    {task : Task}
    (unobserved : IsUnobservedFor task.stage session) :
    IsQuietFor ticket (session.runTask ticket task) := by
  have treads :
      Treads (fun _ => True) (IsUnobservedFor task.stage session) session
        (session.advanceStage ticket task.stage).1 :=
    treads_advanceStage session ticket fun _ _ => trivial
  have quietBetween :
      IsQuietFor ticket (session.advanceStage ticket task.stage).1 := by
    intro entry member different
    rcases treads.jobs unobserved entry member with isOld | isToast
    · exact isQuiet entry isOld different
    · exact isToast
  have concluded := concluded_runTask session ticket task
  generalize session.runTask ticket task = after at concluded ⊢
  generalize (session.advanceStage ticket task.stage).1 = between
    at quietBetween concluded
  generalize (session.advanceStage ticket task.stage).2 = progress
    at concluded
  have back :
      ∀ {agenda : Agenda Job} {job : Job},
        agenda.entries.Perm (⟨ticket, job⟩ :: between.agenda.entries) →
        IsQuietFor ticket { between with agenda := agenda } := by
    intro agenda job perm entry member different
    rcases List.mem_cons.mp (perm.mem_iff.mp member) with rfl | isOther
    · exact absurd rfl different
    · exact quietBetween entry isOther different
  cases concluded with
  | ended =>
      exact quietBetween
  | follow perm _ =>
      exact back perm
  | wait perm _ =>
      exact back perm

/-- The stage at which a task goes on. -/
def Progress.stage? : Progress → Option Stage
  | .ended _ =>
      none
  | .follow _ stage =>
      some stage
  | .wait _ stage =>
      some stage

/-- A task that comes back is at the stage to which it has got. -/
theorem exists_stage_of_mem_runTask
    {session : Session}
    {ticket : Nat}
    (lacks : session.agenda.Lacks ticket)
    {task : Task}
    {job : Job}
    (member :
      ⟨ticket, job⟩ ∈ (session.runTask ticket task).agenda.entries) :
    ∃ stage settled,
      job = .task ⟨task.origin, stage, settled⟩ ∧
        (session.advanceStage ticket task.stage).2.stage? =
          some stage := by
  have grows :=
    (stageSpec_advanceStage session ticket task.stage).growsFor
  have stillLacks := grows.agenda.lacks lacks
  have concluded := concluded_runTask session ticket task
  generalize session.runTask ticket task = after at concluded member
  generalize (session.advanceStage ticket task.stage).1 = between
    at stillLacks concluded
  generalize (session.advanceStage ticket task.stage).2 = progress
    at concluded ⊢
  cases concluded with
  | ended =>
      exact absurd rfl (stillLacks.absent _ member)
  | follow perm _ =>
      exact ⟨_, _, eq_of_mem_of_perm perm stillLacks member, rfl⟩
  | wait perm _ =>
      exact ⟨_, _, eq_of_mem_of_perm perm stillLacks member, rfl⟩

/-- A task keeps no wiring but that of the session. -/
theorem wiring?_of_mem_runTask
    {session : Session}
    {ticket : Nat}
    (lacks : session.agenda.Lacks ticket)
    {task : Task}
    {job : Job}
    (member :
      ⟨ticket, job⟩ ∈ (session.runTask ticket task).agenda.entries) :
    job.wiring? = none ∨ job.wiring? = session.wiring := by
  obtain ⟨stage, settled, rfl, goesOn⟩ :=
    exists_stage_of_mem_runTask lacks member
  have keeps := keeps_advanceStage session ticket task.stage
  generalize (session.advanceStage ticket task.stage).2 = progress
    at keeps goesOn
  cases progress with
  | ended =>
      cases goesOn
  | follow =>
      cases goesOn
      exact Or.inl keeps
  | wait =>
      cases goesOn
      exact keeps

end Session

end Mockup
