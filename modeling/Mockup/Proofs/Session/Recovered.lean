import Mockup.Proofs.Session.Involved

namespace Mockup

/-!
# Actions that recover

An action that fails, and is not passed over, goes on in its task with the
action for its failure.  Its outcome is clear from then on, before the turn of
that action comes.  In its turn the action for the failure is carried out,
unless it lies too deep or the session has been made inert meanwhile.
-/

namespace Session

/-! ## Attempts do not recover by themselves -/

namespace Attempt

/-- An attempt that does not end its action as a recovered one. -/
def LeavesOpen
    (attempt : Attempt Sequel) :
    Prop :=
  attempt.outcome ≠ .ok (.finish .recovered)

theorem leavesOpen_refuse
    (session : Session)
    (failure : Failure) :
    LeavesOpen (session.refuse failure) := by
  rintro ⟨⟩

theorem leavesOpen_completed
    (session : Session) :
    LeavesOpen (session.succeed completed) := by
  rintro ⟨⟩

theorem leavesOpen_ofNext
    (session : Session)
    (next : Option Action) :
    LeavesOpen (session.succeed (.ofNext next)) := by
  cases next <;> rintro ⟨⟩

/-- The last of several attempts in a row ends the action. -/
theorem leavesOpen_andThen
    {attempt : Attempt α}
    {next : Session → α → Attempt Sequel}
    (last : ∀ session result, (next session result).LeavesOpen) :
    (attempt.andThen next).LeavesOpen := by
  unfold andThen
  split
  · exact last _ _
  · rintro ⟨⟩

end Attempt

open Attempt (LeavesOpen leavesOpen_refuse leavesOpen_completed
  leavesOpen_ofNext leavesOpen_andThen)

section

variable (session : Session) (wiring : Wiring)

theorem leavesOpen_present
    (shown : Presentation) :
    LeavesOpen
      ((session.present wiring shown).andThen
        fun after _ => after.succeed completed) :=
  leavesOpen_andThen fun after _ => leavesOpen_completed after

theorem leavesOpen_goTo
    (move : PageStack → PageStack × Except Failure Unit)
    (pageId : String)
    (params : Entries Value) :
    LeavesOpen (session.goTo wiring move pageId params) :=
  leavesOpen_andThen fun moved _ => leavesOpen_present moved wiring _

theorem leavesOpen_showOverlay
    (found : Except Failure α)
    (present : α → Presentation) :
    LeavesOpen (session.showOverlay wiring found present) := by
  unfold showOverlay
  split
  · exact leavesOpen_refuse session _
  · exact leavesOpen_present session wiring _

theorem leavesOpen_navigateBack
    (params : Entries Value) :
    LeavesOpen (session.navigateBack wiring params) := by
  unfold navigateBack
  simp only
  split
  · rintro ⟨⟩
  · exact leavesOpen_andThen fun moved _ =>
      leavesOpen_present moved wiring _

theorem leavesOpen_switchTab
    (tabIndex : Option Nat)
    (pageId : Option String)
    (params : Entries Value)
    (depth : Nat) :
    LeavesOpen (session.switchTab wiring tabIndex pageId params depth) := by
  unfold switchTab
  split
  · exact leavesOpen_refuse session _
  · exact leavesOpen_andThen fun moved _ =>
      leavesOpen_present moved wiring _

theorem leavesOpen_showToast
    (inline : Option ToastSpec)
    (id : Option String) :
    LeavesOpen (session.showToast wiring inline id) := by
  unfold showToast
  split
  · exact leavesOpen_refuse session _
  · exact leavesOpen_andThen fun shown _ => leavesOpen_completed _

theorem leavesOpen_updateState
    (path : String)
    (value : Value)
    (depth : Nat) :
    LeavesOpen (session.updateState wiring path value depth) := by
  unfold updateState
  split
  · exact leavesOpen_refuse session _
  · exact leavesOpen_andThen fun written _ =>
      leavesOpen_present written wiring _

theorem leavesOpen_perform
    (action : Action)
    (depth : Nat) :
    LeavesOpen (session.perform wiring action depth) := by
  unfold perform
  simp only
  split
  · exact leavesOpen_goTo session wiring _ _ _
  · exact leavesOpen_goTo session wiring _ _ _
  · exact leavesOpen_andThen fun moved _ =>
      leavesOpen_present moved wiring _
  · exact leavesOpen_navigateBack session wiring _
  · exact leavesOpen_switchTab session wiring _ _ _ _
  · exact leavesOpen_showOverlay session wiring _ _
  · exact leavesOpen_showOverlay session wiring _ _
  · exact leavesOpen_showToast session wiring _ _
  · exact leavesOpen_showOverlay session.disarmToast wiring _ _
  · exact leavesOpen_showOverlay session wiring _ _
  · exact leavesOpen_showOverlay session wiring _ _
  · rintro ⟨⟩
  · exact leavesOpen_updateState session wiring _ _ _
  · rintro ⟨⟩
  · rintro ⟨⟩

theorem leavesOpen_receive
    (ticket : Nat)
    (action : Action)
    (depth : Nat) :
    LeavesOpen (session.receive ticket wiring action depth) := by
  unfold receive
  split
  · split
    · exact leavesOpen_refuse session _
    · exact leavesOpen_andThen fun written _ =>
        leavesOpen_ofNext written _
  · rintro ⟨⟩

end

/-! ## What becomes of an action -/

/-- A stage of an action at a depth, before anything has come of it. -/
inductive Stage.Carries
    (action : Action)
    (depth : Nat) : Stage → Prop where
  | start :
      Carries action depth (.start action depth)
  | continues
      {stage : Stage} :
      Stage.Continues action depth stage →
      Carries action depth stage
  | void :
      Carries action depth .void

/-- An action fails at a stage: when it is carried out, or when answered. -/
inductive FailsAt
    (session : Session)
    (ticket : Nat)
    (action : Action)
    (depth : Nat)
    (failure : Failure) : Stage → Prop where
  | performed
      {wiring : Wiring} :
      depth ≤ session.settings.cascadeLimit →
      session.wiring = some wiring →
      ((session.note (.performed ticket action depth)).perform wiring
          action depth).outcome = .error failure →
      FailsAt session ticket action depth failure (.start action depth)
  | answered
      {wiring : Wiring} :
      (session.receive ticket wiring action depth).outcome =
          .error failure →
      FailsAt session ticket action depth failure
        (.answered wiring action depth)

/-- The stage of an action's fallback, which is told of the failure. -/
def fallbackStage
    (fallback : Action)
    (failure : Failure)
    (depth : Nat) :
    Stage :=
  .start (fallback.withParam "error" (.string failure.explanation))
    (depth + 1)

/-- What may become of an action at a stage. -/
inductive Progress.ComesOf
    (session : Session)
    (ticket : Nat)
    (action : Action)
    (depth : Nat)
    (stage : Stage) : Progress → Prop where
  | ended
      {outcome : Outcome} :
      outcome ≠ .recovered →
      ComesOf session ticket action depth stage (.ended outcome)
  | waits
      {delay : Nat}
      {next : Stage} :
      Stage.Carries action depth next →
      ComesOf session ticket action depth stage (.wait delay next)
  | follows
      {outcome : Outcome}
      {next : Stage} :
      outcome ≠ .recovered →
      ComesOf session ticket action depth stage (.follow outcome next)
  | fails
      {failure : Failure}
      {fallback : Action} :
      FailsAt session ticket action depth failure stage →
      failure.isPassedOver = false →
      action.onError = some fallback →
      ComesOf session ticket action depth stage
        (.follow .recovered (fallbackStage fallback failure depth))

theorem comesOf_conclude
    {session : Session}
    {ticket : Nat}
    {action : Action}
    {depth : Nat}
    {stage : Stage}
    {attempt : Attempt Sequel}
    (leavesOpen : attempt.LeavesOpen)
    (waits :
      ∀ delay next,
        attempt.outcome = .ok (.wait delay next) →
        Stage.Carries action depth next)
    (fails :
      ∀ failure,
        attempt.outcome = .error failure →
        FailsAt session ticket action depth failure stage) :
    Progress.ComesOf session ticket action depth stage
      (conclude action depth attempt.outcome) := by
  unfold Attempt.LeavesOpen at leavesOpen
  cases outcome : attempt.outcome with
  | ok sequel =>
      cases sequel with
      | finish ending =>
          refine .ended ?_
          rintro rfl
          exact leavesOpen outcome
      | follow next =>
          exact .follows (by decide)
      | wait delay next =>
          exact .waits (waits delay next outcome)
  | error failure =>
      simp only [conclude]
      split
      · exact .ended (by decide)
      · rename_i notPassedOver
        split
        · rename_i fallback isFallback
          exact .fails (fails failure outcome)
            (Bool.eq_false_iff.mpr notPassedOver) isFallback
        · exact .ended (by decide)

/-- What becomes of an action at any of its stages. -/
theorem comesOf_advanceStage
    (session : Session)
    (ticket : Nat)
    {action : Action}
    {depth : Nat}
    {stage : Stage}
    (carries : Stage.Carries action depth stage) :
    Progress.ComesOf session ticket action depth stage
      (session.advanceStage ticket stage).2 := by
  cases carries with
  | start =>
      simp only [advanceStage]
      split
      · exact .ended (by decide)
      · rename_i inLimit
        split
        · exact .ended (by decide)
        · rename_i wiring isWired
          refine comesOf_conclude (leavesOpen_perform _ wiring _ _) ?_
            fun failure failed =>
              .performed (Nat.le_of_not_lt inLimit) isWired failed
          intro delay next waits
          rcases acts_perform
              (session.note (.performed ticket action depth)) wiring
              action depth with
              acts | ⟨_, other, continues, same⟩
          · cases acts.result _ waits
          · rw [same] at waits
            cases waits
            exact .continues continues
  | continues continues =>
      cases continues with
      | answered =>
          refine comesOf_conclude (leavesOpen_receive _ _ _ _ _) ?_
            fun failure failed => .answered failed
          intro delay next waits
          obtain ⟨_, _, acts⟩ :=
            acts_receive session ticket _ action depth
          cases acts.result _ waits
      | rested =>
          refine comesOf_conclude (leavesOpen_ofNext session _) ?_ ?_
          · intro delay next waits
            cases further : action.kind.followUp? with
            | none =>
                simp [further, succeed, Sequel.ofNext, completed] at waits
            | some other =>
                simp [further, succeed, Sequel.ofNext] at waits
          · rintro failure ⟨⟩
  | void =>
      exact .ended (by decide)

/-! ## Turns -/

/-- A task has its turn: it is taken off the agenda, and runs. -/
def HasTurn
    (ticket : Nat)
    (task : Task)
    (first turn : Session) :
    Prop :=
  ∃ before rest,
    Relation.ReflTransGen HappensTo first before ∧
      before.agenda.Takes ⟨ticket, .task task⟩ rest ∧
      turn = { before with agenda := rest }

/-- An action fails in a turn of its task, which goes on by itself. -/
def FailsInTurn
    (ticket : Nat)
    (origin : Origin)
    (action : Action)
    (depth : Nat)
    (failure : Failure)
    (first after : Session) :
    Prop :=
  ∃ stage turn,
    HasTurn ticket ⟨origin, stage, none⟩ first turn ∧
      FailsAt turn ticket action depth failure stage ∧
      after = turn.runTask ticket ⟨origin, stage, none⟩

theorem settings_eq_of_becomes
    {first last : Session}
    (becomes : Relation.ReflTransGen HappensTo first last) :
    last.settings = first.settings := by
  induction becomes with
  | refl =>
      rfl
  | tail _ further inductionHypothesis =>
      obtain ⟨_, happens⟩ := further
      exact happens.settings_eq.trans inductionHypothesis

theorem HasTurn.settings_eq
    {ticket : Nat}
    {task : Task}
    {first turn : Session}
    (hasTurn : HasTurn ticket task first turn) :
    turn.settings = first.settings := by
  obtain ⟨before, _, becomes, _, rfl⟩ := hasTurn
  have settings : before.settings = first.settings :=
    settings_eq_of_becomes becomes
  exact settings

theorem FailsInTurn.settings_eq
    {ticket : Nat}
    {origin : Origin}
    {action : Action}
    {depth : Nat}
    {failure : Failure}
    {first after : Session}
    (fails :
      FailsInTurn ticket origin action depth failure first after) :
    after.settings = first.settings := by
  obtain ⟨_, turn, hasTurn, _, rfl⟩ := fails
  exact (Happens.settings_runJob turn ticket (.task _)).trans
    hasTurn.settings_eq

/-- The jobs with a ticket are tasks of which something holds. -/
def IsAt
    (ticket : Nat)
    (expected : Task → Prop)
    (session : Session) :
    Prop :=
  ∀ job,
    ⟨ticket, job⟩ ∈ session.agenda.entries →
    ∃ task, job = .task task ∧ expected task

section

variable {ticket : Nat} {origin : Origin} {action : Action} {depth : Nat}

/-- The phases of a task whose action may recover. -/
inductive Recovering
    (ticket : Nat)
    (origin : Origin)
    (action : Action)
    (depth : Nat)
    (first : Session) : Session → Prop where
  /-- Nothing has come of the action yet. -/
  | pending
      {session : Session} :
      IsAt ticket
        (fun task =>
          ∃ stage,
            task = ⟨origin, stage, none⟩ ∧
              Stage.Carries action depth stage)
        session →
      session.outcome? ticket = none →
      Recovering ticket origin action depth first session
  /-- The action has come to another end. -/
  | settled
      {session : Session} :
      IsAt ticket
        (fun task =>
          ∃ stage outcome,
            task = ⟨origin, stage, some outcome⟩ ∧
              outcome ≠ .recovered)
        session →
      session.outcome? ticket ≠ some .recovered →
      Recovering ticket origin action depth first session
  /-- The action has failed, and its fallback is to come. -/
  | failed
      {session after : Session}
      {failure : Failure}
      {fallback : Action} :
      action.onError = some fallback →
      failure.isPassedOver = false →
      FailsInTurn ticket origin action depth failure first after →
      Relation.ReflTransGen HappensTo after session →
      IsAt ticket
        (· = ⟨origin, fallbackStage fallback failure depth,
          some .recovered⟩)
        session →
      session.outcome? ticket = none →
      Recovering ticket origin action depth first session
  /-- The fallback has had its turn. -/
  | fellBack
      {session after turn : Session}
      {failure : Failure}
      {fallback : Action} :
      action.onError = some fallback →
      failure.isPassedOver = false →
      FailsInTurn ticket origin action depth failure first after →
      HasTurn ticket
        ⟨origin, fallbackStage fallback failure depth, some .recovered⟩
        after turn →
      Relation.ReflTransGen HappensTo
        (turn.runTask ticket
          ⟨origin, fallbackStage fallback failure depth,
            some .recovered⟩)
        session →
      Recovering ticket origin action depth first session

/-- What the others do leaves a task where it is, but for a void stage. -/
theorem IsAt.left
    {before after : Session}
    {mover : Option Nat}
    {expected : Task → Prop}
    (isAt : IsAt ticket expected before)
    (woken :
      ∀ origin action depth settled,
        expected ⟨origin, .rested action depth, settled⟩ →
        expected ⟨origin, .void, settled⟩)
    (happens : Happens before mover after)
    (given : ticket < before.agenda.nextTicket)
    (foreign : mover ≠ some ticket) :
    IsAt ticket expected after := by
  intro job member
  obtain ⟨old, wasThere, same⟩ := happens.left given foreign member
  obtain ⟨task, rfl, isExpected⟩ := isAt old wasThere
  rcases same with rfl | wakes
  · exact ⟨task, rfl, isExpected⟩
  · obtain ⟨_, _, _, _, isRested, rfl⟩ := exists_of_woken? wakes
    cases isRested
    exact ⟨_, rfl, woken _ _ _ _ isExpected⟩

/-- The others do not report on a task. -/
theorem Happens.outcome?_eq
    {before after : Session}
    {mover : Option Nat}
    (happens : Happens before mover after)
    (given : ticket < before.agenda.nextTicket)
    (foreign : mover ≠ some ticket) :
    after.outcome? ticket = before.outcome? ticket := by
  rcases happens.grows with moves | grows | ⟨_, rfl⟩
  · exact (moves.leaves given foreign).outcome
  · exact grows.outcomes ticket
  · rfl

/-- The others leave a task in its phase. -/
theorem Recovering.others
    {first before after : Session}
    {mover : Option Nat}
    (phase : Recovering ticket origin action depth first before)
    (happens : Happens before mover after)
    (given : ticket < before.agenda.nextTicket)
    (foreign : mover ≠ some ticket) :
    Recovering ticket origin action depth first after := by
  have outcome := happens.outcome?_eq given foreign
  cases phase with
  | pending isAt unfinished =>
      refine .pending (isAt.left ?_ happens given foreign)
        (outcome.trans unfinished)
      rintro _ _ _ _ ⟨stage, same, carries⟩
      cases same
      exact ⟨.void, rfl, .void⟩
  | settled isAt notRecovered =>
      refine .settled (isAt.left ?_ happens given foreign) ?_
      · rintro _ _ _ _ ⟨stage, ending, same, different⟩
        cases same
        exact ⟨.void, ending, rfl, different⟩
      · rw [outcome]
        exact notRecovered
  | failed isFallback notPassedOver fails since isAt unfinished =>
      refine .failed isFallback notPassedOver fails
        (since.tail ⟨mover, happens⟩)
        (isAt.left ?_ happens given foreign) (outcome.trans unfinished)
      rintro _ _ _ _ ⟨⟩
  | fellBack isFallback notPassedOver fails hasTurn since =>
      exact .fellBack isFallback notPassedOver fails hasTurn
        (since.tail ⟨mover, happens⟩)

theorem isAt_of_lacks
    {session : Session}
    (lacks : session.agenda.Lacks ticket)
    (expected : Task → Prop) :
    IsAt ticket expected session :=
  fun job member => absurd rfl (lacks.absent ⟨ticket, job⟩ member)

theorem isAt_of_perm
    {session : Session}
    {agenda : Agenda Job}
    {task : Task}
    {expected : Task → Prop}
    (perm :
      agenda.entries.Perm
        (⟨ticket, .task task⟩ :: session.agenda.entries))
    (lacks : session.agenda.Lacks ticket)
    (isExpected : expected task) :
    IsAt ticket expected { session with agenda := agenda } :=
  fun _ member =>
    ⟨task, eq_of_mem_of_perm perm lacks member, isExpected⟩

/-- A turn of a task of whose action nothing has come. -/
theorem recovering_of_pending
    {first turn : Session}
    {stage : Stage}
    (hasTurn : HasTurn ticket ⟨origin, stage, none⟩ first turn)
    (carries : Stage.Carries action depth stage)
    (lacks : turn.agenda.Lacks ticket)
    (unfinished : turn.outcome? ticket = none) :
    Recovering ticket origin action depth first
      (turn.runTask ticket ⟨origin, stage, none⟩) := by
  obtain ⟨sameOutcome, stillLacks⟩ :=
    advanceStage_own turn ticket stage lacks
  have comes := comesOf_advanceStage turn ticket carries
  have concluded :=
    concluded_runTask turn ticket ⟨origin, stage, none⟩
  rw [unfinished] at sameOutcome
  generalize isAfter :
    turn.runTask ticket ⟨origin, stage, none⟩ = after at concluded ⊢
  generalize (turn.advanceStage ticket stage).1 = between
    at concluded sameOutcome stillLacks
  generalize (turn.advanceStage ticket stage).2 = progress
    at concluded comes
  cases comes with
  | @ended outcome different =>
      cases concluded
      refine .settled (isAt_of_lacks stillLacks _) ?_
      rw [outcome?_note_finished, sameOutcome]
      simpa using different
  | waits carriesOn =>
      cases concluded with
      | wait perm _ =>
          exact .pending
            (isAt_of_perm perm stillLacks ⟨_, rfl, carriesOn⟩) sameOutcome
  | follows different =>
      cases concluded with
      | follow perm _ =>
          have notRecovered :
              between.outcome? ticket ≠ some .recovered := by
            simp [sameOutcome]
          exact .settled
            (isAt_of_perm perm stillLacks ⟨_, _, rfl, different⟩)
            notRecovered
  | fails failsAt notPassedOver isFallback =>
      cases concluded with
      | follow perm _ =>
          exact .failed isFallback notPassedOver
            ⟨stage, turn, hasTurn, failsAt, isAfter.symm⟩ .refl
            (isAt_of_perm perm stillLacks rfl) sameOutcome

/-- A turn of a task whose action has come to another end. -/
theorem recovering_of_settled
    {first turn : Session}
    {stage : Stage}
    {ending : Outcome}
    (different : ending ≠ .recovered)
    (lacks : turn.agenda.Lacks ticket)
    (notRecovered : turn.outcome? ticket ≠ some .recovered) :
    Recovering ticket origin action depth first
      (turn.runTask ticket ⟨origin, stage, some ending⟩) := by
  obtain ⟨sameOutcome, stillLacks⟩ :=
    advanceStage_own turn ticket stage lacks
  have concluded :=
    concluded_runTask turn ticket ⟨origin, stage, some ending⟩
  rw [← sameOutcome] at notRecovered
  generalize turn.runTask ticket ⟨origin, stage, some ending⟩ = after
    at concluded ⊢
  generalize (turn.advanceStage ticket stage).1 = between
    at concluded notRecovered stillLacks
  generalize (turn.advanceStage ticket stage).2 = progress at concluded
  cases concluded with
  | ended =>
      refine .settled (isAt_of_lacks stillLacks _) ?_
      rw [outcome?_note_finished]
      -- Of two ends the first one counts.
      cases finished : between.outcome? ticket with
      | none =>
          simpa using different
      | some outcome =>
          simpa [finished] using notRecovered
  | follow perm _ =>
      exact .settled
        (isAt_of_perm perm stillLacks ⟨_, _, rfl, different⟩)
        notRecovered
  | wait perm _ =>
      exact .settled
        (isAt_of_perm perm stillLacks ⟨_, _, rfl, different⟩)
        notRecovered

/-- A turn of the task itself takes it to its next phase. -/
theorem Recovering.own
    {first before after : Session}
    (phase : Recovering ticket origin action depth first before)
    (happens : Happens before (some ticket) after)
    (becomes : Relation.ReflTransGen HappensTo first before)
    (orderly : IsOrderly before) :
    Recovering ticket origin action depth first after := by
  have happensTo : HappensTo before after := ⟨_, happens⟩
  obtain ⟨⟨_, job⟩, rest, takes, rfl, rfl⟩ := happens.exists_takes
  have isThere := takes.perm.mem_iff.mpr List.mem_cons_self
  have lacks := (orderly.agenda.taken takes).2
  cases phase with
  | pending isAt unfinished =>
      obtain ⟨_, rfl, stage, rfl, carries⟩ := isAt job isThere
      exact recovering_of_pending ⟨before, rest, becomes, takes, rfl⟩
        carries lacks unfinished
  | settled isAt notRecovered =>
      obtain ⟨_, rfl, stage, ending, rfl, different⟩ := isAt job isThere
      exact recovering_of_settled different lacks notRecovered
  | failed isFallback notPassedOver fails since isAt _ =>
      obtain ⟨_, rfl, rfl⟩ := isAt job isThere
      exact .fellBack isFallback notPassedOver fails
        ⟨before, rest, since, takes, rfl⟩ .refl
  | fellBack isFallback notPassedOver fails hasTurn since =>
      exact .fellBack isFallback notPassedOver fails hasTurn
        (since.tail happensTo)

/-- Whatever happens, a task is in one of its phases. -/
theorem recovering_of_becomes
    {session : Session}
    (orderly : IsOrderly session)
    (origin : Origin)
    (action : Action)
    (depth : Nat)
    {last : Session}
    (becomes :
      Relation.ReflTransGen HappensTo
        (session.launch origin (.start action depth)).1 last) :
    IsOrderly last ∧
      session.agenda.nextTicket < last.agenda.nextTicket ∧
      Recovering session.agenda.nextTicket origin action depth
        (session.launch origin (.start action depth)).1 last := by
  induction becomes with
  | refl =>
      refine ⟨orderly.launch origin _, Nat.lt_succ_self _,
        .pending ?_ (orderly.outcomes _ (Nat.le_refl _))⟩
      have absent :
          ∀ job,
            ⟨session.agenda.nextTicket, job⟩ ∉ session.agenda.entries :=
        fun job member =>
          Nat.lt_irrefl _ (orderly.agenda.given _ member)
      have perm :=
        Agenda.entries_spawn session.agenda
          (.task ⟨origin, .start action depth, none⟩)
      intro job member
      rcases List.mem_cons.mp (perm.mem_iff.mp member) with same | isOld
      · cases same
        exact ⟨_, rfl, _, rfl, .start⟩
      · exact absurd isOld (absent job)
  | tail earlier further inductionHypothesis =>
      obtain ⟨stillOrderly, given, phase⟩ := inductionHypothesis
      obtain ⟨mover, happens⟩ := further
      refine ⟨happens.isOrderly stillOrderly,
        Nat.lt_of_lt_of_le given happens.nextTicket_le, ?_⟩
      by_cases own : mover = some session.agenda.nextTicket
      · subst own
        exact phase.own happens earlier stillOrderly
      · exact phase.others happens given own

end

/-! ## The turn of the fallback -/

theorem journal_concluded
    {between after : Session}
    {ticket : Nat}
    {task : Task}
    {progress : Progress}
    (concluded : Concluded between ticket task progress after) :
    ∃ tail, after.journal = between.journal ++ tail := by
  cases concluded with
  | ended =>
      exact ⟨_, rfl⟩
  | follow =>
      exact ⟨[], (List.append_nil _).symm⟩
  | wait =>
      exact ⟨[], (List.append_nil _).symm⟩

/-- Carrying out an action adds to the journal. -/
theorem journal_perform
    (session : Session)
    (wiring : Wiring)
    (action : Action)
    (depth : Nat) :
    ∃ news,
      (session.perform wiring action depth).session.journal =
        session.journal ++ news := by
  rcases acts_perform session wiring action depth with
      acts | ⟨_, _, _, same⟩
  · obtain ⟨_, news, adds, _⟩ := acts.acts
    exact ⟨news, adds.journal⟩
  · rw [same]
    exact ⟨[], (List.append_nil _).symm⟩

/-- A task that may carry out its action notes that it does. -/
theorem performs_of_inLimit
    {session : Session}
    {ticket : Nat}
    {task : Task}
    {action : Action}
    {depth : Nat}
    (starts : task.stage = .start action depth)
    (inLimit : depth ≤ session.settings.cascadeLimit)
    (isWired : session.isWired = true) :
    ∃ news,
      (session.runTask ticket task).journal =
        session.journal ++ .performed ticket action depth :: news := by
  obtain ⟨wiring, wired⟩ := Option.isSome_iff_exists.mp isWired
  obtain ⟨tail, ended⟩ :=
    journal_concluded (concluded_runTask session ticket task)
  obtain ⟨news, performs⟩ :=
    journal_perform (session.note (.performed ticket action depth))
      wiring action depth
  refine ⟨news ++ tail, ?_⟩
  rw [ended, starts]
  simp only [advanceStage, if_neg (Nat.not_lt.mpr inLimit), wired]
  rw [performs]
  simp [note]

/-- A task that may not carry out its action comes to its end. -/
theorem finishes_of_refused
    {session : Session}
    {ticket : Nat}
    {task : Task}
    {action : Action}
    {depth : Nat}
    {settled : Outcome}
    (starts : task.stage = .start action depth)
    (isSettled : task.settled = some settled)
    (refused :
      ¬ (depth ≤ session.settings.cascadeLimit ∧
        session.isWired = true)) :
    session.runTask ticket task =
      session.note
        (.finished session.agenda.now ticket task.origin settled) := by
  by_cases deep : session.settings.cascadeLimit < depth
  · simp [runTask, starts, isSettled, advanceStage, deep]
  · have unwired : session.wiring = none := by
      have inert : ¬ session.isWired = true := fun isWired =>
        refused ⟨Nat.le_of_not_lt deep, isWired⟩
      simpa [isWired] using inert
    simp [runTask, starts, isSettled, advanceStage, deep, unwired]

/--
A task that is launched for an action and ends as recovered has failed by
other than being passed over, and had an action for its failure, told of the
failure, take its turn.  In that turn the action for the failure was carried
out, if the cascade may be one level deeper and the session was wired still;
otherwise nothing was done but to note the end of the task.
-/
theorem fallback_of_recovered
    {session last : Session}
    (orderly : IsOrderly session)
    (origin : Origin)
    (action : Action)
    (depth : Nat)
    (becomes :
      Relation.ReflTransGen HappensTo
        (session.launch origin (.start action depth)).1 last)
    (recovered :
      last.outcome? session.agenda.nextTicket = some .recovered) :
    let ticket := session.agenda.nextTicket
    let launched := (session.launch origin (.start action depth)).1
    ∃ fallback failure failed turn,
      let told :=
        fallback.withParam "error" (.string failure.explanation)
      let task : Task :=
        ⟨origin, .start told (depth + 1), some .recovered⟩
      action.onError = some fallback ∧
        failure.isPassedOver = false ∧
        FailsInTurn ticket origin action depth failure launched failed ∧
        HasTurn ticket task failed turn ∧
        Relation.ReflTransGen HappensTo (turn.runTask ticket task) last ∧
        if depth + 1 ≤ session.settings.cascadeLimit ∧
            turn.isWired = true then
          ∃ news,
            (turn.runTask ticket task).journal =
              turn.journal ++ .performed ticket told (depth + 1) :: news
        else
          turn.runTask ticket task =
            turn.note
              (.finished turn.agenda.now ticket origin .recovered) := by
  intro ticket launched
  obtain ⟨_, _, phase⟩ :=
    recovering_of_becomes orderly origin action depth becomes
  cases phase with
  | pending _ unfinished =>
      rw [unfinished] at recovered
      cases recovered
  | settled _ notRecovered =>
      exact absurd recovered notRecovered
  | failed _ _ _ _ _ unfinished =>
      rw [unfinished] at recovered
      cases recovered
  | @fellBack failed turn failure fallback isFallback notPassedOver fails
      hasTurn since =>
      refine ⟨fallback, failure, failed, turn, isFallback, notPassedOver,
        fails, hasTurn, since, ?_⟩
      have settings : turn.settings = session.settings :=
        hasTurn.settings_eq.trans fails.settings_eq
      rw [← settings]
      split
      · rename_i accepted
        exact performs_of_inLimit rfl accepted.1 accepted.2
      · rename_i refused
        exact finishes_of_refused rfl rfl refused

/-- What a session runs through happens to it. -/
theorem Runs.becomes
    {ticket : Nat}
    {first last : Session}
    {shown : List Presentation}
    (runs : Runs ticket first last shown) :
    Relation.ReflTransGen HappensTo first last := by
  induction runs with
  | rest =>
      exact .refl
  | step _ moves inductionHypothesis =>
      exact inductionHypothesis.tail ⟨_, .moved moves⟩

/-- A request, and hiding the modal if it fails. -/
def cautiousRequest : Action where
  kind :=
    .request "/api/list" "GET" none [] none none
  params :=
    []
  onError :=
    some hideModalAction

/-- A session that is offline, with a limit to its cascades. -/
def offlineSession
    (limit : Nat) :
    Session :=
  { quietSession with
    settings := { cascadeLimit := limit },
    network := Network.stock.fail "/api/list" "offline",
    wiring := some { line := .session } }

/-- Offline, the modal has its turn to be hidden. -/
theorem fallback_of_recovered_offline :
    let session := offlineSession 1
    let launched :=
      (session.launch .dispatched (.start cautiousRequest 0)).1
    (launched.await 0).outcome? 0 = some .recovered ∧
      ∃ failure failed turn,
        failure.isPassedOver = false ∧
          FailsInTurn 0 .dispatched cautiousRequest 0 failure launched
            failed ∧
          HasTurn 0
            ⟨.dispatched, fallbackStage hideModalAction failure 0,
              some .recovered⟩
            failed turn := by
  intro session launched
  have recovered : (launched.await 0).outcome? 0 = some .recovered := by
    decide +kernel
  have orderly : IsOrderly session :=
    isOrderly_quietSession.grow (.of_eq rfl rfl)
  obtain ⟨_, runs⟩ := exists_runs_await 0 launched
  obtain ⟨fallback, failure, failed, turn, isFallback, notPassedOver,
      fails, hasTurn, _⟩ :=
    fallback_of_recovered orderly .dispatched cautiousRequest 0
      runs.becomes recovered
  cases isFallback
  exact ⟨recovered, failure, failed, turn, notPassedOver, fails, hasTurn⟩

/-- At the limit the task recovers, and the modal is never hidden. -/
theorem dispatch_cautiousRequest_atLimit :
    let dispatched :=
      (offlineSession 0).dispatch (.start cautiousRequest 0)
    dispatched.2 = some .recovered ∧
      dispatched.1.isWired = true ∧
      dispatched.1.journal =
        [.performed 0 cautiousRequest 0,
          .finished 500 0 .dispatched .recovered] :=
  ⟨by decide +kernel, by decide +kernel, by rfl⟩

end Session

end Mockup
