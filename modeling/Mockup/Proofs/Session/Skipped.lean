import Mockup.Proofs.Session.Runs

namespace Mockup

/-!
# Actions that are passed over

While nothing else is under way, an action that is passed over leaves the
state, the responses and the pages as they were and shows nothing, however it
came to its end.  One kind of request is the exception: its response is kept
although it is to be written to the root, for which it is passed over.

A run is in one of three phases.  The task is undecided and nothing has
changed, or it has been passed over, or something has come of it; in the last
phase it can no longer be passed over.
-/

namespace Session

/-- Whether a job is a timer that hides the toast. -/
def isToastTimer : Job → Bool
  | .timer (.fresh _ .hideToast) =>
      true
  | .timer (.elapsed .hideToast) =>
      true
  | _ =>
      false

/-- Besides the task with a ticket there are only timers of the toast. -/
def IsQuietFor
    (ticket : Nat)
    (session : Session) :
    Prop :=
  ∀ entry ∈ session.agenda.entries,
    entry.ticket ≠ ticket → isToastTimer entry.job = true

/-- The state, the responses and the pages are given ones. -/
structure Shows
    (store : Store)
    (pages : PageStack)
    (session : Session) :
    Prop where
  store :
    session.store = store
  pages :
    { session.pages with queued := [] } = { pages with queued := [] }

theorem Untouched.shows
    {store : Store}
    {pages : PageStack}
    {before after : Session}
    (untouched : Untouched before after)
    (shows : Shows store pages before) :
    Shows store pages after where
  store :=
    untouched.store.trans shows.store
  pages :=
    untouched.pages.trans shows.pages

/-! ## What the others do -/

/-- The timer of the toast leaves the state and the pages, and comes back. -/
theorem runJob_toastTimer
    (session : Session)
    (ticket : Nat)
    {job : Job}
    (isToast : isToastTimer job = true) :
    (session.runJob ticket job).store = session.store ∧
      (session.runJob ticket job).pages = session.pages ∧
      ∀ entry ∈ (session.runJob ticket job).agenda.entries,
        entry ∈ session.agenda.entries ∨
          isToastTimer entry.job = true := by
  have hides :
      ∀ current : Session,
        (current.runErrand .hideToast).store = current.store ∧
          (current.runErrand .hideToast).pages = current.pages ∧
          (current.runErrand .hideToast).agenda = current.agenda := by
    intro current
    simp only [runErrand]
    split
    · simp only [present]
      split <;> exact ⟨rfl, rfl, rfl⟩
    · exact ⟨rfl, rfl, rfl⟩
  have elapses :
      ∀ {entry : Ticketed Job},
        entry ∈ (session.runErrand .hideToast).agenda.entries →
        entry ∈ session.agenda.entries := by
    intro entry member
    rw [(hides session).2.2] at member
    exact member
  cases job with
  | task task =>
      simp [isToastTimer] at isToast
  | timer timer =>
      cases timer with
      | elapsed work =>
          cases work with
          | fire firing =>
              simp [isToastTimer] at isToast
          | hideToast =>
              exact ⟨(hides session).1, (hides session).2.1,
                fun _ member => Or.inl (elapses member)⟩
      | fresh delay work =>
          cases work with
          | fire firing =>
              simp [isToastTimer] at isToast
          | hideToast =>
              cases delay with
              | zero =>
                  exact ⟨(hides session).1, (hides session).2.1,
                    fun _ member => Or.inl (elapses member)⟩
              | succ delay =>
                  refine ⟨rfl, rfl, ?_⟩
                  intro entry member
                  have perm :=
                    Agenda.entries_arm session.agenda (delay + 1)
                      ⟨ticket, .timer (.elapsed .hideToast)⟩
                  rcases List.mem_cons.mp (perm.mem_iff.mp member) with
                      rfl | isOther
                  · exact Or.inr rfl
                  · exact Or.inl isOther

/-- While it is quiet, the others change neither state nor pages. -/
theorem Moves.quiet
    {before after : Session}
    {mover : Option Nat}
    (moves : Moves before mover after)
    {ticket : Nat}
    (foreign : mover ≠ some ticket)
    (isQuiet : IsQuietFor ticket before)
    {store : Store}
    {pages : PageStack}
    (shows : Shows store pages before) :
    IsQuietFor ticket after ∧ Shows store pages after := by
  cases moves with
  | @ran entry rest takes =>
      have different : entry.ticket ≠ ticket := by
        rintro rfl
        exact foreign rfl
      have isToast :=
        isQuiet entry (takes.perm.mem_iff.mpr (by simp)) different
      obtain ⟨sameStore, samePages, entries⟩ :=
        runJob_toastTimer { before with agenda := rest } entry.ticket
          isToast
      refine ⟨?_, sameStore.trans shows.store, ?_⟩
      · intro other member otherTicket
        rcases entries other member with isOld | isToastToo
        · exact isQuiet other
            (takes.perm.mem_iff.mpr (List.mem_cons_of_mem _ isOld))
            otherTicket
        · exact isToastToo
      · rw [samePages]
        exact shows.pages
  | slept time =>
      refine ⟨?_, shows.store, shows.pages⟩
      intro other member
      exact isQuiet other
        ((Agenda.entries_moveTo before.agenda time).mem_iff.mp member)
  | wired wiring =>
      exact ⟨isQuiet, shows.store, shows.pages⟩
  | rewired change =>
      exact ⟨isQuiet, shows.store, shows.pages⟩
  | destroyed =>
      refine ⟨?_, shows.store, shows.pages⟩
      intro other member otherTicket
      obtain ⟨job, wasThere, same⟩ := mem_entries_destroy member
      have isToast := isQuiet ⟨other.ticket, job⟩ wasThere otherTicket
      rcases same with rfl | wakes
      · exact isToast
      · obtain ⟨_, _, _, _, rfl, _⟩ := exists_of_woken? wakes
        simp [isToastTimer] at isToast
  | connected network =>
      exact ⟨isQuiet, shows.store, shows.pages⟩

/-! ## Phases of a run -/

/-- The jobs with a ticket are tasks for an action, of which nothing has come. -/
def IsUndecidedOn
    (ticket : Nat)
    (action : Action)
    (session : Session) :
    Prop :=
  ∀ job,
    ⟨ticket, job⟩ ∈ session.agenda.entries →
    ∃ origin stage,
      job = .task ⟨origin, stage, none⟩ ∧
        ∀ other, stage.action? = some other → other = action

/-- The jobs with a ticket are tasks that have not been passed over. -/
def IsDecidedOn
    (ticket : Nat)
    (session : Session) :
    Prop :=
  ∀ job,
    ⟨ticket, job⟩ ∈ session.agenda.entries →
    ∃ origin stage outcome,
      job = .task ⟨origin, stage, some outcome⟩ ∧ outcome ≠ .skipped

/--
What an action that was passed over has left: everything as it was, apart from
the response to a request into the root.
-/
def IsSpared
    (store : Store)
    (pages : PageStack)
    (ticket : Nat)
    (action : Action)
    (session : Session) :
    Prop :=
  (session.answers ticket = [] ∧ Shows store pages session) ∨
    ∃ url response,
      action.RequestsInto url "/" ∧
        session.answers ticket = [(url, response)] ∧
        Shows (store.keepResponse url response) pages session

/-- The phases of a run, with what the task has shown to the user. -/
inductive Phase
    (store : Store)
    (pages : PageStack)
    (ticket : Nat)
    (action : Action) : Session → List Presentation → Prop where
  | undecided
      {session : Session} :
      IsQuietFor ticket session →
      IsUndecidedOn ticket action session →
      session.outcome? ticket = none →
      session.answers ticket = [] →
      Shows store pages session →
      Phase store pages ticket action session []
  | skipped
      {session : Session} :
      IsQuietFor ticket session →
      session.agenda.Lacks ticket →
      IsSpared store pages ticket action session →
      Phase store pages ticket action session []
  | decided
      {session : Session}
      {shown : List Presentation} :
      IsDecidedOn ticket session →
      session.outcome? ticket ≠ some .skipped →
      Phase store pages ticket action session shown

section

variable {store : Store} {pages : PageStack}
variable {ticket : Nat} {action : Action}

/-- An undecided task is left so by the others. -/
theorem IsUndecidedOn.left
    {before after : Session}
    (undecided : IsUndecidedOn ticket action before)
    (leaves : Leaves ticket before after) :
    IsUndecidedOn ticket action after := by
  intro job member
  obtain ⟨old, wasThere, same⟩ := leaves.entries ⟨ticket, job⟩ member rfl
  obtain ⟨origin, stage, rfl, sameAction⟩ := undecided old wasThere
  rcases same with rfl | wakes
  · exact ⟨origin, stage, rfl, sameAction⟩
  · obtain ⟨_, _, _, _, isRested, rfl⟩ := exists_of_woken? wakes
    cases isRested
    refine ⟨origin, .void, rfl, ?_⟩
    rintro _ ⟨⟩

theorem IsDecidedOn.left
    {before after : Session}
    (decided : IsDecidedOn ticket before)
    (leaves : Leaves ticket before after) :
    IsDecidedOn ticket after := by
  intro job member
  obtain ⟨old, wasThere, same⟩ := leaves.entries ⟨ticket, job⟩ member rfl
  obtain ⟨origin, stage, outcome, rfl, taken⟩ := decided old wasThere
  rcases same with rfl | wakes
  · exact ⟨origin, stage, outcome, rfl, taken⟩
  · obtain ⟨_, _, _, _, isRested, rfl⟩ := exists_of_woken? wakes
    cases isRested
    exact ⟨origin, .void, outcome, rfl, taken⟩

/-- A task that is over is left so by the others. -/
theorem Leaves.lacks
    {before after : Session}
    (leaves : Leaves ticket before after)
    (nextTicket :
      before.agenda.nextTicket ≤ after.agenda.nextTicket)
    (lacks : before.agenda.Lacks ticket) :
    after.agenda.Lacks ticket where
  given :=
    Nat.lt_of_lt_of_le lacks.given nextTicket
  absent entry member isOwn := by
    obtain ⟨job, wasThere, _⟩ := leaves.entries entry member isOwn
    exact lacks.absent ⟨ticket, job⟩ wasThere rfl

/-- The others leave a run in its phase. -/
theorem Phase.others
    {before after : Session}
    {mover : Option Nat}
    {shown : List Presentation}
    (phase : Phase store pages ticket action before shown)
    (moves : Moves before mover after)
    (given : ticket < before.agenda.nextTicket)
    (foreign : mover ≠ some ticket) :
    Phase store pages ticket action after shown := by
  have leaves := moves.leaves given foreign
  cases phase with
  | undecided isQuiet undecided unfinished unanswered shows =>
      obtain ⟨stillQuiet, stillShows⟩ :=
        moves.quiet foreign isQuiet shows
      exact .undecided stillQuiet (undecided.left leaves)
        (leaves.outcome.trans unfinished)
        (leaves.answers.trans unanswered) stillShows
  | skipped isQuiet lacks spared =>
      have stillLacks := leaves.lacks moves.nextTicket_le lacks
      rcases spared with
          ⟨unanswered, shows⟩ | ⟨url, response, requests, once, shows⟩
      · obtain ⟨stillQuiet, stillShows⟩ :=
          moves.quiet foreign isQuiet shows
        exact .skipped stillQuiet stillLacks
          (Or.inl ⟨leaves.answers.trans unanswered, stillShows⟩)
      · obtain ⟨stillQuiet, stillShows⟩ :=
          moves.quiet foreign isQuiet shows
        exact .skipped stillQuiet stillLacks
          (Or.inr ⟨url, response, requests,
            leaves.answers.trans once, stillShows⟩)
  | decided decided taken =>
      refine .decided (decided.left leaves) ?_
      rw [leaves.outcome]
      exact taken

/-- A job that comes back is the only one with its ticket. -/
theorem eq_of_mem_of_perm
    {agenda rest : Agenda Job}
    {job other : Job}
    (perm : agenda.entries.Perm (⟨ticket, job⟩ :: rest.entries))
    (lacks : rest.Lacks ticket)
    (member : ⟨ticket, other⟩ ∈ agenda.entries) :
    other = job := by
  rcases List.mem_cons.mp (perm.mem_iff.mp member) with same | isOther
  · cases same
    rfl
  · exact absurd rfl (lacks.absent ⟨ticket, other⟩ isOther)

/-! ## The task itself -/

namespace Basis

variable {session base : Session} {stage : Stage} {progress : Progress}

theorem agenda_eq
    (basis : Basis session ticket stage progress base) :
    base.agenda = session.agenda := by
  cases basis <;> rfl

theorem outcome?_eq
    (basis : Basis session ticket stage progress base) :
    base.outcome? ticket = session.outcome? ticket := by
  cases basis with
  | present =>
      rfl
  | kept _ | dropped _ _ =>
      exact outcome?_note_responded _ _ _ _ _

theorem presentations_eq
    (basis : Basis session ticket stage progress base) :
    base.presentations = session.presentations := by
  cases basis with
  | present =>
      rfl
  | kept _ | dropped _ _ =>
      exact presentations_note _ rfl

/-- A task that waits has not been answered. -/
theorem eq_of_wait
    {delay : Nat}
    {next : Stage}
    (basis : Basis session ticket stage (.wait delay next) base) :
    base = session := by
  cases basis with
  | present =>
      rfl
  | kept somethingCame =>
      simp [Progress.isUndecided] at somethingCame

/-- An action that is passed over has been answered into the root at most. -/
theorem isSpared
    (basis : Basis session ticket stage (.ended .skipped) base)
    (sameAction : ∀ other, stage.action? = some other → other = action)
    (unanswered : session.answers ticket = [])
    (shows : Shows store pages session) :
    IsSpared store pages ticket action base := by
  cases basis with
  | present =>
      exact Or.inl ⟨unanswered, shows⟩
  | kept somethingCame =>
      simp [Progress.isUndecided] at somethingCame
  | @dropped other url response isAction requests =>
      obtain rfl : other = action := sameAction other isAction
      have once :
          (session.answered ticket url response).answers ticket =
            [(url, response)] := by
        rw [answered, answers_note_responded, if_pos rfl]
        have none : session.answers ticket = [] := unanswered
        simpa [answers] using none
      have kept :
          (session.answered ticket url response).store =
            store.keepResponse url response := by
        rw [← shows.store]
        rfl
      exact Or.inr ⟨url, response, requests, once, kept, shows.pages⟩

end Basis

/-- A stage reports no end, and puts nothing under its own ticket. -/
theorem advanceStage_own
    (session : Session)
    (ticket : Nat)
    (stage : Stage)
    (lacks : session.agenda.Lacks ticket) :
    (session.advanceStage ticket stage).1.outcome? ticket =
        session.outcome? ticket ∧
      (session.advanceStage ticket stage).1.agenda.Lacks ticket := by
  obtain ⟨base, basis, grows, _⟩ :=
    (stageSpec_advanceStage session ticket stage).basis
  refine ⟨?_, grows.agenda.lacks ?_⟩
  · rw [grows.outcomes, basis.outcome?_eq]
  · rw [basis.agenda_eq]
    exact lacks

theorem IsSpared.untouched
    {before after : Session}
    (spared : IsSpared store pages ticket action before)
    (untouched : Untouched before after)
    (answers : after.answers ticket = before.answers ticket) :
    IsSpared store pages ticket action after := by
  rcases spared with
      ⟨unanswered, shows⟩ | ⟨url, response, requests, once, shows⟩
  · exact Or.inl ⟨answers.trans unanswered, untouched.shows shows⟩
  · exact Or.inr ⟨url, response, requests, answers.trans once,
      untouched.shows shows⟩

theorem newlyShown_eq_nil
    {before after : Session}
    (same : after.presentations = before.presentations) :
    newlyShown before after = [] := by
  simp [newlyShown, same]

/-- An undecided task goes on, is passed over, or something comes of it. -/
theorem phase_of_undecided
    {before after between : Session}
    {task : Task}
    {progress : Progress}
    (isQuiet : IsQuietFor ticket before)
    (lacks : before.agenda.Lacks ticket)
    (sameAction :
      ∀ other, task.stage.action? = some other → other = action)
    (unsettled : task.settled = none)
    (unfinished : before.outcome? ticket = none)
    (unanswered : before.answers ticket = [])
    (shows : Shows store pages before)
    (spec : StageSpec before ticket task.stage between progress)
    (concluded : Concluded between ticket task progress after) :
    Phase store pages ticket action after (newlyShown before after) := by
  obtain ⟨base, basis, grows, untouched⟩ := spec.basis
  have stillUnfinished : between.outcome? ticket = none := by
    rw [grows.outcomes, basis.outcome?_eq, unfinished]
  have sameAnswers : between.answers ticket = base.answers ticket :=
    grows.answers ticket
  have stillLacks : between.agenda.Lacks ticket := by
    refine grows.agenda.lacks ?_
    rw [basis.agenda_eq]
    exact lacks
  cases concluded with
  | @ended outcome =>
      by_cases passedOver : outcome = .skipped
      -- Whatever the stage went on from, it has touched nothing since.
      · subst passedOver
        have left := untouched rfl
        have sameAgenda : between.agenda = before.agenda :=
          left.agenda.trans basis.agenda_eq
        have spared : IsSpared store pages ticket action between :=
          (basis.isSpared sameAction unanswered shows).untouched left
            sameAnswers
        have nothing :
            between.presentations = before.presentations :=
          left.presentations.trans basis.presentations_eq
        rw [newlyShown_eq_nil
          ((presentations_note between rfl).trans nothing)]
        refine .skipped ?_ stillLacks
          (spared.untouched (.note between rfl)
            (answers_note_finished _ _ _ _ _ _))
        intro entry member
        exact isQuiet entry (sameAgenda ▸ member)
      · refine .decided ?_ ?_
        · intro job member
          exact absurd rfl (stillLacks.absent ⟨ticket, job⟩ member)
        · rw [outcome?_note_finished, stillUnfinished, unsettled]
          simpa using passedOver
  | @follow outcome next agenda perm nextTicket =>
      have taken := spec.follows outcome next rfl
      refine .decided ?_ ?_
      · intro job member
        exact ⟨task.origin, next, outcome,
          by simpa [unsettled] using
            eq_of_mem_of_perm perm stillLacks member, taken⟩
      · have stillNone :
            ({ between with agenda := agenda } : Session).outcome?
              ticket = none :=
          stillUnfinished
        simp [stillNone]
  | @wait delay next agenda perm nextTicket =>
      -- Only a task without an answer waits, so it is undecided as before.
      have left := untouched rfl
      obtain rfl := basis.eq_of_wait
      have nothing :
          ({ between with agenda := agenda } : Session).presentations =
            base.presentations :=
        left.presentations
      rw [newlyShown_eq_nil nothing]
      refine .undecided ?_ ?_ stillUnfinished
        (sameAnswers.trans unanswered)
        ⟨left.store.trans shows.store, left.pages.trans shows.pages⟩
      · intro entry member different
        rcases List.mem_cons.mp (perm.mem_iff.mp member) with
            rfl | isOther
        · exact absurd rfl different
        · rw [left.agenda] at isOther
          exact isQuiet entry isOther different
      · intro job member
        refine ⟨task.origin, next, ?_, ?_⟩
        · simpa [unsettled] using
            eq_of_mem_of_perm perm stillLacks member
        · rw [spec.waits delay next rfl]
          exact sameAction

/-- What has been decided about a task stays decided. -/
theorem phase_of_decided
    {before after between : Session}
    {task : Task}
    {progress : Progress}
    {shown : List Presentation}
    {settled : Outcome}
    (lacks : before.agenda.Lacks ticket)
    (isSettled : task.settled = some settled)
    (taken : settled ≠ .skipped)
    (notSkipped : before.outcome? ticket ≠ some .skipped)
    (spec : StageSpec before ticket task.stage between progress)
    (concluded : Concluded between ticket task progress after) :
    Phase store pages ticket action after shown := by
  obtain ⟨base, basis, grows, _⟩ := spec.basis
  have stillNot : between.outcome? ticket ≠ some .skipped := by
    rw [grows.outcomes, basis.outcome?_eq]
    exact notSkipped
  have stillLacks : between.agenda.Lacks ticket := by
    refine grows.agenda.lacks ?_
    rw [basis.agenda_eq]
    exact lacks
  cases concluded with
  | ended =>
      refine .decided ?_ ?_
      · intro job member
        exact absurd rfl (stillLacks.absent ⟨ticket, job⟩ member)
      · rw [outcome?_note_finished, isSettled]
        -- Of two ends the first one counts, and neither is passed over.
        cases finished : between.outcome? ticket with
        | none =>
            simpa using taken
        | some outcome =>
            simpa [finished] using stillNot
  | @follow outcome next agenda perm nextTicket =>
      refine .decided ?_ stillNot
      intro job member
      exact ⟨task.origin, next, settled,
        by simpa [isSettled] using
          eq_of_mem_of_perm perm stillLacks member, taken⟩
  | @wait delay next agenda perm nextTicket =>
      refine .decided ?_ stillNot
      intro job member
      exact ⟨task.origin, next, settled,
        by simpa [isSettled] using
          eq_of_mem_of_perm perm stillLacks member, taken⟩

/-- The task itself takes a run to its next phase. -/
theorem Phase.own
    {before : Session}
    {shown : List Presentation}
    (phase : Phase store pages ticket action before shown)
    {job : Job}
    {rest : Agenda Job}
    (takes : before.agenda.Takes ⟨ticket, job⟩ rest)
    (orderly : before.agenda.IsOrderly) :
    Phase store pages ticket action
      ({ before with agenda := rest }.runJob ticket job)
      (shown ++ newlyShown before
        ({ before with agenda := rest }.runJob ticket job)) := by
  let taken : Session := { before with agenda := rest }
  have lacks : taken.agenda.Lacks ticket := (orderly.taken takes).2
  have isThere : ⟨ticket, job⟩ ∈ before.agenda.entries :=
    takes.perm.mem_iff.mpr (by simp)
  cases phase with
  | undecided isQuiet undecided unfinished unanswered shows =>
      obtain ⟨origin, stage, rfl, sameAction⟩ := undecided job isThere
      have restQuiet : IsQuietFor ticket taken :=
        fun entry member =>
          isQuiet entry
            (takes.perm.mem_iff.mpr (List.mem_cons_of_mem _ member))
      have restShows : Shows store pages taken :=
        ⟨shows.store, shows.pages⟩
      have next :=
        phase_of_undecided restQuiet lacks sameAction rfl unfinished
          unanswered restShows
          (stageSpec_advanceStage taken ticket stage)
          (concluded_runTask taken ticket ⟨origin, stage, none⟩)
      exact next
  | skipped isQuiet isOver spared =>
      exact absurd rfl (isOver.absent ⟨ticket, job⟩ isThere)
  | decided decided notSkipped =>
      obtain ⟨origin, stage, outcome, rfl, isTaken⟩ := decided job isThere
      have stillNot : taken.outcome? ticket ≠ some .skipped :=
        notSkipped
      exact phase_of_decided lacks rfl isTaken stillNot
        (stageSpec_advanceStage taken ticket stage)
        (concluded_runTask taken ticket ⟨origin, stage, some outcome⟩)

/-! ## Whole runs -/

/-- A move takes a run to its next phase, or leaves it in its phase. -/
theorem Moves.phase
    {before after : Session}
    {mover : Option Nat}
    {shown : List Presentation}
    (moves : Moves before mover after)
    (orderly : IsOrderly before)
    (given : ticket < before.agenda.nextTicket)
    (phase : Phase store pages ticket action before shown) :
    Phase store pages ticket action after
      (shown ++
        if mover = some ticket then newlyShown before after else []) := by
  by_cases own : mover = some ticket
  · rw [if_pos own]
    cases moves with
    | @ran entry rest takes =>
        rcases entry with ⟨other, job⟩
        obtain rfl : other = ticket := Option.some.inj own
        exact phase.own takes orderly.agenda
    | slept _ | wired _ | rewired _ | destroyed | connected _ =>
        cases own
  · rw [if_neg own, List.append_nil]
    exact phase.others moves given own

/-- A run stays in the phases of its task. -/
theorem Runs.phase
    {first last : Session}
    {shown : List Presentation}
    (runs : Runs ticket first last shown)
    (orderly : IsOrderly first)
    (given : ticket < first.agenda.nextTicket)
    (phase : Phase store pages ticket action first []) :
    Phase store pages ticket action last shown := by
  induction runs with
  | rest =>
      exact phase
  | step earlier moves inductionHypothesis =>
      exact moves.phase (earlier.isOrderly orderly) (earlier.given given)
        inductionHypothesis

/-- An action that has just been launched is undecided. -/
theorem phase_launch
    {session : Session}
    (orderly : IsOrderly session)
    (idle :
      ∀ entry ∈ session.agenda.entries, isToastTimer entry.job = true)
    (origin : Origin)
    (action : Action)
    (depth : Nat) :
    Phase session.store session.pages session.agenda.nextTicket action
      (session.launch origin (.start action depth)).1 [] := by
  let job : Job := .task ⟨origin, .start action depth, none⟩
  have perm := Agenda.entries_spawn session.agenda job
  have lacks :
      ∀ other,
        ⟨session.agenda.nextTicket, other⟩ ∉ session.agenda.entries := by
    intro other member
    exact Nat.lt_irrefl _ (orderly.agenda.given _ member)
  refine .undecided ?_ ?_ ?_ ?_ ⟨rfl, rfl⟩
  · intro entry member different
    rcases List.mem_cons.mp (perm.mem_iff.mp member) with rfl | isOld
    · exact absurd rfl different
    · exact idle entry isOld
  · intro other member
    rcases List.mem_cons.mp (perm.mem_iff.mp member) with same | isOld
    · cases same
      refine ⟨origin, .start action depth, rfl, ?_⟩
      rintro _ ⟨⟩
      rfl
    · exact absurd isOld (lacks other)
  · exact orderly.outcomes _ (Nat.le_refl _)
  · exact orderly.answers _ (Nat.le_refl _)

end

/--
An action that is passed over while nothing else is under way has shown
nothing and has left the state and the pages as they were.  It has left the
responses as they were too, unless it is a request into the root that was
answered: then its response is kept, and it is always passed over.
-/
theorem unchanged_of_skipped
    {session last : Session}
    {origin : Origin}
    {action : Action}
    {depth : Nat}
    {shown : List Presentation}
    (orderly : IsOrderly session)
    (idle :
      ∀ entry ∈ session.agenda.entries, isToastTimer entry.job = true)
    (runs :
      Runs session.agenda.nextTicket
        (session.launch origin (.start action depth)).1 last shown)
    (skipped :
      last.outcome? session.agenda.nextTicket = some .skipped) :
    (shown = [] ∧
      { last.pages with queued := [] } =
        { session.pages with queued := [] } ∧
      (last.answers session.agenda.nextTicket = [] ∧
          last.store = session.store ∨
        ∃ url response,
          action.RequestsInto url "/" ∧
            last.answers session.agenda.nextTicket = [(url, response)] ∧
            last.store = session.store.keepResponse url response)) ∧
    ∀ (current : Session) (ticket : Nat) (wiring : Wiring)
        (url method : String) (data : Option Value)
        (headers : Entries String) (onSuccess : Option Action)
        (response : Value),
      action.kind =
        .request url method data headers onSuccess (some "/") →
      (current.networkOf wiring.line).answer url data = .ok response →
      let after :=
        current.runTask ticket
          ⟨origin, .answered wiring action depth, none⟩
      after.store = current.store.keepResponse url response ∧
        after.outcome? ticket =
          (current.outcome? ticket).or (some .skipped) := by
  refine ⟨?_, ?_⟩
  · have given :
        session.agenda.nextTicket <
          (session.launch origin
            (.start action depth)).1.agenda.nextTicket :=
      Nat.lt_succ_self _
    have phase :=
      runs.phase (orderly.launch origin _) given
        (phase_launch orderly idle origin action depth)
    cases phase with
    | undecided _ _ unfinished _ _ =>
        rw [unfinished] at skipped
        cases skipped
    | skipped _ _ spared =>
        rcases spared with
            ⟨unanswered, shows⟩ | ⟨url, response, requests, once, shows⟩
        · exact ⟨rfl, shows.pages, Or.inl ⟨unanswered, shows.store⟩⟩
        · exact ⟨rfl, shows.pages,
            Or.inr ⟨url, response, requests, once, shows.store⟩⟩
    | decided _ notSkipped =>
        exact absurd skipped notSkipped
  · intro current ticket wiring url method data headers onSuccess
      response isRequest succeeded
    have dropped :
        current.advanceStage ticket (.answered wiring action depth) =
          (current.answered ticket url response, .ended .skipped) := by
      simp only [advanceStage,
        receive_of_response_root ticket isRequest succeeded depth]
      rfl
    simp only [runTask, dropped]
    refine ⟨rfl, ?_⟩
    rw [outcome?_note_finished, answered, outcome?_note_responded]
    simp [Session.outcome?]

/-- A request whose response is to be written to the root. -/
def rootRequest : Action where
  kind :=
    .request "/api/list" "GET" none [] none (some "/")
  params :=
    []
  onError :=
    none

/-- A wired session in which nothing is under way. -/
def quietSession : Session :=
  { inert {} {} 1 with wiring := some {} }

theorem isOrderly_quietSession : IsOrderly quietSession :=
  (isOrderly_inert {} {} 1).grow (.of_eq rfl rfl)

/-- The request into the root is passed over with its response kept. -/
theorem unchanged_of_skipped_rootRequest :
    let ticket := quietSession.agenda.nextTicket
    let launched :=
      (quietSession.launch .dispatched (.start rootRequest 0)).1
    let last := launched.await ticket
    last.outcome? ticket = some .skipped ∧
      ∃ shown,
        Runs ticket launched last shown ∧ shown = [] ∧
          ∃ url response,
            last.answers ticket = [(url, response)] ∧
              last.store =
                quietSession.store.keepResponse url response := by
  intro ticket launched last
  have isSkipped : last.outcome? ticket = some .skipped := by
    decide +kernel
  have isAnswered : (last.answers ticket).length = 1 := by
    decide +kernel
  have idle :
      ∀ entry ∈ quietSession.agenda.entries,
        isToastTimer entry.job = true := by
    intro entry member
    cases member
  have orderly : IsOrderly quietSession :=
    (isOrderly_inert {} {} 1).grow (.of_eq rfl rfl)
  obtain ⟨shown, runs⟩ := exists_runs_await ticket launched
  obtain ⟨⟨nothing, _, spared⟩, _⟩ :=
    unchanged_of_skipped orderly idle runs isSkipped
  refine ⟨isSkipped, shown, runs, nothing, ?_⟩
  rcases spared with
      ⟨unanswered, _⟩ | ⟨url, response, _, once, kept⟩
  · have none : last.answers ticket = [] := unanswered
    simp [none] at isAnswered
  · exact ⟨url, response, once, kept⟩

/-- A dispatch that is passed over need not leave the responses alone. -/
theorem dispatch_rootRequest_skipped :
    let dispatched := quietSession.dispatch (.start rootRequest 0)
    quietSession.isWired = true ∧
      quietSession.agenda.entries.length = 0 ∧
      dispatched.2 = some .skipped ∧
      (quietSession.store.response? "/api/list").isSome = false ∧
      (dispatched.1.store.response? "/api/list").isSome = true := by
  decide +kernel

end Session

end Mockup
