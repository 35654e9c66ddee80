import Mockup.Proofs.Session.Stages

namespace Mockup

/-!
# Runs of a session

A session moves when any of its ready jobs runs, when its clock is moved, and
when it is wired anew, made inert, or given another network.  Every session
that comes about keeps its tickets in order: a job with one ticket never acts
under another one.
-/

namespace Session

/-! ## What a job does under its ticket -/

/-- New jobs have new tickets, and reports are about one task only. -/
structure GrowsFor
    (ticket : Nat)
    (before after : Session) :
    Prop where
  agenda :
    before.agenda.Extends after.agenda
  outcomes :
    ∀ other, other ≠ ticket →
      after.outcome? other = before.outcome? other
  answers :
    ∀ other, other ≠ ticket →
      after.answers other = before.answers other

namespace GrowsFor

variable {ticket : Nat}

theorem of_grows
    {before after : Session}
    (grows : Grows before after) :
    GrowsFor ticket before after where
  agenda :=
    grows.agenda
  outcomes other _ :=
    grows.outcomes other
  answers other _ :=
    grows.answers other

theorem trans
    {first second third : Session}
    (earlier : GrowsFor ticket first second)
    (later : GrowsFor ticket second third) :
    GrowsFor ticket first third where
  agenda :=
    earlier.agenda.trans later.agenda
  outcomes other different :=
    (later.outcomes other different).trans
      (earlier.outcomes other different)
  answers other different :=
    (later.answers other different).trans
      (earlier.answers other different)

/-- A response is given to one task only. -/
theorem answered
    (session : Session)
    (ticket : Nat)
    (url : String)
    (response : Value) :
    GrowsFor ticket session
      (session.answered ticket url response) where
  agenda :=
    .refl _
  outcomes other _ := by
    rw [Session.answered, outcome?_note_responded]
    rfl
  answers other different := by
    rw [Session.answered, answers_note_responded,
      if_neg (Ne.symm different), List.append_nil]
    rfl

/-- The end of a task is the end of one task only. -/
theorem finished
    (session : Session)
    (time ticket : Nat)
    (origin : Origin)
    (outcome : Outcome) :
    GrowsFor ticket session
      (session.note (.finished time ticket origin outcome)) where
  agenda :=
    .refl _
  outcomes other different := by
    rw [outcome?_note_finished, if_neg (Ne.symm different), Option.or_none]
  answers other _ :=
    answers_note_finished session time ticket origin outcome other

end GrowsFor

/-- A stage reports on its own task only. -/
theorem StageSpec.growsFor
    {session after : Session}
    {ticket : Nat}
    {stage : Stage}
    {progress : Progress}
    (spec : StageSpec session ticket stage after progress) :
    GrowsFor ticket session after := by
  obtain ⟨base, basis, grows, _⟩ := spec.basis
  refine GrowsFor.trans ?_ (.of_grows grows)
  cases basis with
  | present =>
      exact .of_grows (.refl session)
  | kept _ =>
      exact .answered session ticket _ _
  | dropped _ _ =>
      exact .answered session ticket _ _

/-! ## What becomes of a task -/

/-- A session in which a task has been told how its stage went. -/
inductive Concluded
    (before : Session)
    (ticket : Nat)
    (task : Task) : Progress → Session → Prop where
  | ended
      {outcome : Outcome} :
      Concluded before ticket task (.ended outcome)
        (before.note
          (.finished before.agenda.now ticket task.origin
            (task.settled.getD outcome)))
  | follow
      {outcome : Outcome}
      {next : Stage}
      {agenda : Agenda Job} :
      agenda.entries.Perm
        (⟨ticket, .task
            ⟨task.origin, next, some (task.settled.getD outcome)⟩⟩ ::
          before.agenda.entries) →
      agenda.nextTicket = before.agenda.nextTicket →
      Concluded before ticket task (.follow outcome next)
        { before with agenda := agenda }
  | wait
      {delay : Nat}
      {next : Stage}
      {agenda : Agenda Job} :
      agenda.entries.Perm
        (⟨ticket, .task ⟨task.origin, next, task.settled⟩⟩ ::
          before.agenda.entries) →
      agenda.nextTicket = before.agenda.nextTicket →
      Concluded before ticket task (.wait delay next)
        { before with agenda := agenda }

/-- A task runs by its stage, and is told how that went. -/
theorem concluded_runTask
    (session : Session)
    (ticket : Nat)
    (task : Task) :
    Concluded (session.advanceStage ticket task.stage).1 ticket task
      (session.advanceStage ticket task.stage).2
      (session.runTask ticket task) := by
  unfold runTask
  split
  · rename_i after outcome advanced
    rw [advanced]
    exact .ended
  · rename_i after outcome stage advanced
    rw [advanced]
    exact .follow (by rw [Agenda.entries_goOn]) rfl
  · rename_i after stage advanced
    rw [advanced]
    exact .wait (by rw [Agenda.entries_goOn]) rfl
  · rename_i after delay stage _ advanced
    rw [advanced]
    exact .wait (Agenda.entries_arm _ _ _) rfl

/-! ## Jobs -/

/-- A job with a ticket comes back with it, if at all. -/
structure Serves
    (ticket : Nat)
    (before after : Session) :
    Prop where
  nextTicket :
    before.agenda.nextTicket ≤ after.agenda.nextTicket
  orderly :
    before.agenda.IsOrderly →
    before.agenda.Lacks ticket →
      after.agenda.IsOrderly
  entries :
    ∀ entry ∈ after.agenda.entries,
      entry ∈ before.agenda.entries ∨
        entry.ticket = ticket ∨
        before.agenda.nextTicket ≤ entry.ticket
  outcomes :
    ∀ other, other ≠ ticket →
      after.outcome? other = before.outcome? other
  answers :
    ∀ other, other ≠ ticket →
      after.answers other = before.answers other

/-- What does not come back serves its ticket. -/
theorem GrowsFor.serves
    {ticket : Nat}
    {before after : Session}
    (grows : GrowsFor ticket before after) :
    Serves ticket before after where
  nextTicket :=
    grows.agenda.nextTicket
  orderly orderly _ :=
    grows.agenda.orderly orderly
  entries entry member :=
    (grows.agenda.entries entry member).imp_right Or.inr
  outcomes :=
    grows.outcomes
  answers :=
    grows.answers

/-- What comes back with its ticket serves it. -/
theorem GrowsFor.serves_back
    {ticket : Nat}
    {before between : Session}
    (grows : GrowsFor ticket before between)
    {agenda : Agenda Job}
    {job : Job}
    (perm :
      agenda.entries.Perm (⟨ticket, job⟩ :: between.agenda.entries))
    (nextTicket : agenda.nextTicket = between.agenda.nextTicket) :
    Serves ticket before { between with agenda := agenda } where
  nextTicket :=
    nextTicket ▸ grows.agenda.nextTicket
  orderly orderly lacks :=
    (Agenda.isOrderly_iff_of_perm_cons perm nextTicket).mpr
      ⟨grows.agenda.orderly orderly, grows.agenda.lacks lacks⟩
  entries entry member := by
    rcases List.mem_cons.mp (perm.mem_iff.mp member) with rfl | isOther
    · exact Or.inr (Or.inl rfl)
    · exact (grows.agenda.entries entry isOther).imp_right Or.inr
  outcomes :=
    grows.outcomes
  answers :=
    grows.answers

/-- A task serves its ticket. -/
theorem serves_runTask
    (session : Session)
    (ticket : Nat)
    (task : Task) :
    Serves ticket session (session.runTask ticket task) := by
  have grows :=
    (stageSpec_advanceStage session ticket task.stage).growsFor
  have concluded := concluded_runTask session ticket task
  generalize session.runTask ticket task = after at concluded ⊢
  generalize (session.advanceStage ticket task.stage).1 = between
    at grows concluded
  generalize (session.advanceStage ticket task.stage).2 = progress
    at concluded
  cases concluded with
  | ended =>
      exact (grows.trans (.finished _ _ _ _ _)).serves
  | follow perm nextTicket =>
      exact grows.serves_back perm nextTicket
  | wait perm nextTicket =>
      exact grows.serves_back perm nextTicket

/-- The errand of a timer makes a session grow. -/
theorem grows_runErrand
    (session : Session)
    (errand : Errand) :
    Grows session (session.runErrand errand) := by
  cases errand with
  | hideToast =>
      have noted :
          Grows session
            (session.note (.toastElapsed session.agenda.now)) :=
        .note session rfl
      simp only [runErrand]
      split
      · exact noted.trans (grows_present _ _ _)
      · exact noted
  | fire firing =>
      simp only [runErrand]
      split
      · rename_i watch fired _
        have remembers : Grows session { session with watch := watch } :=
          .of_eq rfl rfl
        exact remembers.trans (grows_trigger _ fired)
      · exact .of_eq rfl rfl

/-- Every job serves its ticket. -/
theorem serves_runJob
    (session : Session)
    (ticket : Nat)
    (job : Job) :
    Serves ticket session (session.runJob ticket job) := by
  cases job with
  | timer timer =>
      simp only [runJob]
      split
      · exact
          (GrowsFor.of_grows (grows_runErrand session timer.work)).serves
      · have stays : GrowsFor ticket session session :=
          .of_grows (.refl session)
        exact stays.serves_back (Agenda.entries_arm _ _ _) rfl
  | task task =>
      exact serves_runTask session ticket task

/-! ## Moves -/

/--
A session moves, by a job with a ticket or by itself: any ready job may run,
and the clock, the wiring and the network may change at any time.
-/
inductive Moves
    (session : Session) : Option Nat → Session → Prop where
  | ran
      {entry : Ticketed Job}
      {rest : Agenda Job} :
      session.agenda.Takes entry rest →
      Moves session (some entry.ticket)
        ({ session with agenda := rest }.runJob entry.ticket entry.job)
  | slept
      (time : Nat) :
      Moves session none
        { session with agenda := session.agenda.moveTo time }
  | wired
      (wiring : Wiring) :
      Moves session none (session.wire wiring)
  | rewired
      (change : Wiring → Wiring) :
      Moves session none (session.rewire change)
  | destroyed :
      Moves session none session.destroy
  | connected
      (network : Network) :
      Moves session none { session with network := network }

/-- Tickets are in order, and no task is reported on before it is given one. -/
structure IsOrderly
    (session : Session) :
    Prop where
  agenda :
    session.agenda.IsOrderly
  outcomes :
    ∀ ticket, session.agenda.nextTicket ≤ ticket →
      session.outcome? ticket = none
  answers :
    ∀ ticket, session.agenda.nextTicket ≤ ticket →
      session.answers ticket = []

/-- A session that has not begun is in order. -/
theorem isOrderly_inert
    (app : AppDocument)
    (settings : Settings)
    (capacity : Nat) :
    IsOrderly (inert app settings capacity) where
  agenda :=
    Agenda.isOrderly_of_entries_eq_nil rfl
  outcomes _ _ :=
    rfl
  answers _ _ :=
    rfl

theorem IsOrderly.grow
    {before after : Session}
    (orderly : IsOrderly before)
    (grows : Grows before after) :
    IsOrderly after where
  agenda :=
    grows.agenda.orderly orderly.agenda
  outcomes ticket isNew := by
    rw [grows.outcomes ticket]
    exact orderly.outcomes ticket
      (Nat.le_trans grows.agenda.nextTicket isNew)
  answers ticket isNew := by
    rw [grows.answers ticket]
    exact orderly.answers ticket
      (Nat.le_trans grows.agenda.nextTicket isNew)

theorem IsOrderly.launch
    {session : Session}
    (orderly : IsOrderly session)
    (origin : Origin)
    (stage : Stage) :
    IsOrderly (session.launch origin stage).1 :=
  orderly.grow (.spawn session _)

/-- A session is in order when it begins, whatever watchers it declares. -/
theorem isOrderly_boot
    (app : AppDocument)
    (settings : Settings)
    (functions : Registry) :
    IsOrderly (boot app settings functions) := by
  have declared :
      ∀ (declarations : List WatchDeclaration) (session : Session),
        IsOrderly session →
        IsOrderly (declarations.foldl addDeclared session) := by
    intro declarations
    induction declarations with
    | nil =>
        exact fun _ => id
    | cons declaration declarations inductionHypothesis =>
        intro session orderly
        refine inductionHypothesis _ ?_
        unfold addDeclared
        split
        · exact orderly.grow (grows_addWatcher session _ _ _)
        · exact orderly
  have unwired :=
    isOrderly_inert app settings (pageCapacity app settings)
  exact declared _ _ (unwired.grow (.of_eq rfl rfl))

theorem IsOrderly.of_agenda
    {session : Session}
    (orderly : IsOrderly session)
    {agenda : Agenda Job}
    (agendaOrderly : agenda.IsOrderly)
    (nextTicket : agenda.nextTicket = session.agenda.nextTicket) :
    IsOrderly { session with agenda := agenda } where
  agenda :=
    agendaOrderly
  outcomes ticket isNew :=
    orderly.outcomes ticket (nextTicket ▸ isNew)
  answers ticket isNew :=
    orderly.answers ticket (nextTicket ▸ isNew)

/-- A session that moves stays in order. -/
theorem Moves.isOrderly
    {before after : Session}
    {mover : Option Nat}
    (moves : Moves before mover after)
    (orderly : IsOrderly before) :
    IsOrderly after := by
  cases moves with
  | @ran entry rest takes =>
      obtain ⟨restOrderly, lacks⟩ := orderly.agenda.taken takes
      have taken : IsOrderly { before with agenda := rest } :=
        orderly.of_agenda restOrderly takes.nextTicket_eq
      have serves :=
        serves_runJob { before with agenda := rest } entry.ticket
          entry.job
      -- A ticket that is new afterwards was new before, and not the mover's.
      have isOther :
          ∀ ticket,
            (Session.runJob { before with agenda := rest } entry.ticket
              entry.job).agenda.nextTicket ≤ ticket →
            ticket ≠ entry.ticket ∧ rest.nextTicket ≤ ticket := by
        intro ticket isNew
        have older := Nat.le_trans serves.nextTicket isNew
        have given := lacks.given
        simp only at older
        omega
      refine ⟨serves.orderly restOrderly lacks, ?_, ?_⟩
      · intro ticket isNew
        obtain ⟨different, older⟩ := isOther ticket isNew
        rw [serves.outcomes ticket different]
        exact taken.outcomes ticket older
      · intro ticket isNew
        obtain ⟨different, older⟩ := isOther ticket isNew
        rw [serves.answers ticket different]
        exact taken.answers ticket older
  | slept time =>
      exact orderly.of_agenda
        (orderly.agenda.of_perm (Agenda.entries_moveTo _ time) rfl) rfl
  | wired wiring =>
      exact orderly.grow (.of_eq rfl rfl)
  | rewired change =>
      exact orderly.grow (.of_eq rfl rfl)
  | destroyed =>
      have calm := orderly.grow (grows_disarmToast before)
      have roused :
          IsOrderly
            { before.disarmToast with
              agenda := before.disarmToast.agenda.rouse woken? } :=
        calm.of_agenda (calm.agenda.rouse woken?) rfl
      exact roused.grow (.of_eq rfl rfl)
  | connected network =>
      exact orderly.grow (.of_eq rfl rfl)

/-- A session that moves takes back no ticket. -/
theorem Moves.nextTicket_le
    {before after : Session}
    {mover : Option Nat}
    (moves : Moves before mover after) :
    before.agenda.nextTicket ≤ after.agenda.nextTicket := by
  cases moves with
  | @ran entry rest takes =>
      have serves :=
        serves_runJob { before with agenda := rest } entry.ticket
          entry.job
      rw [← takes.nextTicket_eq]
      exact serves.nextTicket
  | slept time =>
      exact Nat.le_refl _
  | wired wiring =>
      exact Nat.le_refl _
  | rewired change =>
      exact Nat.le_refl _
  | destroyed =>
      exact (grows_disarmToast before).agenda.nextTicket
  | connected network =>
      exact Nat.le_refl _

/-- A job that is woken is a task whose delay comes to nothing. -/
theorem exists_of_woken?
    {job woken : Job}
    (wakes : woken? job = some woken) :
    ∃ origin action depth settled,
      job = .task ⟨origin, .rested action depth, settled⟩ ∧
        woken = .task ⟨origin, .void, settled⟩ := by
  unfold woken? at wakes
  split at wakes
  · cases wakes
    exact ⟨_, _, _, _, rfl, rfl⟩
  · cases wakes

/-- A job of a session that is made inert was there, or has been woken. -/
theorem mem_entries_destroy
    {session : Session}
    {entry : Ticketed Job}
    (member : entry ∈ session.destroy.agenda.entries) :
    ∃ job,
      ⟨entry.ticket, job⟩ ∈ session.agenda.entries ∧
        (job = entry.job ∨ woken? job = some entry.job) := by
  rcases Agenda.mem_entries_rouse member with isOld | ⟨job, isOld, wakes⟩
  · exact ⟨entry.job, Agenda.mem_entries_abortAll isOld, Or.inl rfl⟩
  · exact ⟨job, Agenda.mem_entries_abortAll isOld, Or.inr wakes⟩

/-- What the others leave to the task with a ticket. -/
structure Leaves
    (ticket : Nat)
    (before after : Session) :
    Prop where
  outcome :
    after.outcome? ticket = before.outcome? ticket
  answers :
    after.answers ticket = before.answers ticket
  entries :
    ∀ entry ∈ after.agenda.entries,
      entry.ticket = ticket →
      ∃ job,
        ⟨ticket, job⟩ ∈ before.agenda.entries ∧
          (job = entry.job ∨ woken? job = some entry.job)

/-- What the others do to a session leaves a task to itself. -/
theorem Moves.leaves
    {before after : Session}
    {mover : Option Nat}
    (moves : Moves before mover after)
    {ticket : Nat}
    (given : ticket < before.agenda.nextTicket)
    (foreign : mover ≠ some ticket) :
    Leaves ticket before after := by
  have stays :
      ∀ {entries : List (Ticketed Job)},
        (∀ entry ∈ entries, entry ∈ before.agenda.entries) →
        ∀ entry ∈ entries, entry.ticket = ticket →
          ∃ job,
            ⟨ticket, job⟩ ∈ before.agenda.entries ∧
              (job = entry.job ∨ woken? job = some entry.job) := by
    rintro entries wasThere ⟨_, job⟩ member rfl
    exact ⟨job, wasThere _ member, Or.inl rfl⟩
  cases moves with
  | @ran entry rest takes =>
      have different : ticket ≠ entry.ticket := by
        rintro rfl
        exact foreign rfl
      have serves :=
        serves_runJob { before with agenda := rest } entry.ticket
          entry.job
      refine ⟨serves.outcomes ticket different,
        serves.answers ticket different, ?_⟩
      rintro ⟨own, job⟩ member isOwn
      obtain rfl : own = ticket := isOwn
      rcases serves.entries ⟨own, job⟩ member with
          isOld | isMoved | isNew
      · exact ⟨job, takes.perm.mem_iff.mpr
          (List.mem_cons_of_mem _ isOld), Or.inl rfl⟩
      · exact absurd isMoved different
      · have sameTicket := takes.nextTicket_eq
        have notGiven : rest.nextTicket ≤ own := isNew
        omega
  | slept time =>
      exact ⟨rfl, rfl, stays fun entry member =>
        (Agenda.entries_moveTo before.agenda time).mem_iff.mp member⟩
  | wired wiring =>
      exact ⟨rfl, rfl, stays fun _ => id⟩
  | rewired change =>
      exact ⟨rfl, rfl, stays fun _ => id⟩
  | destroyed =>
      refine ⟨rfl, rfl, ?_⟩
      rintro entry member rfl
      exact mem_entries_destroy member
  | connected network =>
      exact ⟨rfl, rfl, stays fun _ => id⟩

/-! ## Runs -/

/-- What follows from the past of each event does so after one more. -/
theorem forall_concat
    {α : Type}
    {Holds : List α → α → Prop}
    (events : List α)
    {last : α}
    (holds :
      ∀ earlier event later,
        events = earlier ++ event :: later → Holds earlier event)
    (holdsLast : Holds events last)
    (earlier : List α)
    (event : α)
    (later : List α)
    (split : events ++ [last] = earlier ++ event :: later) :
    Holds earlier event := by
  rcases List.eq_nil_or_concat later with rfl | ⟨others, final, rfl⟩
  · obtain ⟨rfl, same⟩ := List.append_inj' split rfl
    cases same
    exact holdsLast
  · have regrouped :
        events ++ [last] = (earlier ++ event :: others) ++ [final] := by
      simpa using split
    exact holds earlier event others (List.append_inj' regrouped rfl).1

/-- What has been shown in a later session, but not yet in an earlier one. -/
def newlyShown
    (before after : Session) :
    List Presentation :=
  after.presentations.drop before.presentations.length

/--
A session runs by its moves; what the task with a ticket has shown to the user
is counted.
-/
inductive Runs
    (ticket : Nat)
    (first : Session) : Session → List Presentation → Prop where
  | rest :
      Runs ticket first first []
  | step
      {before after : Session}
      {mover : Option Nat}
      {shown : List Presentation} :
      Runs ticket first before shown →
      Moves before mover after →
      Runs ticket first after
        (shown ++
          if mover = some ticket then newlyShown before after else [])

namespace Runs

variable {ticket : Nat}

theorem trans
    {first second third : Session}
    {earlierShown laterShown : List Presentation}
    (earlier : Runs ticket first second earlierShown)
    (later : Runs ticket second third laterShown) :
    Runs ticket first third (earlierShown ++ laterShown) := by
  induction later with
  | rest =>
      simpa using earlier
  | step _ moves inductionHypothesis =>
      rw [← List.append_assoc]
      exact .step inductionHypothesis moves

theorem isOrderly
    {first last : Session}
    {shown : List Presentation}
    (runs : Runs ticket first last shown)
    (orderly : IsOrderly first) :
    IsOrderly last := by
  induction runs with
  | rest =>
      exact orderly
  | step _ moves inductionHypothesis =>
      exact moves.isOrderly inductionHypothesis

theorem given
    {first last : Session}
    {shown : List Presentation}
    (runs : Runs ticket first last shown)
    (isGiven : ticket < first.agenda.nextTicket) :
    ticket < last.agenda.nextTicket := by
  induction runs with
  | rest =>
      exact isGiven
  | step _ moves inductionHypothesis =>
      exact Nat.lt_of_lt_of_le inductionHypothesis moves.nextTicket_le

end Runs

theorem exists_moves_of_step?
    {session next : Session}
    (stepped : session.step? = some next) :
    ∃ mover, Moves session mover next := by
  unfold step? at stepped
  split at stepped
  · cases stepped
  · rename_i entry rest isNext
    cases stepped
    exact ⟨_, .ran (Agenda.takes_of_next? isNext)⟩

theorem exists_runs_of_moves
    (ticket : Nat)
    {first second third : Session}
    {mover : Option Nat}
    (moves : Moves first mover second)
    (later : ∃ shown, Runs ticket second third shown) :
    ∃ shown, Runs ticket first third shown := by
  obtain ⟨shown, runs⟩ := later
  exact ⟨_, (Runs.step .rest moves).trans runs⟩

theorem exists_runs_runWithin
    (ticket : Nat)
    (mayMove : Session → Nat → Bool)
    (fuel : Nat)
    (session : Session) :
    ∃ shown,
      Runs ticket session (clockwork.runWithin mayMove fuel session)
        shown := by
  induction fuel generalizing session with
  | zero =>
      exact ⟨[], .rest⟩
  | succ fuel inductionHypothesis =>
      unfold Clockwork.runWithin
      split
      · rename_i next stepped
        obtain ⟨mover, moves⟩ := exists_moves_of_step? stepped
        exact exists_runs_of_moves ticket moves
          (inductionHypothesis next)
      · split
        · split
          · exact exists_runs_of_moves ticket (.slept _)
              (inductionHypothesis _)
          · exact ⟨[], .rest⟩
        · exact ⟨[], .rest⟩

theorem exists_runs_runDoubling
    (ticket : Nat)
    (mayMove : Session → Nat → Bool)
    (rounds fuel : Nat)
    (session : Session) :
    ∃ shown,
      Runs ticket session
        (clockwork.runDoubling mayMove rounds fuel session) shown := by
  induction rounds generalizing fuel session with
  | zero =>
      exact exists_runs_runWithin ticket mayMove fuel session
  | succ rounds inductionHypothesis =>
      obtain ⟨shown, runs⟩ :=
        exists_runs_runWithin ticket mayMove fuel session
      unfold Clockwork.runDoubling
      simp only
      split
      · exact ⟨shown, runs⟩
      · obtain ⟨laterShown, laterRuns⟩ :=
          inductionHypothesis (2 * fuel)
            (clockwork.runWithin mayMove fuel session)
        exact ⟨shown ++ laterShown, runs.trans laterRuns⟩

/-- Waiting for a task is a run of the session. -/
theorem exists_runs_await
    (ticket : Nat)
    (session : Session) :
    ∃ shown, Runs ticket session (session.await ticket) shown :=
  exists_runs_runDoubling ticket _ _ _ session

end Session

end Mockup
