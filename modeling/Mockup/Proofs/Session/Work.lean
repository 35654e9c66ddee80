import Mockup.Proofs.Session.Additions
import Mockup.Proofs.Session.Runs

namespace Mockup

/-!
# What a job does

A job that runs does one of a few things.  A task carries out one action, by
one write at most, or takes an action further that it has carried out before;
then it ends, waits, or goes on with a follow-up one level deeper.  A timer
starts to wait, or does its errand.
-/

/-- An action is followed by another: after its failure or its success. -/
inductive Action.LeadsTo
    (action : Action) : Action → Prop where
  | failed
      {fallback : Action}
      {failure : Failure} :
      action.onError = some fallback →
      LeadsTo action
        (fallback.withParam "error" (.string failure.explanation))
  | responded
      {next : Action}
      {response : Value} :
      action.kind.followUp? = some next →
      LeadsTo action (next.withParam "response" response)
  | rested
      {next : Action} :
      action.kind.followUp? = some next →
      LeadsTo action next

namespace Session

/-! ## Sequels -/

/-- An action is done with, or followed by another. -/
inductive Sequel.Ends
    (action : Action) : Sequel → Prop where
  | finish
      {outcome : Outcome} :
      Ends action (.finish outcome)
  | follow
      {next : Action} :
      action.LeadsTo next →
      Ends action (.follow next)

/-- An action at a depth is to be taken further at the same depth. -/
inductive Stage.Continues
    (action : Action)
    (depth : Nat) : Stage → Prop where
  | answered
      {wiring : Wiring} :
      Continues action depth (.answered wiring action depth)
  | rested :
      Continues action depth (.rested action depth)

theorem Sequel.ends_ofNext
    {action : Action}
    {next : Option Action}
    (leads : ∀ further, next = some further → action.LeadsTo further) :
    (Sequel.ofNext next).Ends action := by
  cases next with
  | none =>
      exact .finish
  | some further =>
      exact .follow (leads further rfl)

open Attempt (ActsFor)

section

variable (session : Session) (wiring : Wiring)
variable {action : Action} {depth : Nat}

/-- Showing something and being done with it writes nothing. -/
theorem acts_present_completed
    (shown : Presentation) :
    ActsFor depth 0 session
      ((session.present wiring shown).andThen
        fun after _ => after.succeed completed)
      (Sequel.Ends action) :=
  (acts_present session depth wiring shown).andThen
    fun _ _ => .succeed _ .finish

theorem acts_goTo
    (move : PageStack → PageStack × Except Failure Unit)
    (pageId : String)
    (params : Entries Value) :
    ActsFor depth 0 session (session.goTo wiring move pageId params)
      (Sequel.Ends action) :=
  (acts_movePages session depth move).andThen
    fun _ _ => acts_present_completed _ wiring _

theorem acts_startOver
    (tab : Nat)
    (pageId : String)
    (params : Entries Value) :
    ActsFor depth 1 session
      (session.startOver wiring tab pageId params depth)
      fun _ => True := by
  unfold startOver
  split
  · exact (ActsFor.refuse session _).mono (Nat.zero_le 1)
  · exact (acts_commit session depth _ _ _).andThen
      fun _ _ => acts_movePages _ depth _

theorem acts_reLaunch
    (pageId : Option String)
    (params : Entries Value) :
    ActsFor depth 1 session
      (session.reLaunch wiring pageId params depth)
      (Sequel.Ends action) := by
  unfold reLaunch
  exact (acts_startOver session wiring 0 _ params).andThen
    fun _ _ => acts_present_completed _ wiring _

theorem acts_navigateBack
    (params : Entries Value) :
    ActsFor depth 0 session (session.navigateBack wiring params)
      (Sequel.Ends action) := by
  unfold navigateBack
  simp only
  split
  · exact .succeed session .finish
  · exact (acts_movePages session depth _).andThen
      fun _ _ => acts_present_completed _ wiring _

theorem acts_switchTab
    (tabIndex : Option Nat)
    (pageId : Option String)
    (params : Entries Value) :
    ActsFor depth 1 session
      (session.switchTab wiring tabIndex pageId params depth)
      (Sequel.Ends action) := by
  unfold switchTab
  split
  · exact (ActsFor.refuse session _).mono (Nat.zero_le 1)
  · exact (acts_startOver session wiring _ _ params).andThen
      fun _ _ => acts_present_completed _ wiring _

theorem acts_showOverlay
    (found : Except Failure α)
    (present : α → Presentation) :
    ActsFor depth 0 session (session.showOverlay wiring found present)
      (Sequel.Ends action) := by
  unfold showOverlay
  split
  · exact .refuse session _
  · exact acts_present_completed session wiring _

theorem acts_showToast
    (inline : Option ToastSpec)
    (id : Option String) :
    ActsFor depth 0 session (session.showToast wiring inline id)
      (Sequel.Ends action) := by
  unfold showToast
  split
  · exact .refuse session _
  · exact (acts_present session depth wiring _).andThen
      fun _ _ =>
        ⟨acts_armToast _ depth _,
          by rintro _ ⟨⟩; exact .finish⟩

theorem acts_updateState
    (path : String)
    (value : Value) :
    ActsFor depth 1 session
      (session.updateState wiring path value depth)
      (Sequel.Ends action) := by
  unfold updateState
  split
  · exact (ActsFor.refuse session _).mono (Nat.zero_le 1)
  · exact (acts_commit session depth _ _ _).andThen
      fun _ _ => acts_present_completed _ wiring _

end

/-- Carrying out an action is one write at most, or it is waiting only. -/
theorem acts_perform
    (session : Session)
    (wiring : Wiring)
    (action : Action)
    (depth : Nat) :
    ActsFor depth 1 session (session.perform wiring action depth)
        (Sequel.Ends action) ∨
      ∃ delay stage,
        Stage.Continues action depth stage ∧
          session.perform wiring action depth =
            session.succeed (.wait delay stage) := by
  -- Most kinds of actions write nothing at all.
  have idle :
      ∀ {attempt : Attempt Sequel},
        ActsFor depth 0 session attempt (Sequel.Ends action) →
        ActsFor depth 1 session attempt (Sequel.Ends action) :=
    fun acts => acts.mono (Nat.zero_le 1)
  unfold perform
  simp only
  split
  · exact Or.inl (idle (acts_goTo session wiring _ _ _))
  · exact Or.inl (idle (acts_goTo session wiring _ _ _))
  · exact Or.inl (acts_reLaunch session wiring _ _)
  · exact Or.inl (idle (acts_navigateBack session wiring _))
  · exact Or.inl (acts_switchTab session wiring _ _ _)
  · exact Or.inl (idle (acts_showOverlay session wiring _ _))
  · exact Or.inl (idle (acts_showOverlay session wiring _ _))
  · exact Or.inl (idle (acts_showToast session wiring _ _))
  · have hidden :
        ActsFor depth 0 session.disarmToast
          (session.disarmToast.showOverlay wiring (.ok ())
            fun _ => Presentation.hideToast)
          (Sequel.Ends action) :=
      acts_showOverlay _ wiring _ _
    exact Or.inl (idle
      ⟨(Acts.of_adds (.disarmToast session)).trans hidden.acts,
        hidden.result⟩)
  · exact Or.inl (idle (acts_showOverlay session wiring _ _))
  · exact Or.inl (idle (acts_showOverlay session wiring _ _))
  · exact Or.inr ⟨_, _, .answered, rfl⟩
  · exact Or.inl (acts_updateState session wiring _ _)
  · exact Or.inr ⟨_, _, .rested, rfl⟩
  · exact Or.inl (idle (.succeed session .finish))

theorem acts_commitResponse
    (session : Session)
    (wiring : Wiring)
    (path : Option String)
    (response : Value)
    (depth : Nat) :
    ActsFor depth 1 session
      (session.commitResponse wiring path response depth)
      fun _ => True := by
  have spared :
      ActsFor depth 1 session (session.succeed ()) fun _ => True :=
    (ActsFor.succeed session trivial).mono (Nat.zero_le 1)
  unfold commitResponse
  split
  · exact spared
  · split
    · exact spared
    · exact (acts_commit session depth _ _ _).andThen
        fun _ _ => .succeed _ trivial

/-- A response is noted and kept; going on with it is one write at most. -/
theorem acts_receive
    (session : Session)
    (ticket : Nat)
    (wiring : Wiring)
    (action : Action)
    (depth : Nat) :
    ∃ base,
      (base = session ∨
        ∃ url response, base = session.answered ticket url response) ∧
      ActsFor depth 1 base
        (session.receive ticket wiring action depth)
        (Sequel.Ends action) := by
  cases kind : action.kind with
  | request url method data headers onSuccess responsePath =>
      cases answer :
          (session.networkOf wiring.line).answer url data with
      | error failure =>
          rw [receive_of_failure ticket kind answer depth]
          exact ⟨session, Or.inl rfl,
            (ActsFor.refuse session _).mono (Nat.zero_le 1)⟩
      | ok response =>
          rw [receive_of_response ticket kind answer depth]
          refine ⟨_, Or.inr ⟨url, response, rfl⟩, ?_⟩
          refine
            (acts_commitResponse _ wiring responsePath response
              depth).andThen fun _ _ => .succeed _ ?_
          refine Sequel.ends_ofNext ?_
          intro further isNext
          obtain ⟨next, succeeds, rfl⟩ :=
            Option.map_eq_some_iff.mp isNext
          exact .responded (by rw [kind]; exact succeeds)
  | _ =>
      simp only [receive, kind]
      exact ⟨session, Or.inl rfl,
        (ActsFor.succeed session .finish).mono (Nat.zero_le 1)⟩

/-! ## Progress -/

/-- An action at a depth is done with, or followed one level deeper. -/
inductive Progress.Ends
    (action : Action)
    (depth : Nat) : Progress → Prop where
  | ended
      {outcome : Outcome} :
      Ends action depth (.ended outcome)
  | follow
      {outcome : Outcome}
      {next : Action} :
      action.LeadsTo next →
      Ends action depth (.follow outcome (.start next (depth + 1)))

/-- What follows an action is one level deeper than the action. -/
theorem ends_conclude
    {action : Action}
    {outcome : Except Failure Sequel}
    (ends :
      ∀ sequel, outcome = .ok sequel → sequel.Ends action)
    (depth : Nat) :
    (conclude action depth outcome).Ends action depth := by
  cases outcome with
  | error failure =>
      unfold conclude
      simp only
      split
      · exact .ended
      · split
        · rename_i isFallback
          exact .follow (.failed isFallback)
        · exact .ended
  | ok sequel =>
      cases ends sequel rfl with
      | finish =>
          exact .ended
      | follow leads =>
          exact .follow leads

/-- An action whose delay is over is followed by the next one, if any. -/
theorem ends_rested
    (action : Action)
    (depth : Nat) :
    (conclude action depth
      (.ok (.ofNext action.kind.followUp?))).Ends action depth := by
  refine ends_conclude ?_ depth
  rintro _ ⟨⟩
  exact Sequel.ends_ofNext fun _ => .rested

/-! ## What comes of a job -/

/-- A job comes back with its ticket, if at all, and others are added. -/
structure Yields
    (ticket : Nat)
    (before after : Session)
    (own : Option Job)
    (jobs : List Job)
    (news : List Occurrence) :
    Prop where
  settings :
    after.settings = before.settings
  watch :
    before.watch.Resembles after.watch
  nextTicket :
    after.agenda.nextTicket = before.agenda.nextTicket + jobs.length
  entries :
    ∀ entry ∈ after.agenda.entries,
      entry ∈ before.agenda.entries ∨
        (entry.ticket = ticket ∧ own = some entry.job) ∨
        entry ∈ numbered before.agenda.nextTicket jobs
  journal :
    after.journal = before.journal ++ news
  tracked :
    (∀ job, own = some job →
      ∀ ofToast, isTimerFor ofToast job = false) →
    IsTracked before →
      IsTracked after

/-- Only the job itself comes back with a ticket that had been taken. -/
theorem Yields.own_eq_of_mem
    {ticket : Nat}
    {before after : Session}
    {own : Option Job}
    {jobs : List Job}
    {news : List Occurrence}
    (yields : Yields ticket before after own jobs news)
    (lacks : before.agenda.Lacks ticket)
    {job : Job}
    (member : ⟨ticket, job⟩ ∈ after.agenda.entries) :
    own = some job := by
  rcases yields.entries _ member with isOld | ⟨_, isOwn⟩ | isNew
  · exact absurd rfl (lacks.absent _ isOld)
  · exact isOwn
  · have given := lacks.given
    have notGiven := (ticket_of_mem_numbered isNew).1
    simp only at notGiven
    omega

theorem Adds.yields
    {before after : Session}
    {jobs : List Job}
    {news : List Occurrence}
    (adds : Adds before after jobs news)
    (ticket : Nat) :
    Yields ticket before after none jobs news where
  settings :=
    adds.settings
  watch :=
    adds.watch
  nextTicket :=
    adds.nextTicket
  entries entry member :=
    (adds.entries entry member).imp_right Or.inr
  journal :=
    adds.journal
  tracked _ :=
    adds.tracked

theorem Adds.yields_back
    {ticket : Nat}
    {before between : Session}
    {jobs : List Job}
    {news : List Occurrence}
    (adds : Adds before between jobs news)
    {agenda : Agenda Job}
    {job : Job}
    (perm :
      agenda.entries.Perm (⟨ticket, job⟩ :: between.agenda.entries))
    (nextTicket : agenda.nextTicket = between.agenda.nextTicket) :
    Yields ticket before { between with agenda := agenda } (some job)
      jobs news where
  settings :=
    adds.settings
  watch :=
    adds.watch
  nextTicket :=
    nextTicket.trans adds.nextTicket
  entries entry member := by
    rcases List.mem_cons.mp (perm.mem_iff.mp member) with rfl | isOther
    · exact Or.inr (Or.inl ⟨rfl, rfl⟩)
    · exact (adds.entries entry isOther).imp_right Or.inr
  journal :=
    adds.journal
  tracked noTimer tracked := by
    refine (adds.tracked tracked).of_entries rfl rfl ?_
    intro entry member ofToast isTimer
    rcases List.mem_cons.mp (perm.mem_iff.mp member) with rfl | isOther
    · rw [noTimer job rfl ofToast] at isTimer
      cases isTimer
    · exact ⟨entry.job, isOther, isTimer⟩

/-- A task has ended, or it goes on with a follow-up one level deeper. -/
inductive Follows
    (action : Action)
    (depth : Nat) : Option Job → Prop where
  | ends :
      Follows action depth none
  | leads
      {origin : Origin}
      {next : Action}
      {settled : Option Outcome} :
      action.LeadsTo next →
      Follows action depth
        (some (.task ⟨origin, .start next (depth + 1), settled⟩))

/-- How many writes the rest of an action may take. -/
def writesLeft : Stage → Nat
  | .start _ _ =>
      1
  | .answered _ _ _ =>
      1
  | .rested _ _ =>
      0
  | .void =>
      0

/--
What a job with a ticket does, up to a depth, before so many watchers and with
functions that may be called: what becomes of the job, which jobs it adds, and
what it notes.
-/
inductive Works
    (functions : Registry)
    (limit watchers ticket : Nat) :
    Job → Option Job → List Job → List Occurrence → Prop where
  /-- A timer starts to wait. -/
  | waits
      {timer : Timer Errand} :
      Works functions limit watchers ticket (.timer timer)
        (some (.timer (.elapsed timer.work))) [] []
  /-- A timer or a task comes to its end with nothing begun. -/
  | passes
      {job : Job}
      {news : List Occurrence} :
      (∀ occurrence ∈ news, isAside occurrence = true) →
      Works functions limit watchers ticket job none [] news
  /-- The time of a timer is over, and its watcher fires. -/
  | fires
      {timer : Timer Errand}
      {firing : Firing}
      {jobs : List Job} :
      timer.work = .fire firing →
      Starts functions firing jobs →
      Works functions limit watchers ticket (.timer timer) none jobs
        [.fired firing]
  /-- A task carries out an action for which it has to wait. -/
  | awaits
      {origin : Origin}
      {stage : Stage}
      {action : Action}
      {depth : Nat}
      {settled : Option Outcome} :
      depth ≤ limit →
      Stage.Continues action depth stage →
      Works functions limit watchers ticket
        (.task ⟨origin, .start action depth, settled⟩)
        (some (.task ⟨origin, stage, settled⟩)) []
        [.performed ticket action depth]
  /-- A task carries out an action without waiting. -/
  | begins
      {origin : Origin}
      {action : Action}
      {depth : Nat}
      {settled : Option Outcome}
      {own : Option Job}
      {jobs : List Job}
      {news : List Occurrence} :
      depth ≤ limit →
      AllOwed functions depth watchers news jobs news →
      Follows action depth own →
      Works functions limit watchers ticket
        (.task ⟨origin, .start action depth, settled⟩) own jobs
        (.performed ticket action depth :: news)
  /-- A task takes an action further. -/
  | furthers
      {origin : Origin}
      {stage : Stage}
      {action : Action}
      {depth : Nat}
      {settled : Option Outcome}
      {own : Option Job}
      {jobs : List Job}
      {news : List Occurrence} :
      Stage.Continues action depth stage →
      AllOwed functions depth (writesLeft stage * watchers) news jobs news →
      Follows action depth own →
      Works functions limit watchers ticket
        (.task ⟨origin, stage, settled⟩) own jobs news

/-- A task that is done with its action notes its end, or goes on. -/
theorem Concluded.yields
    {session between after : Session}
    {ticket : Nat}
    {task : Task}
    {progress : Progress}
    {jobs : List Job}
    {news : List Occurrence}
    {action : Action}
    {depth : Nat}
    (concluded : Concluded between ticket task progress after)
    (adds : Adds session between jobs news)
    (ends : progress.Ends action depth) :
    ∃ own tail,
      Yields ticket session after own jobs (news ++ tail) ∧
        (∀ occurrence ∈ tail, isAside occurrence = true) ∧
        Follows action depth own := by
  cases concluded with
  | @ended outcome =>
      let finished : Occurrence :=
        .finished between.agenda.now ticket task.origin
          (task.settled.getD outcome)
      have noted := adds.trans (.note between finished)
      rw [List.append_nil] at noted
      exact ⟨none, [finished], noted.yields ticket,
        by simp [finished, isAside], .ends⟩
  | follow perm nextTicket =>
      have back := adds.yields_back perm nextTicket
      rw [← List.append_nil news] at back
      cases ends with
      | follow leads =>
          exact ⟨_, [], back, by simp, .leads leads⟩
  | wait =>
      cases ends

/-- A task whose request has been answered goes on with one write at most. -/
theorem works_answered
    (session : Session)
    (ticket : Nat)
    (limit : Nat)
    (origin : Origin)
    (settled : Option Outcome)
    (wiring : Wiring)
    (action : Action)
    (depth : Nat) :
    let task : Task := ⟨origin, .answered wiring action depth, settled⟩
    ∃ own jobs news,
      Yields ticket session (session.runTask ticket task) own jobs news ∧
        Works session.functions limit session.watch.size ticket
          (.task task) own jobs news := by
  intro task
  obtain ⟨base, isBase, acts⟩ :=
    acts_receive session ticket wiring action depth
  -- The response is noted before anything is written.
  have based :
      ∃ head,
        Adds session base [] head ∧
          ∀ occurrence ∈ head, isAside occurrence = true := by
    rcases isBase with rfl | ⟨url, response, rfl⟩
    · exact ⟨[], .refl _, by simp⟩
    · exact ⟨_, .answered session ticket url response,
        by simp [isAside]⟩
  obtain ⟨head, kept, headAside⟩ := based
  obtain ⟨jobs, news, adds, owed⟩ := acts.acts
  obtain ⟨own, tail, yields, tailAside, follows⟩ :=
    (concluded_runTask session ticket task).yields
      (kept.trans adds) (ends_conclude acts.result depth)
  rw [kept.size_watch, kept.functions_eq] at owed
  exact ⟨own, jobs, _, yields,
    .furthers .answered ((owed.preceded headAside).followed tailAside)
      follows⟩

/-- A task that carries out an action notes that first. -/
theorem works_start
    (session : Session)
    (ticket : Nat)
    {wiring : Wiring}
    (wired : session.wiring = some wiring)
    (origin : Origin)
    (settled : Option Outcome)
    (action : Action)
    {depth : Nat}
    (within : depth ≤ session.settings.cascadeLimit) :
    let task : Task := ⟨origin, .start action depth, settled⟩
    ∃ own jobs news,
      Yields ticket session (session.runTask ticket task) own jobs news ∧
        Works session.functions session.settings.cascadeLimit
          session.watch.size ticket (.task task) own jobs news := by
  intro task
  let performed : Occurrence := .performed ticket action depth
  let begun := session.note performed
  have concluded := concluded_runTask session ticket task
  have advanced :
      session.advanceStage ticket (.start action depth) =
        ((begun.perform wiring action depth).session,
          conclude action depth
            (begun.perform wiring action depth).outcome) := by
    simp only [advanceStage, wired, if_neg (Nat.not_lt.mpr within)]
    rfl
  have noted := Adds.note session performed
  simp only [task, advanced] at concluded
  rcases acts_perform begun wiring action depth with
      acts | ⟨delay, stage, continues, waits⟩
  · obtain ⟨jobs, news, adds, owed⟩ := acts.acts
    obtain ⟨own, tail, yields, tailAside, follows⟩ :=
      concluded.yields (noted.trans adds)
        (ends_conclude acts.result depth)
    rw [Nat.one_mul] at owed
    exact ⟨own, jobs, _, yields,
      .begins within (owed.followed tailAside) follows⟩
  · simp only [waits] at concluded
    generalize session.runTask ticket _ = after at concluded ⊢
    cases concluded with
    | wait perm nextTicket =>
        exact ⟨_, [], _, noted.yields_back perm nextTicket,
          .awaits within continues⟩

/-- What a task does, and what becomes of it. -/
theorem works_runTask
    (session : Session)
    (ticket : Nat)
    (task : Task) :
    ∃ own jobs news,
      Yields ticket session (session.runTask ticket task) own jobs news ∧
        Works session.functions session.settings.cascadeLimit
          session.watch.size ticket (.task task) own jobs news := by
  have concluded := concluded_runTask session ticket task
  obtain ⟨origin, stage, settled⟩ := task
  -- A stage that leaves the session as it is and ends adds only that note.
  have passes :
      ∀ outcome,
        session.advanceStage ticket stage = (session, .ended outcome) →
        ∃ own jobs news,
          Yields ticket session
              (session.runTask ticket ⟨origin, stage, settled⟩) own jobs
              news ∧
            Works session.functions session.settings.cascadeLimit
              session.watch.size ticket (.task ⟨origin, stage, settled⟩)
              own jobs news := by
    intro outcome advanced
    simp only [advanced] at concluded
    generalize Session.runTask session ticket _ = after
      at concluded ⊢
    cases concluded with
    | ended =>
        exact ⟨none, [], _, (Adds.note session _).yields ticket,
          .passes (by simp [isAside])⟩
  cases stage with
  | start action depth =>
      by_cases deep : session.settings.cascadeLimit < depth
      · exact passes .failed (by simp [advanceStage, deep])
      · cases wired : session.wiring with
        | none =>
            exact passes .skipped (by simp [advanceStage, deep, wired])
        | some wiring =>
            exact works_start session ticket wired origin settled action
              (Nat.not_lt.mp deep)
  | answered wiring action depth =>
      exact works_answered session ticket _ origin settled wiring action
        depth
  | rested action depth =>
      obtain ⟨own, tail, yields, tailAside, follows⟩ :=
        concluded.yields (Adds.refl session) (ends_rested action depth)
      exact ⟨own, [], _, yields,
        .furthers .rested (AllOwed.nil.followed tailAside) follows⟩
  | void =>
      exact passes .skipped rfl

/-- A watcher that is let fire may note that it has, and no more. -/
theorem adds_fire
    {session : Session}
    {watch : Watch}
    {firing : Firing}
    {fired : Option Firing}
    (fires : session.watch.fire firing = (watch, fired)) :
    Adds session { session with watch := watch } [] [] := by
  have same := Watch.resembles_fire session.watch firing
  rw [fires] at same
  exact .of_eq rfl same rfl rfl rfl rfl

/-- The errand of a timer is to hide the toast, or to let a watcher fire. -/
theorem works_runErrand
    (session : Session)
    (ticket limit : Nat)
    (timer : Timer Errand) :
    ∃ jobs news,
      Yields ticket session (session.runErrand timer.work) none jobs
          news ∧
        Works session.functions limit session.watch.size ticket
          (.timer timer) none jobs news := by
  cases work : timer.work with
  | hideToast =>
      let elapsed : Occurrence := .toastElapsed session.agenda.now
      have noted := Adds.note session elapsed
      simp only [runErrand]
      split
      · rename_i wiring _
        obtain ⟨news, adds, aside⟩ :=
          adds_present (session.note elapsed) wiring .hideToast
        exact ⟨[], _, (noted.trans adds).yields ticket,
          .passes (List.forall_mem_cons.mpr ⟨rfl, aside⟩)⟩
      · exact ⟨[], _, noted.yields ticket,
          .passes (by simp [elapsed, isAside])⟩
  | fire firing =>
      simp only [runErrand]
      split
      · rename_i watch fired fires
        obtain rfl := Watch.eq_of_fire fires
        obtain ⟨jobs, adds, starts⟩ :=
          adds_trigger { session with watch := watch } fired
        rw [(adds_fire fires).functions_eq] at starts
        exact ⟨jobs, _, ((adds_fire fires).trans adds).yields ticket,
          .fires work starts⟩
      · rename_i watch fires
        exact ⟨[], [], (adds_fire fires).yields ticket,
          .passes (by simp)⟩

/-- What a job does, and what becomes of it. -/
theorem works_runJob
    (session : Session)
    (ticket : Nat)
    (job : Job) :
    ∃ own jobs news,
      Yields ticket session (session.runJob ticket job) own jobs news ∧
        Works session.functions session.settings.cascadeLimit
          session.watch.size ticket job own jobs news := by
  cases job with
  | task task =>
      exact works_runTask session ticket task
  | timer timer =>
      simp only [runJob]
      split
      · exact ⟨none, works_runErrand session ticket _ timer⟩
      · exact ⟨_, [], [],
          (Adds.refl session).yields_back (Agenda.entries_arm _ _ _) rfl,
          .waits⟩

end Session

end Mockup
