import Mockup.Proofs.Session.Work

namespace Mockup

/-!
# The life of a session

A session moves by itself, and it is acted on from outside: actions are
launched, the state is written, watchers come and go, and in the end the
session is stopped.  Through all of it tickets stay in order, the settings
stay as they are, and no job but the one that runs gets on.
-/

namespace Session

/-! ## What is done from outside -/

/-- Writing the state from outside is a write at depth zero. -/
theorem acts_setState
    (session : Session)
    (path : String)
    (value : Value) :
    Acts 0 1 session (session.setState path value).session := by
  have written :
      Acts 0 0 session
        { session with store := (session.store.set path value).1 } :=
    .of_adds (.of_eq rfl (.refl _) rfl rfl rfl rfl)
  unfold setState
  simp only
  split
  · exact written.mono (Nat.zero_le 1)
  · exact written.trans (acts_notify _ _ ⟨_, 0⟩)

theorem grows_setState
    (session : Session)
    (path : String)
    (value : Value) :
    Grows session (session.setState path value).session := by
  have written :
      Grows session
        { session with store := (session.store.set path value).1 } :=
    .of_eq rfl rfl
  unfold setState
  simp only
  split
  · exact written
  · exact written.trans (grows_notify _ _ _)

/-- A desk of which timers may have been cancelled, and no more. -/
structure Cancels
    (before after : WatchDesk Job) :
    Prop where
  agenda :
    before.agenda.Extends after.agenda
  subset :
    after.agenda.entries ⊆ before.agenda.entries
  tracks :
    ∀ isKind,
      before.timers.Tracks before.agenda isKind →
        after.timers.Tracks after.agenda isKind

theorem Cancels.refl
    (desk : WatchDesk Job) :
    Cancels desk desk :=
  ⟨.refl desk.agenda, fun _ => id, fun _ => id⟩

theorem cancels_cancelWhere
    (desk : WatchDesk Job)
    (watch : Watch)
    (chosen : TriggerKey → Bool) :
    Cancels desk ({ desk with watch := watch }.cancelWhere chosen) where
  agenda :=
    .abortAll desk.agenda _
  subset _ :=
    Agenda.mem_entries_abortAll
  tracks _ tracks :=
    tracks.cancelWhere chosen

theorem cancels_removeAll
    (desk : WatchDesk Job)
    (path : String) :
    Cancels desk (desk.removeAll path).1 := by
  unfold WatchDesk.removeAll
  split
  · exact .refl desk
  · dsimp only
    exact cancels_cancelWhere desk _ _

theorem cancels_remove
    (desk : WatchDesk Job)
    (path : String)
    (config : WatchConfig) :
    Cancels desk (desk.remove path config).1 := by
  unfold WatchDesk.remove
  split
  · dsimp only
    exact cancels_cancelWhere desk _ _
  · exact .refl desk

theorem cancels_clear
    (desk : WatchDesk Job) :
    Cancels desk desk.clear :=
  cancels_cancelWhere desk desk.watch.clear _

/-- A session without its watchers and their timers. -/
def unwatched
    (session : Session) :
    Session :=
  { session with toWatchDesk := session.toWatchDesk.clear }

theorem grows_unwatched
    (session : Session) :
    Grows session session.unwatched :=
  .of_extends (cancels_clear session.toWatchDesk).agenda rfl

theorem shutdown_eq
    (session : Session) :
    session.shutdown =
      { session.unwatched.destroy with
        agenda :=
          session.unwatched.destroy.agenda.filter fun entry =>
            !isCascade entry.job,
        pages := session.unwatched.destroy.pages.destroy } :=
  rfl

/-- A job of a session that has been stopped was there, or has been woken. -/
theorem mem_entries_shutdown
    {session : Session}
    {entry : Ticketed Job}
    (member : entry ∈ session.shutdown.agenda.entries) :
    isCascade entry.job = false ∧
      ∃ job,
        ⟨entry.ticket, job⟩ ∈ session.unwatched.agenda.entries ∧
          (job = entry.job ∨ woken? job = some entry.job) := by
  rw [shutdown_eq, Agenda.entries_filter, List.mem_filter] at member
  refine ⟨by simpa using member.2, mem_entries_destroy member.1⟩

/-! ## Everything that may happen -/

/-- What may happen to a session: by a job with a ticket, or otherwise. -/
inductive Happens
    (session : Session) : Option Nat → Session → Prop where
  | moved
      {mover : Option Nat}
      {next : Session} :
      Moves session mover next →
      Happens session mover next
  | launched
      (origin : Origin)
      (stage : Stage) :
      Happens session none (session.launch origin stage).1
  | wrote
      (path : String)
      (value : Value) :
      Happens session none (session.setState path value).session
  | watched
      (path : String)
      (config : WatchConfig)
      (depth : Nat) :
      Happens session none (session.addWatcher path config depth)
  | unwatched
      (path : String) :
      Happens session none (session.removeWatchers path).1
  | unwatchedOne
      (path : String)
      (config : WatchConfig) :
      Happens session none (session.removeWatcher path config).1
  | turned
      (pages : PageStack) :
      Happens session none { session with pages := pages }
  | stopped :
      Happens session none session.shutdown

namespace Happens

variable {before after : Session} {mover : Option Nat}

/-- What is done from outside makes a session grow, or stops it. -/
theorem grows
    (happens : Happens before mover after) :
    Moves before mover after ∨
      Grows before after ∨
      (mover = none ∧ after = before.shutdown) := by
  cases happens with
  | moved moves =>
      exact Or.inl moves
  | launched origin stage =>
      exact Or.inr (Or.inl (.spawn before _))
  | wrote path value =>
      exact Or.inr (Or.inl (grows_setState before path value))
  | watched path config depth =>
      exact Or.inr (Or.inl (grows_addWatcher before path config depth))
  | unwatched path =>
      exact Or.inr
        (Or.inl (.of_extends (cancels_removeAll _ path).agenda rfl))
  | unwatchedOne path config =>
      exact Or.inr
        (Or.inl
          (.of_extends (cancels_remove _ path config).agenda rfl))
  | turned pages =>
      exact Or.inr (Or.inl (.of_eq rfl rfl))
  | stopped =>
      exact Or.inr (Or.inr ⟨rfl, rfl⟩)

/-- What a job with a ticket does is its run. -/
theorem exists_takes
    {ticket : Nat}
    (happens : Happens before (some ticket) after) :
    ∃ (entry : Ticketed Job) (rest : Agenda Job),
      before.agenda.Takes entry rest ∧
        entry.ticket = ticket ∧
        after =
          { before with agenda := rest }.runJob entry.ticket
            entry.job := by
  cases happens with
  | moved moves =>
      cases moves with
      | ran takes =>
          exact ⟨_, _, takes, rfl, rfl⟩

/-- A session is stopped by steps that each leave its tickets in order. -/
theorem isOrderly_shutdown
    {session : Session}
    (orderly : IsOrderly session) :
    IsOrderly session.shutdown := by
  have destroyed : IsOrderly session.unwatched.destroy :=
    Moves.destroyed.isOrderly (orderly.grow (grows_unwatched session))
  exact destroyed.grow
    (.of_extends (.filter session.unwatched.destroy.agenda _) rfl)

theorem isOrderly
    (happens : Happens before mover after)
    (orderly : IsOrderly before) :
    IsOrderly after := by
  rcases happens.grows with moves | grows | ⟨_, rfl⟩
  · exact moves.isOrderly orderly
  · exact orderly.grow grows
  · exact isOrderly_shutdown orderly

theorem nextTicket_le
    (happens : Happens before mover after) :
    before.agenda.nextTicket ≤ after.agenda.nextTicket := by
  rcases happens.grows with moves | grows | ⟨_, rfl⟩
  · exact moves.nextTicket_le
  · exact grows.agenda.nextTicket
  · exact Nat.le_trans (grows_unwatched before).agenda.nextTicket
      Moves.destroyed.nextTicket_le

/-- A job whose ticket is not the mover's stays, ends, or is woken. -/
theorem left
    (happens : Happens before mover after)
    {entry : Ticketed Job}
    (given : entry.ticket < before.agenda.nextTicket)
    (foreign : mover ≠ some entry.ticket)
    (member : entry ∈ after.agenda.entries) :
    ∃ job,
      ⟨entry.ticket, job⟩ ∈ before.agenda.entries ∧
        (job = entry.job ∨ woken? job = some entry.job) := by
  rcases happens.grows with moves | grows | ⟨_, rfl⟩
  · exact (moves.leaves given foreign).entries entry member rfl
  · rcases grows.agenda.entries entry member with isOld | isNew
    · exact ⟨entry.job, isOld, Or.inl rfl⟩
    · omega
  · obtain ⟨_, job, isOld, same⟩ := mem_entries_shutdown member
    exact ⟨job, Agenda.mem_entries_abortAll isOld, same⟩

theorem settings_runJob
    (session : Session)
    (ticket : Nat)
    (job : Job) :
    (session.runJob ticket job).settings = session.settings := by
  obtain ⟨_, _, _, yields, _⟩ := works_runJob session ticket job
  exact yields.settings

theorem settings_trigger
    (session : Session)
    (firing : Firing) :
    (session.trigger firing).settings = session.settings := by
  obtain ⟨_, adds, _⟩ := adds_trigger session firing
  exact adds.settings

/-- Nothing that happens changes the settings. -/
theorem settings_eq
    (happens : Happens before mover after) :
    after.settings = before.settings := by
  cases happens with
  | moved moves =>
      cases moves with
      | ran takes =>
          exact settings_runJob _ _ _
      | slept time => rfl
      | wired wiring => rfl
      | rewired change => rfl
      | destroyed => rfl
      | connected network => rfl
  | launched origin stage =>
      rfl
  | wrote path value =>
      obtain ⟨_, _, adds, _⟩ := acts_setState before path value
      exact adds.settings
  | watched path config depth =>
      unfold addWatcher
      simp only
      split
      · exact settings_trigger _ _
      · rfl
  | unwatched path =>
      unfold removeWatchers
      rfl
  | unwatchedOne path config =>
      unfold removeWatcher
      rfl
  | turned pages =>
      rfl
  | stopped =>
      rfl

/-! ### Timers -/

theorem isTracked_destroy
    {session : Session}
    (tracked : IsTracked session) :
    IsTracked session.destroy := by
  have calm : IsTracked session.disarmToast :=
    (Adds.disarmToast session).tracked tracked
  refine calm.of_entries rfl rfl ?_
  intro entry member ofToast isTimer
  rcases Agenda.mem_entries_rouse member with isOld | ⟨job, _, wakes⟩
  · exact ⟨entry.job, isOld, isTimer⟩
  · -- A job that is woken is no timer.
    obtain ⟨_, _, _, _, _, same⟩ := exists_of_woken? wakes
    rw [same] at isTimer
    cases isTimer

theorem isTracked_of_cancels
    {session : Session}
    (tracked : IsTracked session)
    {desk : WatchDesk Job}
    (cancels : Cancels session.toWatchDesk desk) :
    IsTracked { session with toWatchDesk := desk } :=
  ⟨cancels.tracks _ tracked.watchers,
    tracked.toast.of_subset cancels.subset⟩

theorem isTracked_unwatched
    {session : Session}
    (tracked : IsTracked session) :
    IsTracked session.unwatched :=
  isTracked_of_cancels tracked (cancels_clear _)

theorem isTracked_shutdown
    {session : Session}
    (tracked : IsTracked session) :
    IsTracked session.shutdown := by
  refine (isTracked_destroy (isTracked_unwatched tracked)).of_subset
    rfl rfl ?_
  intro entry member
  rw [shutdown_eq, Agenda.entries_filter] at member
  exact (List.mem_filter.mp member).1

theorem isTracked_trigger
    {session : Session}
    (tracked : IsTracked session)
    (firing : Firing) :
    IsTracked (session.trigger firing) := by
  obtain ⟨_, adds, _⟩ := adds_trigger session firing
  exact adds.tracked tracked

theorem isTracked_addWatcher
    {session : Session}
    (tracked : IsTracked session)
    (path : String)
    (config : WatchConfig)
    (depth : Nat) :
    IsTracked (session.addWatcher path config depth) := by
  have remembers :
      ∀ watch : Watch, IsTracked { session with watch := watch } :=
    fun _ => ⟨tracked.watchers, tracked.toast⟩
  unfold addWatcher
  simp only
  split
  · exact isTracked_trigger (remembers _) _
  · exact remembers _

/-- A job that runs comes back, if at all, as the timer that it was. -/
theorem isTracked_runJob
    {session : Session}
    (tracked : IsTracked session)
    {entry : Ticketed Job}
    {rest : Agenda Job}
    (takes : session.agenda.Takes entry rest) :
    IsTracked
      ({ session with agenda := rest }.runJob entry.ticket
        entry.job) := by
  have taken : IsTracked { session with agenda := rest } :=
    tracked.of_subset rfl rfl fun _ member =>
      takes.perm.mem_iff.mpr (List.mem_cons_of_mem _ member)
  cases isJob : entry.job with
  | task task =>
      obtain ⟨own, jobs, news, yields, works⟩ :=
        works_runTask { session with agenda := rest } entry.ticket task
      refine yields.tracked ?_ taken
      rintro job rfl ofToast
      cases works with
      | awaits _ _ =>
          rfl
      | begins _ _ follows =>
          cases follows
          rfl
      | furthers _ _ follows =>
          cases follows
          rfl
  | timer timer =>
      simp only [runJob]
      split
      · obtain ⟨jobs, news, yields, _⟩ :=
          works_runErrand { session with agenda := rest } entry.ticket 0
            timer
        exact yields.tracked (by simp) taken
      · refine tracked.of_entries rfl rfl ?_
        intro other member ofToast isTimer
        rcases List.mem_cons.mp
            ((Agenda.entries_arm rest timer.delay
              ⟨entry.ticket, .timer (.elapsed timer.work)⟩).mem_iff.mp
                member) with
            rfl | isOther
        · refine ⟨entry.job, ?_, ?_⟩
          · exact takes.perm.mem_iff.mpr List.mem_cons_self
          · rw [isJob]
            exact isTimer
        · exact ⟨other.job, takes.perm.mem_iff.mpr
            (List.mem_cons_of_mem _ isOther), isTimer⟩

/-- Whatever happens, every timer stays in its table. -/
theorem isTracked
    (happens : Happens before mover after)
    (tracked : IsTracked before) :
    IsTracked after := by
  cases happens with
  | moved moves =>
      cases moves with
      | ran takes =>
          exact isTracked_runJob tracked takes
      | slept time =>
          exact tracked.of_subset rfl rfl
            (Agenda.entries_moveTo before.agenda time).subset
      | wired wiring =>
          exact ⟨tracked.watchers, tracked.toast⟩
      | rewired change =>
          exact ⟨tracked.watchers, tracked.toast⟩
      | destroyed =>
          exact isTracked_destroy tracked
      | connected network =>
          exact ⟨tracked.watchers, tracked.toast⟩
  | launched origin stage =>
      exact (Adds.spawn before ⟨origin, stage, none⟩).tracked tracked
  | wrote path value =>
      obtain ⟨_, _, adds, _⟩ := acts_setState before path value
      exact adds.tracked tracked
  | watched path config depth =>
      exact isTracked_addWatcher tracked path config depth
  | unwatched path =>
      exact isTracked_of_cancels tracked (cancels_removeAll _ path)
  | unwatchedOne path config =>
      exact isTracked_of_cancels tracked (cancels_remove _ path config)
  | turned pages =>
      exact ⟨tracked.watchers, tracked.toast⟩
  | stopped =>
      exact isTracked_shutdown tracked

end Happens

/-! ## Lives -/

/-- A session of an application has come about since it was booted. -/
inductive Lived
    (app : AppDocument)
    (settings : Settings) : Session → Prop where
  | booted
      {functions : Registry} :
      Lived app settings (boot app settings functions)
  | happened
      {before after : Session}
      {mover : Option Nat} :
      Lived app settings before →
      Happens before mover after →
      Lived app settings after

namespace Lived

variable {app : AppDocument} {settings : Settings} {session : Session}
variable {functions : Registry}

theorem isOrderly
    (lived : Lived app settings session) :
    IsOrderly session := by
  induction lived with
  | booted =>
      exact isOrderly_boot app settings _
  | happened _ happens inductionHypothesis =>
      exact happens.isOrderly inductionHypothesis

theorem settings_boot :
    (boot app settings functions).settings = settings := by
  have declared :
      ∀ (declarations : List WatchDeclaration) (current : Session),
        (declarations.foldl addDeclared current).settings =
          current.settings := by
    intro declarations
    induction declarations with
    | nil =>
        exact fun _ => rfl
    | cons declaration declarations inductionHypothesis =>
        intro current
        refine (inductionHypothesis _).trans ?_
        unfold addDeclared
        split
        · exact Happens.settings_eq (.watched _ _ _)
        · rfl
  exact declared _ _

theorem isTracked_boot :
    IsTracked (boot app settings functions) := by
  have declared :
      ∀ (declarations : List WatchDeclaration) (current : Session),
        IsTracked current →
        IsTracked (declarations.foldl addDeclared current) := by
    intro declarations
    induction declarations with
    | nil =>
        exact fun _ => id
    | cons declaration declarations inductionHypothesis =>
        intro current tracked
        refine inductionHypothesis _ ?_
        unfold addDeclared
        split
        · exact Happens.isTracked_addWatcher tracked _ _ _
        · exact tracked
  refine declared _ _ ⟨⟨List.nodup_nil, ?_⟩, ⟨List.nodup_nil, ?_⟩⟩ <;>
    exact fun _ member => nomatch member

/-- Every timer of a session is in the table where it belongs. -/
theorem isTracked
    (lived : Lived app settings session) :
    IsTracked session := by
  induction lived with
  | booted =>
      exact isTracked_boot
  | happened _ happens inductionHypothesis =>
      exact happens.isTracked inductionHypothesis

/-- A session keeps the settings that it was booted with. -/
theorem settings_eq
    (lived : Lived app settings session) :
    session.settings = settings := by
  induction lived with
  | booted =>
      exact settings_boot
  | happened _ happens inductionHypothesis =>
      exact happens.settings_eq.trans inductionHypothesis

end Lived

end Session

end Mockup
