import Mockup.Proofs.Session.PassedOver
import Mockup.Proofs.TimerTable
import Mockup.Proofs.Watch.Answers

namespace Mockup

/-!
# What effects add

An effect adds notes to the journal and jobs to the agenda, which are given
tickets one after another; timers stay in their tables.  What a write at some
depth of a cascade adds is noted at that depth, and the actions it starts are
one level deeper; there are no more of them than there are watchers.
-/

namespace Session

/-! ## Timers on the agenda -/

/-- Whether a job is a timer: to hide the toast, or else for a watcher. -/
def isTimerFor
    (ofToast : Bool) : Job → Bool
  | .timer timer =>
      match timer.work with
      | .hideToast =>
          ofToast
      | .fire _ =>
          !ofToast
  | .task _ =>
      false

/-- Every timer on the agenda is in the table where it belongs. -/
structure IsTracked
    (session : Session) :
    Prop where
  watchers :
    session.timers.Tracks session.agenda (isTimerFor false)
  toast :
    session.toastTimer.Tracks session.agenda (isTimerFor true)

/-- Timers stay in their tables when none is added. -/
theorem IsTracked.of_entries
    {before after : Session}
    (tracked : IsTracked before)
    (timers : after.timers = before.timers)
    (toastTimer : after.toastTimer = before.toastTimer)
    (entries :
      ∀ entry ∈ after.agenda.entries, ∀ ofToast,
        isTimerFor ofToast entry.job = true →
        ∃ job,
          ⟨entry.ticket, job⟩ ∈ before.agenda.entries ∧
            isTimerFor ofToast job = true) :
    IsTracked after where
  watchers := by
    rw [timers]
    exact tracked.watchers.of_entries fun entry member =>
      entries entry member false
  toast := by
    rw [toastTimer]
    exact tracked.toast.of_entries fun entry member =>
      entries entry member true

theorem IsTracked.of_subset
    {before after : Session}
    (tracked : IsTracked before)
    (timers : after.timers = before.timers)
    (toastTimer : after.toastTimer = before.toastTimer)
    (subset : after.agenda.entries ⊆ before.agenda.entries) :
    IsTracked after :=
  tracked.of_entries timers toastTimer
    fun entry member _ isTimer => ⟨entry.job, subset member, isTimer⟩

/-! ## Additions -/

/-- Jobs with the tickets that they are given one after another. -/
def numbered : Nat → List Job → List (Ticketed Job)
  | _, [] =>
      []
  | next, job :: jobs =>
      ⟨next, job⟩ :: numbered (next + 1) jobs

theorem numbered_append
    (next : Nat)
    (earlier later : List Job) :
    numbered next (earlier ++ later) =
      numbered next earlier ++ numbered (next + earlier.length) later := by
  induction earlier generalizing next with
  | nil =>
      rfl
  | cons job jobs inductionHypothesis =>
      have shift : next + 1 + jobs.length = next + (jobs.length + 1) := by
        omega
      simp only [List.cons_append, numbered, inductionHypothesis, shift,
        List.length_cons]

theorem ticket_of_mem_numbered
    {next : Nat}
    {jobs : List Job}
    {entry : Ticketed Job}
    (member : entry ∈ numbered next jobs) :
    next ≤ entry.ticket ∧
      entry.ticket < next + jobs.length ∧
      entry.job ∈ jobs := by
  induction jobs generalizing next with
  | nil =>
      cases member
  | cons job jobs inductionHypothesis =>
      rcases List.mem_cons.mp member with rfl | later
      · simp
      · obtain ⟨lower, upper, isJob⟩ := inductionHypothesis later
        refine ⟨by omega, ?_, List.mem_cons_of_mem _ isJob⟩
        rw [List.length_cons]
        omega

/-- Only jobs and notes come to a session; watchers and tables stay. -/
structure Adds
    (before after : Session)
    (jobs : List Job)
    (news : List Occurrence) :
    Prop where
  settings :
    after.settings = before.settings
  watch :
    before.watch.Resembles after.watch
  nextTicket :
    after.agenda.nextTicket = before.agenda.nextTicket + jobs.length
  entries :
    ∀ entry ∈ after.agenda.entries,
      entry ∈ before.agenda.entries ∨
        entry ∈ numbered before.agenda.nextTicket jobs
  journal :
    after.journal = before.journal ++ news
  tracked :
    IsTracked before → IsTracked after

namespace Adds

/-- What concerns neither the agenda nor the journal adds nothing. -/
theorem of_eq
    {before after : Session}
    (settings : after.settings = before.settings)
    (watch : before.watch.Resembles after.watch)
    (timers : after.timers = before.timers)
    (toastTimer : after.toastTimer = before.toastTimer)
    (agenda : after.agenda = before.agenda)
    (journal : after.journal = before.journal) :
    Adds before after [] [] where
  settings :=
    settings
  watch :=
    watch
  nextTicket := by
    rw [agenda]
    rfl
  entries entry member :=
    Or.inl (agenda ▸ member)
  journal := by
    rw [journal, List.append_nil]
  tracked tracked :=
    tracked.of_subset timers toastTimer (by rw [agenda]; exact fun _ => id)

theorem refl
    (session : Session) :
    Adds session session [] [] :=
  .of_eq rfl (.refl _) rfl rfl rfl rfl

theorem trans
    {first second third : Session}
    {earlierJobs laterJobs : List Job}
    {earlierNews laterNews : List Occurrence}
    (earlier : Adds first second earlierJobs earlierNews)
    (later : Adds second third laterJobs laterNews) :
    Adds first third (earlierJobs ++ laterJobs)
      (earlierNews ++ laterNews) where
  settings :=
    later.settings.trans earlier.settings
  watch :=
    earlier.watch.trans later.watch
  nextTicket := by
    rw [later.nextTicket, earlier.nextTicket, List.length_append]
    omega
  entries entry member := by
    rw [numbered_append, ← earlier.nextTicket, List.mem_append,
      ← or_assoc]
    rcases later.entries entry member with isOld | isNew
    · exact Or.inl (earlier.entries entry isOld)
    · exact Or.inr isNew
  journal := by
    rw [later.journal, earlier.journal, List.append_assoc]
  tracked :=
    later.tracked ∘ earlier.tracked

theorem note
    (session : Session)
    (occurrence : Occurrence) :
    Adds session (session.note occurrence) [] [occurrence] :=
  ⟨rfl, .refl _, rfl, fun _ => Or.inl, rfl,
    fun tracked => ⟨tracked.watchers, tracked.toast⟩⟩

theorem spawn
    (session : Session)
    (task : Task) :
    Adds session (session.spawn (.task task)).1 [.task task] [] where
  settings :=
    rfl
  watch :=
    .refl _
  nextTicket :=
    rfl
  entries entry member := by
    have perm := Agenda.entries_spawn session.agenda (.task task)
    rcases List.mem_cons.mp (perm.mem_iff.mp member) with rfl | isOld
    · exact Or.inr (List.mem_singleton_self _)
    · exact Or.inl isOld
  journal := by
    rw [List.append_nil]
    rfl
  tracked tracked := by
    refine tracked.of_entries rfl rfl ?_
    intro entry member ofToast isTimer
    have perm := Agenda.entries_spawn session.agenda (.task task)
    rcases List.mem_cons.mp (perm.mem_iff.mp member) with rfl | isOld
    · cases isTimer
    · exact ⟨entry.job, isOld, isTimer⟩

/-- A response that comes to a task is noted. -/
theorem answered
    (session : Session)
    (ticket : Nat)
    (url : String)
    (response : Value) :
    Adds session (session.answered ticket url response) []
      [.responded ticket url response] := by
  let kept : Session :=
    { session with store := session.store.keepResponse url response }
  have keeps : Adds session kept [] [] :=
    .of_eq rfl (.refl _) rfl rfl rfl rfl
  exact keeps.trans (.note kept _)

/-- The watchers are as many as before. -/
theorem size_watch
    {before after : Session}
    {jobs : List Job}
    {news : List Occurrence}
    (adds : Adds before after jobs news) :
    after.watch.size = before.watch.size := by
  rw [Watch.size, adds.watch.registered, Watch.size]

theorem functions_eq
    {before after : Session}
    {jobs : List Job}
    {news : List Occurrence}
    (adds : Adds before after jobs news) :
    after.functions = before.functions :=
  adds.watch.functions

end Adds

/-- Asking for a timer of a watcher adds that timer. -/
theorem Adds.arm
    (session : Session)
    (delay : Nat)
    (firing : Firing) :
    let job : Job := .timer (.fresh delay (.fire firing))
    Adds session
      { session with
        toWatchDesk := session.toWatchDesk.schedule firing.key job }
      [job] [] where
  settings :=
    rfl
  watch :=
    .refl _
  nextTicket :=
    TimerTable.nextTicket_schedule session.timers session.agenda _ _
  entries _ member :=
    (TimerTable.mem_entries_schedule member).imp_right
      List.mem_singleton.mpr
  journal :=
    (List.append_nil _).symm
  tracked tracked :=
    ⟨tracked.watchers.schedule _ _,
      tracked.toast.of_schedule session.timers _ rfl⟩

/-- Asking for a timer that hides the toast adds that timer. -/
theorem Adds.armToast
    (session : Session)
    (duration : Nat) :
    Adds session (session.armToast duration)
      [.timer (.fresh duration .hideToast)] [] where
  settings :=
    rfl
  watch :=
    .refl _
  nextTicket :=
    TimerTable.nextTicket_schedule session.toastTimer session.agenda _ _
  entries _ member :=
    (TimerTable.mem_entries_schedule member).imp_right
      List.mem_singleton.mpr
  journal :=
    (List.append_nil _).symm
  tracked tracked :=
    ⟨tracked.watchers.of_schedule session.toastTimer _ rfl,
      tracked.toast.schedule _ _⟩

/-- Letting the toast stay adds nothing. -/
theorem Adds.disarmToast
    (session : Session) :
    Adds session session.disarmToast [] [] where
  settings :=
    rfl
  watch :=
    .refl _
  nextTicket :=
    TimerTable.nextTicket_cancelWhere session.toastTimer session.agenda
      fun _ => true
  entries _ member :=
    Or.inl (Agenda.mem_entries_abortAll member)
  journal :=
    (List.append_nil _).symm
  tracked tracked :=
    ⟨tracked.watchers.of_subset fun _ => Agenda.mem_entries_abortAll,
      tracked.toast.cancelWhere fun _ => true⟩

/-- How many watchers are registered, in other words. -/
theorem watcherCount_eq
    (session : Session) :
    session.watcherCount = session.watch.size := by
  rw [watcherCount, Watch.info, List.foldl_map, Watch.size,
    List.sum_eq_foldl, List.foldl_map]

/-! ## What is owed to a write -/

/-- A change was shown to the watchers, as a firing has it. -/
def Tells
    (news : List Occurrence)
    (firing : Firing) :
    Prop :=
  ∃ change,
    .notified change firing.context ∈ news ∧
      firing.change =
        { change with path := Path.normalize change.path }

/--
A job that an effect at a depth has added, given the functions that may be
called and what the effect has noted.
-/
inductive Owed
    (functions : Registry)
    (depth : Nat)
    (news : List Occurrence) : Job → Prop where
  | hides
      {duration : Nat} :
      Owed functions depth news (.timer (.fresh duration .hideToast))
  | waits
      {delay : Nat}
      {firing : Firing} :
      Tells news firing →
      firing.context.depth = depth →
      Owed functions depth news (.timer (.fresh delay (.fire firing)))
  | starts
      {firing : Firing}
      {action : Action} :
      Tells news firing →
      firing.context.depth = depth →
      .fired firing ∈ news →
      Action.ofValue (firedValue functions firing) = .ok action →
      Owed functions depth news
        (.task ⟨.cascade, .start action (depth + 1), none⟩)

/-- Whether actions may follow from a job. -/
def isCharged : Job → Bool
  | .timer timer =>
      match timer.work with
      | .hideToast =>
          false
      | .fire _ =>
          true
  | .task _ =>
      true

/-- Whether a note tells of no action, no change and no watcher. -/
def isAside : Occurrence → Bool
  | .performed _ _ _ =>
      false
  | .notified _ _ =>
      false
  | .fired _ =>
      false
  | _ =>
      true

/-- What an effect at a depth may note, given what has been noted. -/
inductive IsMinor
    (depth : Nat)
    (news : List Occurrence) : Occurrence → Prop where
  | aside
      {occurrence : Occurrence} :
      isAside occurrence = true →
      IsMinor depth news occurrence
  | notified
      {change : StateChange}
      {context : WatchContext} :
      context.depth = depth →
      IsMinor depth news (.notified change context)
  | fired
      {firing : Firing} :
      Tells news firing →
      firing.context.depth = depth →
      IsMinor depth news (.fired firing)

section

variable {functions : Registry} {depth : Nat} {news more : List Occurrence}

theorem Tells.mono
    {firing : Firing}
    (tells : Tells news firing)
    (subset : news ⊆ more) :
    Tells more firing := by
  obtain ⟨change, shown, same⟩ := tells
  exact ⟨change, subset shown, same⟩

theorem Owed.mono
    {job : Job}
    (owed : Owed functions depth news job)
    (subset : news ⊆ more) :
    Owed functions depth more job := by
  cases owed with
  | hides =>
      exact .hides
  | waits tells atDepth =>
      exact .waits (tells.mono subset) atDepth
  | starts tells atDepth fired reads =>
      exact .starts (tells.mono subset) atDepth (subset fired) reads

theorem IsMinor.mono
    {occurrence : Occurrence}
    (minor : IsMinor depth news occurrence)
    (subset : news ⊆ more) :
    IsMinor depth more occurrence := by
  cases minor with
  | aside isAside =>
      exact .aside isAside
  | notified atDepth =>
      exact .notified atDepth
  | fired tells atDepth =>
      exact .fired (tells.mono subset) atDepth

end

/-- Jobs and notes that effects at a depth have added, given what is known. -/
structure AllOwed
    (functions : Registry)
    (depth bound : Nat)
    (known : List Occurrence)
    (jobs : List Job)
    (news : List Occurrence) :
    Prop where
  owed :
    ∀ job ∈ jobs, Owed functions depth known job
  charged :
    jobs.countP isCharged ≤ bound
  minor :
    ∀ occurrence ∈ news, IsMinor depth known occurrence

namespace AllOwed

variable {functions : Registry} {depth bound : Nat}
variable {known : List Occurrence}

theorem nil :
    AllOwed functions depth bound known [] [] :=
  ⟨by simp, by simp, by simp⟩

theorem append
    {laterBound : Nat}
    {jobs laterJobs : List Job}
    {news laterNews : List Occurrence}
    (earlier : AllOwed functions depth bound known jobs news)
    (later : AllOwed functions depth laterBound known laterJobs laterNews) :
    AllOwed functions depth (bound + laterBound) known (jobs ++ laterJobs)
      (news ++ laterNews) where
  owed :=
    List.forall_mem_append.mpr ⟨earlier.owed, later.owed⟩
  charged := by
    rw [List.countP_append]
    exact Nat.add_le_add earlier.charged later.charged
  minor :=
    List.forall_mem_append.mpr ⟨earlier.minor, later.minor⟩

theorem mono
    {more : List Occurrence}
    {jobs : List Job}
    {news : List Occurrence}
    (owed : AllOwed functions depth bound known jobs news)
    (subset : known ⊆ more) :
    AllOwed functions depth bound more jobs news where
  owed job member :=
    (owed.owed job member).mono subset
  charged :=
    owed.charged
  minor occurrence member :=
    (owed.minor occurrence member).mono subset

theorem of_aside
    {news : List Occurrence}
    (aside : ∀ occurrence ∈ news, isAside occurrence = true) :
    AllOwed functions depth 0 known [] news where
  owed := by
    simp
  charged := by
    simp
  minor occurrence member :=
    .aside (aside occurrence member)

/-- Notes that tell of nothing else may come before. -/
theorem preceded
    {jobs : List Job}
    {head news : List Occurrence}
    (owed : AllOwed functions depth bound news jobs news)
    (headAside : ∀ occurrence ∈ head, isAside occurrence = true) :
    AllOwed functions depth bound (head ++ news) jobs (head ++ news) := by
  have whole :=
    (of_aside headAside).append
      (owed.mono (List.subset_append_right head news))
  simpa using whole

/-- Notes that tell of nothing else may come after. -/
theorem followed
    {jobs : List Job}
    {news tail : List Occurrence}
    (owed : AllOwed functions depth bound news jobs news)
    (tailAside : ∀ occurrence ∈ tail, isAside occurrence = true) :
    AllOwed functions depth bound (news ++ tail) jobs (news ++ tail) := by
  have whole :=
    (owed.mono (List.subset_append_left news tail)).append
      (of_aside tailAside)
  simpa using whole

end AllOwed

/-- A session acts at a depth by at most so many writes. -/
def Acts
    (depth writes : Nat)
    (before after : Session) :
    Prop :=
  ∃ jobs news,
    Adds before after jobs news ∧
      AllOwed before.functions depth (writes * before.watch.size) news
        jobs news

namespace Acts

variable {depth : Nat}

theorem of_adds
    {before after : Session}
    (adds : Adds before after [] []) :
    Acts depth 0 before after :=
  ⟨[], [], adds, .nil⟩

theorem refl
    (session : Session) :
    Acts depth 0 session session :=
  .of_adds (.refl session)

theorem trans
    {first second third : Session}
    {earlierWrites laterWrites : Nat}
    (earlier : Acts depth earlierWrites first second)
    (later : Acts depth laterWrites second third) :
    Acts depth (earlierWrites + laterWrites) first third := by
  obtain ⟨earlierJobs, earlierNews, earlierAdds, earlierOwed⟩ := earlier
  obtain ⟨laterJobs, laterNews, laterAdds, laterOwed⟩ := later
  rw [earlierAdds.size_watch, earlierAdds.functions_eq] at laterOwed
  refine ⟨_, _, earlierAdds.trans laterAdds, ?_⟩
  rw [Nat.add_mul]
  exact
    (earlierOwed.mono (List.subset_append_left _ _)).append
      (laterOwed.mono (List.subset_append_right _ _))

theorem mono
    {before after : Session}
    {writes more : Nat}
    (acts : Acts depth writes before after)
    (le : writes ≤ more) :
    Acts depth more before after := by
  obtain ⟨jobs, news, adds, owed⟩ := acts
  exact ⟨jobs, news, adds, owed.owed,
    Nat.le_trans owed.charged (Nat.mul_le_mul_right _ le),
    owed.minor⟩

theorem note
    (session : Session)
    {occurrence : Occurrence}
    (aside : isAside occurrence = true) :
    Acts depth 0 session (session.note occurrence) := by
  refine ⟨[], [occurrence], .note session occurrence, ?_⟩
  rw [Nat.zero_mul]
  exact .of_aside (by simpa using aside)

end Acts

/-! ## Watchers -/

/-- What a watcher that fires has started: a task one level deeper, if any. -/
inductive Starts
    (functions : Registry)
    (firing : Firing) : List Job → Prop where
  | nothing :
      Starts functions firing []
  | task
      {action : Action} :
      Action.ofValue (firedValue functions firing) = .ok action →
      Starts functions firing
        [.task
          ⟨.cascade, .start action (firing.context.depth + 1), none⟩]

/-- A watcher that fires notes it, and starts at most one task. -/
theorem adds_trigger
    (session : Session)
    (firing : Firing) :
    ∃ jobs,
      Adds session (session.trigger firing) jobs [.fired firing] ∧
        Starts session.functions firing jobs := by
  have noted := Adds.note session (.fired firing)
  unfold trigger
  simp only
  split
  · rename_i action reads
    exact ⟨_, noted.trans (.spawn _ _), .task reads⟩
  · exact ⟨[], noted, .nothing⟩

/-- A watcher that answers a change is owed to that change. -/
theorem adds_carryOut
    (session : Session)
    {told : List Occurrence}
    {reaction : Watch.Reaction}
    (tells : Tells told reaction.firing) :
    ∃ jobs news,
      Adds session (session.carryOut reaction) jobs news ∧
        AllOwed session.functions reaction.firing.context.depth 1
          (told ++ news) jobs news := by
  cases reaction with
  | fire firing =>
      obtain ⟨jobs, adds, starts⟩ := adds_trigger session firing
      have stillTells :
          Tells (told ++ [.fired firing]) firing :=
        tells.mono (List.subset_append_left _ _)
      refine ⟨jobs, _, adds, ?_, ?_, by simpa using .fired stillTells rfl⟩
      · cases starts with
        | nothing =>
            simp
        | task reads =>
            simpa using Owed.starts stillTells rfl (by simp) reads
      · cases starts <;> simp [List.countP_cons, isCharged]
  | arm delay firing =>
      let job : Job := .timer (.fresh delay (.fire firing))
      have waits :
          Owed session.functions firing.context.depth (told ++ []) job :=
        .waits (tells.mono (List.subset_append_left _ _)) rfl
      exact ⟨[job], [], .arm session delay firing,
        by simpa using waits, List.countP_le_length, by simp⟩

/-- All watchers that answer a change are owed to it. -/
theorem adds_foldl_carryOut
    (session : Session)
    {depth : Nat}
    {told : List Occurrence}
    {reactions : List Watch.Reaction}
    (tells :
      ∀ reaction ∈ reactions,
        Tells told reaction.firing ∧
          reaction.firing.context.depth = depth) :
    ∃ jobs news,
      Adds session (reactions.foldl carryOut session) jobs news ∧
        AllOwed session.functions depth reactions.length (told ++ news)
          jobs news := by
  induction reactions generalizing session with
  | nil =>
      exact ⟨[], [], .refl session, .nil⟩
  | cons reaction reactions inductionHypothesis =>
      obtain ⟨⟨firstTells, rfl⟩, otherTell⟩ :=
        List.forall_mem_cons.mp tells
      obtain ⟨jobs, news, adds, owed⟩ :=
        adds_carryOut session firstTells
      obtain ⟨laterJobs, laterNews, laterAdds, laterOwed⟩ :=
        inductionHypothesis (session.carryOut reaction) otherTell
      rw [adds.functions_eq] at laterOwed
      refine ⟨_, _, adds.trans laterAdds, ?_⟩
      rw [List.length_cons, Nat.add_comm]
      refine (owed.mono ?_).append (laterOwed.mono ?_)
      · intro occurrence member
        simp only [List.mem_append] at member ⊢
        exact member.imp_right Or.inl
      · intro occurrence member
        simp only [List.mem_append] at member ⊢
        exact member.imp_right Or.inr

/-- Showing a change is one write. -/
theorem acts_notify
    (session : Session)
    (change : StateChange)
    (context : WatchContext) :
    Acts context.depth 1 session (session.notify change context) := by
  let told : Occurrence := .notified change context
  let noted := session.note told
  let moment : Watch.Moment := ⟨noted.agenda.now, true⟩
  let answer := noted.watch.notify moment change context
  have remembers : Adds noted { noted with watch := answer.1 } [] [] :=
    .of_eq rfl (Watch.resembles_notify _ _ _ _) rfl rfl rfl rfl
  have tells :
      ∀ reaction ∈ answer.2,
        Tells [told] reaction.firing ∧
          reaction.firing.context.depth = context.depth := by
    intro reaction wanted
    obtain ⟨sameChange, sameContext⟩ :=
      Watch.firing_of_mem_notify _ _ _ _ wanted
    rw [Tells, sameContext]
    exact ⟨⟨change, List.mem_singleton_self _, sameChange⟩, rfl⟩
  obtain ⟨jobs, news, adds, owed⟩ :=
    adds_foldl_carryOut { noted with watch := answer.1 } tells
  rw [remembers.functions_eq] at owed
  have bounded : jobs.countP isCharged ≤ 1 * session.watch.size := by
    rw [Nat.one_mul]
    exact Nat.le_trans owed.charged
      (Watch.length_notify_le session.watch moment change context)
  refine ⟨_, _, (Adds.note session told).trans (remembers.trans adds),
    owed.owed, bounded, ?_⟩
  exact List.forall_mem_cons.mpr ⟨.notified rfl, owed.minor⟩

/-! ## Attempts -/

/--
An attempt acts at a depth by at most so many writes, and what it succeeds
with is as expected.
-/
structure Attempt.ActsFor
    (depth writes : Nat)
    (before : Session)
    (attempt : Attempt α)
    (expected : α → Prop) :
    Prop where
  acts :
    Acts depth writes before attempt.session
  result :
    ∀ result, attempt.outcome = .ok result → expected result

namespace Attempt.ActsFor

variable {depth : Nat}

theorem refuse
    (session : Session)
    (failure : Failure)
    {expected : α → Prop} :
    ActsFor depth 0 session (session.refuse failure) expected :=
  ⟨.refl session, by rintro _ ⟨⟩⟩

theorem succeed
    (session : Session)
    {result : α}
    {expected : α → Prop}
    (isExpected : expected result) :
    ActsFor depth 0 session (session.succeed result) expected := by
  refine ⟨.refl session, ?_⟩
  rintro _ ⟨⟩
  exact isExpected

/-- The writes of two attempts in a row add up. -/
theorem andThen
    {writes nextWrites total : Nat}
    {before : Session}
    {attempt : Attempt α}
    {next : Session → α → Attempt β}
    {expected : α → Prop}
    {nextExpected : β → Prop}
    (first : ActsFor depth writes before attempt expected)
    (second :
      ∀ result,
        expected result →
        ActsFor depth nextWrites attempt.session
          (next attempt.session result) nextExpected)
    (le : writes + nextWrites ≤ total := by decide) :
    ActsFor depth total before (attempt.andThen next)
      nextExpected := by
  unfold Attempt.andThen
  split
  · rename_i result succeeded
    have later := second result (first.result result succeeded)
    exact ⟨(first.acts.trans later.acts).mono le, later.result⟩
  · refine ⟨first.acts.mono (by omega), ?_⟩
    rintro _ ⟨⟩

theorem mono
    {writes more : Nat}
    {before : Session}
    {attempt : Attempt α}
    {expected : α → Prop}
    (acts : ActsFor depth writes before attempt expected)
    (le : writes ≤ more) :
    ActsFor depth more before attempt expected :=
  ⟨acts.acts.mono le, acts.result⟩

end Attempt.ActsFor

open Attempt (ActsFor)

section

variable (session : Session) (depth : Nat)

theorem acts_commit
    (wiring : Wiring)
    (path : String)
    (value : Value) :
    ActsFor depth 1 session
      (session.commit wiring path value depth) fun _ => True := by
  have written :
      Acts depth 0 session
        { session with store := (session.store.set path value).1 } :=
    .of_adds (.of_eq rfl (.refl _) rfl rfl rfl rfl)
  refine ⟨?_, fun _ _ => trivial⟩
  unfold commit
  simp only [session_observe]
  split
  · exact written.mono (Nat.zero_le 1)
  · split
    · exact written.trans (acts_notify _ _ ⟨_, depth⟩)
    · exact written.mono (Nat.zero_le 1)

theorem acts_movePages
    (move : PageStack → PageStack × Except Failure α) :
    ActsFor depth 0 session (session.movePages move)
      fun _ => True := by
  have told :
      ∀ (deliveries : List PageDelivery) (current : Session),
        Acts depth 0 current
          (deliveries.foldl (fun told delivery =>
            told.note (.delivered delivery)) current) := by
    intro deliveries
    induction deliveries with
    | nil =>
        exact fun current => .refl current
    | cons delivery deliveries inductionHypothesis =>
        intro current
        exact (Acts.note current rfl).trans
          (inductionHypothesis _)
  have moved :
      Acts depth 0 session
        { session with
          pages := (move session.pages).1.deliver.1 } :=
    .of_adds (.of_eq rfl (.refl _) rfl rfl rfl rfl)
  exact ⟨moved.trans (told _ _), fun _ _ => trivial⟩

/-- Showing something to the user is noted, and that is all. -/
theorem adds_present
    (wiring : Wiring)
    (shown : Presentation) :
    ∃ news,
      Adds session (session.present wiring shown).session [] news ∧
        ∀ occurrence ∈ news, isAside occurrence = true := by
  have noted :=
    Adds.note session (.presented session.agenda.now shown)
  have still := Adds.refl session
  unfold present
  simp only
  by_cases shows : wiring.presenter.isShowing = true
  · refine ⟨[.presented session.agenda.now shown], ?_, by simp [isAside]⟩
    simp only [shows, if_true]
    exact noted
  · refine ⟨[], ?_, by simp⟩
    simp only [shows, if_false, Bool.false_eq_true]
    exact still

theorem acts_present
    (wiring : Wiring)
    (shown : Presentation) :
    ActsFor depth 0 session (session.present wiring shown)
      fun _ => True := by
  obtain ⟨news, adds, aside⟩ := adds_present session wiring shown
  refine ⟨⟨[], news, adds, ?_⟩, fun _ _ => trivial⟩
  rw [Nat.zero_mul]
  exact .of_aside aside

theorem acts_armToast
    (duration : Nat) :
    Acts depth 0 session (session.armToast duration) :=
  ⟨_, [], .armToast session duration, by simpa using .hides,
    by simp [isCharged, Timer.work], by simp⟩

end

end Session

end Mockup
