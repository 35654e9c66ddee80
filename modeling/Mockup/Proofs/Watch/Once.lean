import Mockup.Proofs.Agenda
import Mockup.Proofs.Clockwork
import Mockup.Proofs.Watch.Answers
import Mockup.Watch.Timed

namespace Mockup

/-!
# Watchers that fire only once

A watch *marks* a key when a watcher of that key fires that fires only once.
The account is exact: each such firing sets the mark, nothing else does, and
none comes about while the mark is set.  Only a teardown of the key, which is
a `clear` or a `clearPath` of its path, takes the mark away.  So there is at
most one such firing from one teardown to the next.
-/

/-- Whether a watcher of a key fires that fires only once. -/
def Firing.isOnce
    (key : TriggerKey)
    (firing : Firing) :
    Bool :=
  firing.config.once && decide (firing.key = key)

namespace Watch

/-- The mark of a key: one when the key is spent, and else none. -/
def mark
    (watch : Watch)
    (key : TriggerKey) :
    Nat :=
  if key ∈ watch.spent then 1 else 0

theorem mark_le_one
    (watch : Watch)
    (key : TriggerKey) :
    watch.mark key ≤ 1 := by
  unfold mark
  split <;> omega

theorem mark_eq_of_spent
    {before after : Watch}
    (same : after.spent = before.spent)
    (key : TriggerKey) :
    after.mark key = before.mark key := by
  rw [mark, mark, same]

/-! ## Firing and answering -/

variable (key : TriggerKey)

/-- A watcher that fires only once sets the mark of its key when it fires. -/
theorem mark_fire
    (watch : Watch)
    (firing : Firing) :
    (watch.fire firing).1.mark key =
      watch.mark key +
        (watch.fire firing).2.toList.countP (Firing.isOnce key) := by
  unfold fire
  split
  · rename_i isOnce
    split
    · rfl
    · rename_i unspent
      have absent : firing.key ∉ watch.spent := by
        simpa using unspent
      by_cases own : firing.key = key
      · subst own
        simp [mark, absent, Firing.isOnce, isOnce]
      · simp [mark, Firing.isOnce, own, Ne.symm own]
  · rename_i many
    simp [Firing.isOnce, many]

/-- The firing that a reaction is, if it is not a timer. -/
def Reaction.fired? : Reaction → Option Firing
  | .fire firing =>
      some firing
  | .arm _ _ =>
      none

theorem mark_fireNow
    (watch : Watch)
    (firing : Firing) :
    (watch.fireNow firing).1.mark key =
      watch.mark key +
        ((watch.fireNow firing).2.toList.filterMap
          Reaction.fired?).countP (Firing.isOnce key) := by
  have fires := mark_fire key watch firing
  simp only [fireNow, Prod.map_fst, Prod.map_snd, id_eq]
  rw [fires]
  cases (watch.fire firing).2 <;> rfl

/-- A watcher that answers sets a mark only when it fires at once. -/
theorem mark_react
    (watch : Watch)
    (moment : Moment)
    (firing : Firing) :
    (watch.react moment firing).1.mark key =
      watch.mark key +
        ((watch.react moment firing).2.toList.filterMap
          Reaction.fired?).countP (Firing.isOnce key) := by
  unfold react
  split
  · rfl
  · split
    · split
      · rfl
      · exact mark_fireNow key watch firing
    · split
      · split
        · exact mark_fireNow key _ firing
        · rfl
      · exact mark_fireNow key watch firing

/-- Showing a change accounts for all the watchers that fire at once. -/
theorem mark_notify
    (watch : Watch)
    (moment : Moment)
    (change : StateChange)
    (context : WatchContext) :
    (watch.notify moment change context).1.mark key =
      watch.mark key +
        ((watch.notify moment change context).2.filterMap
          Reaction.fired?).countP (Firing.isOnce key) := by
  have inTurn :
      ∀ (shown : StateChange) (watchers : List (String × WatchConfig))
          (current : Watch),
        (reactAll moment shown context watchers current).1.mark key =
          current.mark key +
            ((reactAll moment shown context watchers
              current).2.filterMap
                Reaction.fired?).countP (Firing.isOnce key) := by
    intro shown watchers
    induction watchers with
    | nil =>
        exact fun _ => rfl
    | cons watcher watchers inductionHypothesis =>
        intro current
        obtain ⟨watched, config⟩ := watcher
        have own :=
          mark_react key current moment ⟨watched, config, shown, context⟩
        simp only [reactAll, List.filterMap_append, List.countP_append]
        rw [inductionHypothesis, own, Nat.add_assoc]
  exact inTurn _ _ watch

/-! ## Registering and forgetting -/

theorem mark_add
    (watch : Watch)
    (path : String)
    (config : WatchConfig)
    (context : WatchContext) :
    (watch.add path config context).1.mark key =
      watch.mark key +
        (watch.add path config context).2.toList.countP
          (Firing.isOnce key) := by
  unfold add
  simp only
  split
  · exact mark_fire key _ _
  · rfl

theorem spent_remove
    (watch : Watch)
    (path : String)
    (config : WatchConfig) :
    (watch.remove path config).1.spent = watch.spent := by
  unfold remove
  simp only
  split <;> rfl

/-- A path that is torn down takes no marks of other paths with it. -/
theorem mark_clearPath
    {key : TriggerKey}
    (watch : Watch)
    {path : String}
    (other : key.path ≠ Path.normalize path) :
    (watch.clearPath path).mark key = watch.mark key := by
  simp [mark, clearPath, other]

end Watch

namespace WatchDesk

variable {J : Type} (desk : WatchDesk J)

theorem spent_removeAll
    (path : String) :
    (desk.removeAll path).1.watch.spent = desk.watch.spent := by
  unfold removeAll
  split
  · rfl
  · rename_i watch count _ removed
    have spent : (desk.watch.removeAll path).1.spent = desk.watch.spent :=
      rfl
    rw [removed] at spent
    exact spent

theorem spent_remove
    (path : String)
    (config : WatchConfig) :
    (desk.remove path config).1.watch.spent = desk.watch.spent := by
  have spent := desk.watch.spent_remove path config
  unfold remove
  split
  · rename_i watch removed
    rw [removed] at spent
    exact spent
  · rfl

end WatchDesk

namespace TimedWatch

/-! ## Logged firings -/

/-- Some firings are logged, and the mark of a key accounts for them. -/
structure Logs
    (key : TriggerKey)
    (before after : TimedWatch)
    (firings : List LoggedFiring) :
    Prop where
  log :
    after.log = before.log ++ firings
  mark :
    after.watch.mark key =
      before.watch.mark key +
        firings.countP fun entry => entry.firing.isOnce key

namespace Logs

variable {key : TriggerKey}

/-- What leaves the log and the mark alone logs nothing. -/
theorem none
    {before after : TimedWatch}
    (log : after.log = before.log)
    (mark : after.watch.mark key = before.watch.mark key) :
    Logs key before after [] :=
  ⟨by simp [log], mark⟩

theorem trans
    {first second third : TimedWatch}
    {earlier later : List LoggedFiring}
    (logsEarlier : Logs key first second earlier)
    (logsLater : Logs key second third later) :
    Logs key first third (earlier ++ later) where
  log := by
    rw [logsLater.log, logsEarlier.log, List.append_assoc]
  mark := by
    rw [logsLater.mark, logsEarlier.mark, List.countP_append,
      Nat.add_assoc]

/-- A firing that the marks account for is logged. -/
theorem record
    (timed : TimedWatch)
    {watch : Watch}
    {fired : Option Firing}
    (mark :
      watch.mark key =
        timed.watch.mark key + fired.toList.countP (Firing.isOnce key)) :
    Logs key timed ({ timed with watch := watch }.record fired)
      (fired.toList.map (LoggedFiring.mk timed.agenda.now)) := by
  cases fired with
  | none =>
      exact .none rfl mark
  | some firing =>
      refine ⟨rfl, ?_⟩
      rw [List.countP_map]
      exact mark

end Logs

/-- What watchers want done at once is logged, and nothing else. -/
theorem log_foldl_carryOut
    (timed : TimedWatch)
    (reactions : List Watch.Reaction) :
    let after := reactions.foldl carryOut timed
    after.watch = timed.watch ∧
      ∃ firings,
        after.log = timed.log ++ firings ∧
          firings.map LoggedFiring.firing =
            reactions.filterMap Watch.Reaction.fired? := by
  induction reactions generalizing timed with
  | nil =>
      exact ⟨rfl, [], by simp, rfl⟩
  | cons reaction reactions inductionHypothesis =>
      obtain ⟨watch, firings, log, fired⟩ :=
        inductionHypothesis (timed.carryOut reaction)
      cases reaction with
      | fire firing =>
          refine ⟨watch, ⟨timed.agenda.now, firing⟩ :: firings, ?_, ?_⟩
          · rw [List.foldl_cons, log, List.append_cons]
            rfl
          · rw [List.map_cons, fired]
            rfl
      | arm delay firing =>
          exact ⟨watch, firings, log, fired⟩

/-! ## Steps that tear nothing down -/

/--
Run a timer that has been taken off the agenda: it starts to wait, or its
watcher fires.
-/
def runTimer
    (timed : TimedWatch)
    (entry : Ticketed (Timer Firing)) :
    TimedWatch :=
  if entry.job.delay = 0 then
    let answer := timed.watch.fire entry.job.work
    { timed with watch := answer.1 }.record answer.2
  else
    { timed with
      agenda :=
        timed.agenda.arm entry.job.delay
          ⟨entry.ticket, .elapsed entry.job.work⟩ }

/-- A step runs the next timer. -/
theorem step?_eq
    (timed : TimedWatch) :
    timed.step? =
      timed.agenda.next?.map fun next =>
        { timed with agenda := next.2 }.runTimer next.1 := by
  unfold step? runTimer
  split
  · rename_i isNone
    rw [isNone]
    rfl
  · rename_i entry agenda isNext
    rw [isNext, Option.map_some]
    simp only
    split <;> rfl

/-- A step takes the next timer and runs it. -/
theorem exists_takes_of_step?
    {timed next : TimedWatch}
    (isNext : clockwork.step? timed = some next) :
    ∃ entry rest,
      timed.agenda.Takes entry rest ∧
        next = { timed with agenda := rest }.runTimer entry := by
  change timed.step? = some next at isNext
  rw [step?_eq] at isNext
  obtain ⟨⟨entry, rest⟩, isTaken, rfl⟩ := Option.map_eq_some_iff.mp isNext
  exact ⟨entry, rest, Agenda.takes_of_next? isTaken, rfl⟩

/--
A watch is used, or time passes, and the key is not torn down.  Any timer that
is ready may run.
-/
inductive Steps
    (key : TriggerKey)
    (before : TimedWatch) : TimedWatch → Prop where
  | added
      (path : String)
      (config : WatchConfig)
      (context : WatchContext) :
      Steps key before (before.add path config context)
  | notified
      (change : StateChange)
      (context : WatchContext) :
      Steps key before (before.notify change context)
  | unwatched
      (path : String) :
      Steps key before (before.removeAll path).1
  | unwatchedOne
      (path : String)
      (config : WatchConfig) :
      Steps key before (before.remove path config).1
  | clearedOther
      {path : String} :
      key.path ≠ Path.normalize path →
      Steps key before (before.clearPath path)
  | slept
      (time : Nat) :
      Steps key before
        { before with agenda := before.agenda.moveTo time }
  | ran
      {entry : Ticketed (Timer Firing)}
      {rest : Agenda (Timer Firing)} :
      before.agenda.Takes entry rest →
      Steps key before ({ before with agenda := rest }.runTimer entry)

/-- A step logs firings that the mark of the key accounts for. -/
theorem Steps.exists_logs
    {key : TriggerKey}
    {before after : TimedWatch}
    (steps : Steps key before after) :
    ∃ firings, Logs key before after firings := by
  cases steps with
  | added path config context =>
      exact ⟨_, .record before
        (Watch.mark_add key before.watch path config context)⟩
  | notified change context =>
      let moment : Watch.Moment := ⟨before.agenda.now, before.hasClock⟩
      let answer := before.watch.notify moment change context
      obtain ⟨watch, firings, log, fired⟩ :=
        log_foldl_carryOut { before with watch := answer.1 } answer.2
      refine ⟨firings, log, ?_⟩
      have account :=
        Watch.mark_notify key before.watch moment change context
      rw [← fired, List.countP_map] at account
      have same : (before.notify change context).watch = answer.1 :=
        watch
      rw [same]
      exact account
  | unwatched path =>
      exact ⟨[], .none rfl
        (Watch.mark_eq_of_spent (WatchDesk.spent_removeAll _ path) key)⟩
  | unwatchedOne path config =>
      exact ⟨[], .none rfl
        (Watch.mark_eq_of_spent
          (WatchDesk.spent_remove _ path config) key)⟩
  | clearedOther other =>
      exact ⟨[], .none rfl (Watch.mark_clearPath _ other)⟩
  | slept time =>
      exact ⟨[], .none rfl rfl⟩
  | @ran entry rest takes =>
      unfold runTimer
      split
      · have logs :=
          Logs.record { before with agenda := rest }
            (Watch.mark_fire key before.watch entry.job.work)
        exact ⟨_, logs.log, logs.mark⟩
      · exact ⟨[], .none rfl rfl⟩

/-- A watch is used for a while, and a key is not torn down. -/
inductive Runs
    (key : TriggerKey)
    (first : TimedWatch) : TimedWatch → Prop where
  | rest :
      Runs key first first
  | step
      {between last : TimedWatch} :
      Runs key first between →
      Steps key between last →
      Runs key first last

/-- Letting time pass does nothing but run timers and move the clock. -/
theorem Runs.advance
    {key : TriggerKey}
    {first last : TimedWatch}
    (runs : Runs key first last)
    (time : Nat) :
    Runs key first (last.advance time) := by
  unfold TimedWatch.advance
  split
  · refine Clockwork.kept_runTo ?_ ?_ _ runs
    · intro current next reached stepped
      obtain ⟨_, _, takes, rfl⟩ := exists_takes_of_step? stepped
      exact .step reached (.ran takes)
    · intro current moment reached
      exact .step reached (.slept moment)
  · exact runs

/--
As long as a key is not torn down, of its watchers that fire only once at most
one fires, however they have been registered; and none does when the key has
been spent before.
-/
theorem fires_once_of_runs
    {key : TriggerKey}
    {first last : TimedWatch}
    (runs : Runs key first last) :
    ∃ firings,
      last.log = first.log ++ firings ∧
        (firings.countP fun entry => entry.firing.isOnce key) ≤ 1 ∧
        (key ∈ first.watch.spent →
          ∀ entry ∈ firings, entry.firing.isOnce key = false) := by
  have whole : ∃ firings, Logs key first last firings := by
    induction runs with
    | rest =>
        exact ⟨[], .none rfl rfl⟩
    | step _ steps inductionHypothesis =>
        obtain ⟨earlier, logsEarlier⟩ := inductionHypothesis
        obtain ⟨later, logsLater⟩ := steps.exists_logs
        exact ⟨_, logsEarlier.trans logsLater⟩
  obtain ⟨firings, logs⟩ := whole
  have account := logs.mark
  have bounded := last.watch.mark_le_one key
  refine ⟨firings, logs.log, by omega, ?_⟩
  intro spent
  have marked : first.watch.mark key = 1 :=
    if_pos spent
  have none : (firings.countP fun entry => entry.firing.isOnce key) = 0 := by
    omega
  simpa [List.countP_eq_zero] using none

/-- A registration that fires only once, possibly later or at once. -/
def greeting
    (debounce : Option Nat)
    (immediate : Bool) :
    WatchConfig where
  action :=
    .string "greet"
  debounce :=
    debounce
  immediate :=
    immediate
  once :=
    true

/--
A watch on which the same change concerns a watcher that fires at once and one
that fires later, and on which both are removed before a third one comes.
-/
def greeted : TimedWatch :=
  let change : StateChange := ⟨"user", some .null, none⟩
  let timed : TimedWatch := {}
  let waiting := timed.add "/user" (greeting (some 5) false) {}
  let answering := waiting.add "user" (greeting none false) {}
  let shown := answering.notify change {}
  let removed := ((shown.advance 9).removeAll "/user").1
  removed.add "/user" (greeting none true) {}

/-- Of three watchers of one key only the first to fire does so. -/
theorem fires_once_of_runs_greeted :
    Runs ⟨"/user", "greet"⟩ {} greeted ∧
      greeted.log.length = 1 ∧
      ∃ firings,
        greeted.log = [] ++ firings ∧
          (firings.countP fun entry =>
            entry.firing.isOnce ⟨"/user", "greet"⟩) ≤ 1 := by
  have idle : Runs ⟨"/user", "greet"⟩ {} {} :=
    .rest
  have waiting := idle.step (.added "/user" (greeting (some 5) false) {})
  have answering := waiting.step (.added "user" (greeting none false) {})
  have shown := answering.step (.notified ⟨"user", some .null, none⟩ {})
  have removed := (shown.advance 9).step (.unwatched "/user")
  have runs : Runs ⟨"/user", "greet"⟩ {} greeted :=
    removed.step (.added "/user" (greeting none true) {})
  obtain ⟨firings, log, once, _⟩ := fires_once_of_runs runs
  exact ⟨runs, by decide +kernel, firings, log, once⟩

end TimedWatch

end Mockup
