import Mockup.Proofs.TimerTable.Dues
import Mockup.Proofs.TimerTable.Keyed
import Mockup.Proofs.Watch.Operations

namespace Mockup

/-!
# Watchers fire only while they are registered

A watch is *consistent* when every timer on its agenda is listed under its key
and is to fire a watcher that is registered.  Every operation keeps a watch
consistent, however its timers run, and whatever fires is registered then.  A
key that is dismissed has no timer left, so nothing that was pending under it
comes back when the same watcher is registered once more.
-/

/-- The key of the watcher that a timer is to fire. -/
def Timer.key
    (timer : Timer Firing) :
    TriggerKey :=
  timer.work.key

namespace TimedWatch

/-- Timers are listed under their keys, and their watchers are registered. -/
structure IsConsistent
    (timed : TimedWatch) :
    Prop where
  registry :
    timed.watch.IsRegistry
  keyed :
    timed.timers.Keys timed.agenda Timer.key
  registered :
    ∀ entry ∈ timed.agenda.entries,
      timed.watch.IsRegistered entry.job.work
  punctual :
    timed.agenda.IsPunctual

/-- The same watchers stay registered, and only such watchers fire. -/
structure Plays
    (before after : TimedWatch) :
    Prop where
  registered :
    after.watch.registered = before.watch.registered
  log :
    ∃ firings,
      after.log = before.log ++ firings ∧
        ∀ logged ∈ firings, before.watch.IsRegistered logged.firing

namespace Plays

theorem quiet
    {before after : TimedWatch}
    (registered : after.watch.registered = before.watch.registered)
    (log : after.log = before.log) :
    Plays before after :=
  ⟨registered, [], by simp [log], by simp⟩

theorem trans
    {first second third : TimedWatch}
    (earlier : Plays first second)
    (later : Plays second third) :
    Plays first third := by
  obtain ⟨sameEarlier, firingsEarlier, logEarlier, allEarlier⟩ := earlier
  obtain ⟨sameLater, firingsLater, logLater, allLater⟩ := later
  refine ⟨sameLater.trans sameEarlier, firingsEarlier ++ firingsLater,
    by rw [logLater, logEarlier, List.append_assoc], ?_⟩
  intro logged member
  rcases List.mem_append.mp member with isEarlier | isLater
  · exact allEarlier logged isEarlier
  · exact (Watch.isRegistered_congr sameEarlier _).mp
      (allLater logged isLater)

/-- A registered watcher that fires is logged. -/
theorem fire
    (timed : TimedWatch)
    {firing : Firing}
    (registered : timed.watch.IsRegistered firing) :
    Plays timed (timed.fire firing) := by
  have sameRegistered :=
    (Watch.resembles_fire timed.watch firing).registered
  simp only [TimedWatch.fire]
  cases fires : (timed.watch.fire firing).2 with
  | none =>
      exact .quiet sameRegistered rfl
  | some fired =>
      obtain rfl : fired = firing :=
        Watch.eq_of_fire (Prod.ext rfl fires)
      refine ⟨sameRegistered, [⟨timed.agenda.now, fired⟩], rfl, ?_⟩
      intro logged member
      rw [List.mem_singleton.mp member]
      exact registered

/-- What fires is registered afterwards as before. -/
theorem exists_log
    {before after : TimedWatch}
    (plays : Plays before after) :
    ∃ firings,
      after.log = before.log ++ firings ∧
        ∀ logged ∈ firings, after.watch.IsRegistered logged.firing := by
  obtain ⟨same, firings, log, registered⟩ := plays
  exact ⟨firings, log, fun logged member =>
    (Watch.isRegistered_congr same _).mpr (registered logged member)⟩

end Plays

namespace IsConsistent

variable {timed : TimedWatch}

/-- A fresh watch is consistent. -/
theorem fresh
    (functions : Registry)
    (hasClock : Bool) :
    IsConsistent (.fresh functions hasClock) where
  registry :=
    ⟨List.nodup_nil, fun _ _ member => nomatch member⟩
  keyed :=
    .fresh
  registered _ member :=
    nomatch member
  punctual _ member :=
    nomatch member

/-- The log, and what watchers remember, do not matter. -/
theorem congr
    {after : TimedWatch}
    (consistent : timed.IsConsistent)
    (registered : after.watch.registered = timed.watch.registered)
    (timers : after.timers = timed.timers)
    (agenda : after.agenda = timed.agenda) :
    after.IsConsistent where
  registry :=
    consistent.registry.congr registered
  keyed :=
    timers ▸ agenda ▸ consistent.keyed
  registered entry member :=
    (Watch.isRegistered_congr registered _).mpr
      (consistent.registered entry (agenda ▸ member))
  punctual :=
    agenda ▸ consistent.punctual

/-! ## Answering -/

/-- A registered watcher may have a timer. -/
theorem carryOut
    (consistent : timed.IsConsistent)
    (reaction : Watch.Reaction)
    (registered : timed.watch.IsRegistered reaction.firing) :
    (timed.carryOut reaction).IsConsistent := by
  cases reaction with
  | fire firing =>
      exact consistent.congr rfl rfl rfl
  | arm delay firing =>
      have agenda :=
        consistent.keyed.agenda_schedule firing.key (.fresh delay firing)
      have own : Timer.key (.fresh delay firing) = firing.key :=
        rfl
      refine ⟨consistent.registry, consistent.keyed.schedule own, ?_, ?_⟩
      · intro entry member
        rcases TimerTable.mem_entries_schedule member with isOld | rfl
        · exact consistent.registered entry isOld
        · exact registered
      · change Agenda.IsPunctual (TimerTable.schedule _ _ _ _).2
        rw [agenda]
        exact (consistent.punctual.filter _).spawn _

/-- A registered watcher that answers leaves the watch consistent. -/
theorem answer
    (consistent : timed.IsConsistent)
    (firing : Firing)
    (registered : timed.watch.IsRegistered firing) :
    (timed.answer firing).IsConsistent ∧
      Plays timed (timed.answer firing) := by
  have same :=
    (Watch.resembles_react timed.watch timed.moment firing).registered
  have rewatched :
      ({ timed with
          watch :=
            (timed.watch.react timed.moment firing).1 } :
        TimedWatch).IsConsistent :=
    consistent.congr same rfl rfl
  simp only [TimedWatch.answer]
  cases wanted : (timed.watch.react timed.moment firing).2 with
  | none =>
      exact ⟨rewatched, .quiet same rfl⟩
  | some reaction =>
      have own : reaction.firing = firing :=
        Watch.firing_of_mem_react wanted
      have stillRegistered :=
        (Watch.isRegistered_congr same reaction.firing).mpr
          (own ▸ registered)
      refine ⟨rewatched.carryOut reaction stillRegistered, ?_⟩
      cases reaction with
      | fire fired =>
          obtain rfl : fired = firing :=
            own
          refine ⟨same, [⟨timed.agenda.now, fired⟩], rfl, ?_⟩
          intro logged member
          rw [List.mem_singleton.mp member]
          exact registered
      | arm delay waiting =>
          exact .quiet same rfl

/-- Registered watchers that answer in turn leave the watch consistent. -/
theorem answerAll
    (consistent : timed.IsConsistent)
    (change : StateChange)
    (context : WatchContext)
    {watchers : List (String × WatchConfig)}
    (registered :
      ∀ watcher ∈ watchers, watcher.2 ∈ timed.watch.watchers watcher.1) :
    let after :=
      watchers.foldl
        (fun current watcher =>
          current.answer ⟨watcher.1, watcher.2, change, context⟩)
        timed
    after.IsConsistent ∧ Plays timed after := by
  induction watchers generalizing timed with
  | nil =>
      exact ⟨consistent, .quiet rfl rfl⟩
  | cons watcher watchers inductionHypothesis =>
      obtain ⟨next, plays⟩ :=
        consistent.answer ⟨watcher.1, watcher.2, change, context⟩
          (registered watcher List.mem_cons_self)
      obtain ⟨last, playsLater⟩ :=
        inductionHypothesis next fun other member =>
          Watch.watchers_congr plays.registered other.1 ▸
            registered other (List.mem_cons_of_mem _ member)
      exact ⟨last, plays.trans playsLater⟩

theorem notify
    (consistent : timed.IsConsistent)
    (change : StateChange)
    (context : WatchContext) :
    (timed.notify change context).IsConsistent ∧
      Plays timed (timed.notify change context) := by
  rw [notify_eq_foldl]
  exact consistent.answerAll _ context fun _ =>
    Watch.mem_watchers_of_mem_concerned consistent.registry.distinct

/-! ## Registering -/

/-- What is pending stays registered when another watcher is. -/
theorem register
    (consistent : timed.IsConsistent)
    (path : String)
    {config : WatchConfig}
    (sound : config.action.Sound) :
    ({ timed with watch := timed.watch.register path config } :
      TimedWatch).IsConsistent := by
  refine ⟨consistent.registry.register path sound, consistent.keyed, ?_,
    consistent.punctual⟩
  intro entry member
  have registered := consistent.registered entry member
  rw [Watch.IsRegistered, Watch.watchers_register]
  split
  · exact List.mem_append_left _ registered
  · exact registered

/-- What fires leaves the watch consistent. -/
theorem fire
    (consistent : timed.IsConsistent)
    (firing : Firing) :
    (timed.fire firing).IsConsistent := by
  simp only [TimedWatch.fire]
  cases (timed.watch.fire firing).2 <;>
    exact consistent.congr (Watch.resembles_fire _ _).registered rfl rfl

theorem add
    (consistent : timed.IsConsistent)
    (path : String)
    {config : WatchConfig}
    (sound : config.action.Sound)
    (context : WatchContext) :
    (timed.add path config context).IsConsistent := by
  have added := consistent.register (Path.normalize path) sound
  rw [add_eq]
  split
  · exact added.fire _
  · exact added

/-! ## Dismissing -/

/--
When some watchers go and the timers of their keys are cancelled, the watch
stays consistent and those keys have no timer.
-/
theorem dismiss
    (consistent : timed.IsConsistent)
    {watch : Watch}
    (registry : watch.IsRegistry)
    (chosen : TriggerKey → Bool)
    (kept :
      ∀ firing, timed.watch.IsRegistered firing →
        chosen firing.key = false → watch.IsRegistered firing) :
    let desk :=
      { timed.toWatchDesk with watch := watch }.cancelWhere chosen
    ({ timed with toWatchDesk := desk } : TimedWatch).IsConsistent ∧
      ∀ entry ∈ desk.agenda.entries, chosen entry.job.key = false := by
  have agenda := consistent.keyed.agenda_cancelWhere chosen
  have left :
      ∀ entry ∈ (timed.timers.cancelWhere timed.agenda
          chosen).2.1.entries,
        entry ∈ timed.agenda.entries ∧ chosen entry.job.key = false := by
    intro entry member
    rw [agenda, TimerTable.without, Agenda.entries_filter,
      List.mem_filter] at member
    simpa using member
  refine ⟨⟨registry, consistent.keyed.cancelWhere chosen, ?_, ?_⟩,
    fun entry member => (left entry member).2⟩
  · intro entry member
    obtain ⟨wasThere, unchosen⟩ := left entry member
    exact kept _ (consistent.registered entry wasThere) unchosen
  · change Agenda.IsPunctual (TimerTable.cancelWhere _ _ _).2.1
    rw [agenda]
    exact consistent.punctual.filter _

/-- A path whose watchers are gone takes their timers with it. -/
theorem dismissPath
    (consistent : timed.IsConsistent)
    (path : String)
    {watch : Watch}
    (distinct : (Entries.names watch.registered).Nodup)
    (watchers :
      ∀ other,
        watch.watchers other =
          if other = path then [] else timed.watch.watchers other) :
    let desk :=
      { timed.toWatchDesk with watch := watch }.cancelWhere fun key =>
        key.path = path
    ({ timed with toWatchDesk := desk } : TimedWatch).IsConsistent ∧
      ∀ entry ∈ desk.agenda.entries, entry.job.key.path ≠ path := by
  have registry : watch.IsRegistry :=
    consistent.registry.of_subset distinct fun other => by
      rw [watchers]
      split <;> simp
  have dismissed :=
    consistent.dismiss registry (fun key => key.path = path)
      fun firing registered unchosen => by
        have other : firing.watched ≠ path :=
          of_decide_eq_false unchosen
        rw [Watch.IsRegistered, watchers, if_neg other]
        exact registered
  exact ⟨dismissed.1, fun entry member => by
    simpa using dismissed.2 entry member⟩

theorem clearPath
    (consistent : timed.IsConsistent)
    (path : String) :
    (timed.clearPath path).IsConsistent ∧
      ∀ entry ∈ (timed.clearPath path).agenda.entries,
        entry.job.key.path ≠ Path.normalize path :=
  consistent.dismissPath (Path.normalize path)
    (Entries.nodup_names_erase consistent.registry.distinct _)
    (Watch.watchers_clearPath consistent.registry.distinct path)

theorem removeAll
    (consistent : timed.IsConsistent)
    (path : String) :
    (timed.removeAll path).1.IsConsistent ∧
      ∀ entry ∈ (timed.removeAll path).1.agenda.entries,
        entry.job.key.path ≠ Path.normalize path := by
  have distinct := consistent.registry.distinct
  unfold TimedWatch.removeAll WatchDesk.removeAll Watch.removeAll
  simp only
  split
  · rename_i none
    have empty : timed.watch.watchers (Path.normalize path) = [] :=
      List.eq_nil_of_length_eq_zero (congrArg Prod.snd none)
    refine ⟨consistent, ?_⟩
    intro entry member isPath
    have registered := consistent.registered entry member
    rw [Watch.IsRegistered, show entry.job.work.watched = _ from isPath,
      empty] at registered
    cases registered
  · rename_i watch count _ removed
    cases removed
    exact consistent.dismissPath (Path.normalize path)
      (Watch.nodup_names_setPath distinct _ _)
      (Watch.watchers_setPath distinct _ _)

theorem clear
    (consistent : timed.IsConsistent) :
    timed.clear.IsConsistent ∧ timed.clear.agenda.entries = [] := by
  have nobody : timed.watch.clear.IsRegistry :=
    (IsConsistent.fresh timed.watch.functions true).registry
  have dismissed :=
    consistent.dismiss nobody (fun _ => true) fun _ _ unchosen =>
      nomatch unchosen
  refine ⟨dismissed.1, List.eq_nil_iff_forall_not_mem.mpr ?_⟩
  intro entry member
  cases dismissed.2 entry member

/-- A watcher that is removed takes the timer of its key with it. -/
theorem remove
    (consistent : timed.IsConsistent)
    (path : String)
    (config : WatchConfig) :
    (timed.remove path config).1.IsConsistent ∧
      ((timed.remove path config).2 = true →
        ∀ entry ∈ (timed.remove path config).1.agenda.entries,
          entry.job.key ≠
            .ofConfig (Path.normalize path) config) := by
  have distinct := consistent.registry.distinct
  unfold TimedWatch.remove WatchDesk.remove Watch.remove
  simp only
  cases removes :
      Watch.removeFirst config
        ((Entries.get? timed.watch.registered
          (Path.normalize path)).getD []) with
  | none =>
      exact ⟨consistent, fun isFound => nomatch isFound⟩
  | some rest =>
      have watchers :=
        Watch.watchers_setPath distinct (Path.normalize path) rest
      obtain ⟨earlier, first, later, shape, rfl, alike⟩ :=
        Watch.exists_of_removeFirst removes
      change timed.watch.watchers _ = _ at shape
      have sound : first.action.Sound :=
        consistent.registry.sound (Path.normalize path) first
          (by rw [shape]; simp)
      have sameKind := WatchConfig.actionKind_eq_of_same sound alike
      have registry :=
        consistent.registry.of_subset
          (Watch.nodup_names_setPath distinct (Path.normalize path)
            (earlier ++ later))
          fun other one member => by
            rw [watchers] at member
            split at member
            · rename_i isPath
              rw [isPath, shape]
              grind
            · exact member
      have dismissed :=
        consistent.dismiss registry
          (fun key => key = .ofConfig (Path.normalize path) config)
          fun firing registered unchosen => by
            rw [Watch.IsRegistered, watchers]
            split
            · rename_i isPath
              rw [Watch.IsRegistered, isPath, shape] at registered
              -- What goes is of the dismissed kind, so this stays.
              have other : firing.config ≠ first := by
                intro isFirst
                simp [Firing.key, TriggerKey.ofConfig, isPath, isFirst,
                  sameKind] at unchosen
              grind
            · exact registered
      exact ⟨dismissed.1, fun _ entry member => by
        simpa using dismissed.2 entry member⟩

/-! ## Running -/

/-- Running a timer leaves the others in order. -/
theorem runTimer
    (consistent : timed.IsConsistent)
    {entry : Ticketed (Timer Firing)}
    {rest : Agenda (Timer Firing)}
    (takes : timed.agenda.Takes entry rest) :
    let after := { timed with agenda := rest }.runTimer entry
    after.IsConsistent ∧ Plays timed after := by
  have orderly := consistent.keyed.orderly.taken takes
  have isEntry : entry ∈ timed.agenda.entries :=
    takes.perm.mem_iff.mpr List.mem_cons_self
  have others :
      ∀ other ∈ rest.entries, other ∈ timed.agenda.entries :=
    fun other member =>
      takes.perm.mem_iff.mpr (List.mem_cons_of_mem _ member)
  have nextTicket : timed.agenda.nextTicket ≤ rest.nextTicket :=
    Nat.le_of_eq takes.nextTicket_eq.symm
  have taken : ({ timed with agenda := rest } : TimedWatch).IsConsistent :=
    ⟨consistent.registry,
      consistent.keyed.of_entries orderly.1 nextTicket
        fun other member => ⟨other.job, others other member, rfl⟩,
      fun other member => consistent.registered other (others other member),
      consistent.punctual.taken takes⟩
  have registered := consistent.registered entry isEntry
  unfold TimedWatch.runTimer
  split
  · have plays : Plays timed { timed with agenda := rest } :=
      .quiet rfl rfl
    exact ⟨taken.fire entry.job.work, plays.trans (.fire _ registered)⟩
  · let waiting : Ticketed (Timer Firing) :=
      ⟨entry.ticket, .elapsed entry.job.work⟩
    have perm := Agenda.entries_arm rest entry.job.delay waiting
    have armedOrderly :
        (rest.arm entry.job.delay waiting).IsOrderly :=
      (Agenda.isOrderly_iff_of_perm_cons perm rfl).mpr orderly
    refine ⟨⟨consistent.registry, ?_, ?_, ?_⟩, .quiet rfl rfl⟩
    · refine consistent.keyed.of_entries armedOrderly nextTicket ?_
      intro other member
      rcases List.mem_cons.mp (perm.mem_iff.mp member) with rfl | isRest
      · exact ⟨entry.job, isEntry, rfl⟩
      · exact ⟨other.job, others other isRest, rfl⟩
    · intro other member
      rcases List.mem_cons.mp (perm.mem_iff.mp member) with rfl | isRest
      · exact registered
      · exact consistent.registered other (others other isRest)
    · exact taken.punctual.arm _ _ _

theorem moveTo
    (consistent : timed.IsConsistent)
    (time : Nat) :
    ({ timed with agenda := timed.agenda.moveTo time } :
      TimedWatch).IsConsistent := by
  have perm := timed.agenda.entries_moveTo time
  refine ⟨consistent.registry, ?_, ?_, consistent.punctual.moveTo time⟩
  · exact consistent.keyed.of_entries
      (consistent.keyed.orderly.of_perm perm rfl) (Nat.le_refl _)
      fun entry member => ⟨entry.job, perm.mem_iff.mp member, rfl⟩
  · exact fun entry member =>
      consistent.registered entry (perm.mem_iff.mp member)

/-- As time passes, timers run in some order. -/
theorem advance
    (consistent : timed.IsConsistent)
    (time : Nat) :
    (timed.advance time).IsConsistent ∧
      Plays timed (timed.advance time) := by
  let Kept : TimedWatch → Prop :=
    fun current => current.IsConsistent ∧ Plays timed current
  have atFirst : Kept timed :=
    ⟨consistent, .quiet rfl rfl⟩
  have stepped :
      ∀ current next,
        Kept current → clockwork.step? current = some next → Kept next := by
    rintro current next ⟨isConsistent, plays⟩ isNext
    obtain ⟨_, _, takes, rfl⟩ := exists_takes_of_step? isNext
    have ran := isConsistent.runTimer takes
    exact ⟨ran.1, plays.trans ran.2⟩
  have moved :
      ∀ current moment,
        Kept current → Kept (clockwork.moveTo moment current) := by
    rintro current moment ⟨isConsistent, plays⟩
    exact ⟨isConsistent.moveTo moment, plays.trans (.quiet rfl rfl)⟩
  unfold TimedWatch.advance
  split
  · exact Clockwork.kept_runTo stepped moved _ atFirst
  · exact atFirst

end IsConsistent

/-- A watcher that fires when it is registered is registered. -/
theorem exists_log_add
    (timed : TimedWatch)
    (path : String)
    (config : WatchConfig)
    (context : WatchContext) :
    let after := timed.add path config context
    ∃ firings,
      after.log = timed.log ++ firings ∧
        ∀ logged ∈ firings, after.watch.IsRegistered logged.firing := by
  let watched := Path.normalize path
  let added : TimedWatch :=
    { timed with watch := timed.watch.register watched config }
  let firing : Firing :=
    ⟨watched, config, ⟨watched, none, none⟩, context⟩
  have isRegistered : added.watch.IsRegistered firing := by
    simp [firing, added, Watch.IsRegistered, Watch.watchers_register]
  rw [add_eq]
  split
  · exact (Plays.fire added isRegistered).exists_log
  · exact ⟨[], (List.append_nil _).symm, by simp⟩

/-! ## Every reachable watch -/

/--
An operation is done, the clock moves, or some timer that is ready runs, be it
the next one or not.
-/
inductive Proceeds
    (before : TimedWatch) : TimedWatch → Prop where
  | performed
      (operation : WatchOperation) :
      operation.IsSound →
      Proceeds before (before.perform operation)
  | slept
      (time : Nat) :
      Proceeds before
        { before with agenda := before.agenda.moveTo time }
  | ran
      {entry : Ticketed (Timer Firing)}
      {rest : Agenda (Timer Firing)} :
      before.agenda.Takes entry rest →
      Proceeds before ({ before with agenda := rest }.runTimer entry)

/-- A fresh watch has been used for a while. -/
inductive Reached
    (hasClock : Bool) : TimedWatch → Prop where
  | fresh
      {functions : Registry} :
      Reached hasClock (.fresh functions hasClock)
  | step
      {before after : TimedWatch} :
      Reached hasClock before →
      Proceeds before after →
      Reached hasClock after

/-- Whether an operation removes a watcher of a key, or clears the key. -/
def dismisses
    (timed : TimedWatch)
    (key : TriggerKey) :
    WatchOperation → Bool
  | .remove path config =>
      (timed.remove path config).2 &&
        decide (key = .ofConfig (Path.normalize path) config)
  | .removeAll path =>
      decide (key.path = Path.normalize path)
  | .clearPath path =>
      decide (key.path = Path.normalize path)
  | .clear =>
      true
  | _ =>
      false

/-- Every operation keeps a watch consistent. -/
theorem IsConsistent.perform
    {timed : TimedWatch}
    (consistent : timed.IsConsistent)
    {operation : WatchOperation}
    (sound : operation.IsSound) :
    (timed.perform operation).IsConsistent := by
  cases operation with
  | add path config context =>
      exact consistent.add path sound context
  | remove path config =>
      exact (consistent.remove path config).1
  | removeAll path =>
      exact (consistent.removeAll path).1
  | notify change context =>
      exact (consistent.notify change context).1
  | clearPath path =>
      exact (consistent.clearPath path).1
  | clear =>
      exact consistent.clear.1
  | advance time =>
      exact (consistent.advance time).1

/-- A dismissed key has no timer left. -/
theorem IsConsistent.dismissed
    {timed : TimedWatch}
    (consistent : timed.IsConsistent)
    (operation : WatchOperation) :
    ∀ entry ∈ (timed.perform operation).agenda.entries,
      timed.dismisses entry.job.key operation = false := by
  intro entry member
  cases operation with
  | remove path config =>
      have others := (consistent.remove path config).2
      cases isFound : (timed.remove path config).2 with
      | false =>
          simp [dismisses, isFound]
      | true =>
          simp [dismisses, isFound, others isFound entry member]
  | removeAll path =>
      exact decide_eq_false ((consistent.removeAll path).2 entry member)
  | clearPath path =>
      exact decide_eq_false ((consistent.clearPath path).2 entry member)
  | clear =>
      change entry ∈ timed.clear.agenda.entries at member
      rw [consistent.clear.2] at member
      cases member
  | add _ _ _ | notify _ _ | advance _ =>
      rfl

/-- Whatever happens to a consistent watch leaves it consistent. -/
theorem IsConsistent.proceed
    {before after : TimedWatch}
    (consistent : before.IsConsistent)
    (proceeds : Proceeds before after) :
    after.IsConsistent := by
  cases proceeds with
  | performed _ sound =>
      exact consistent.perform sound
  | slept time =>
      exact consistent.moveTo time
  | ran takes =>
      exact (consistent.runTimer takes).1

/-- Whatever happens, only registered watchers fire. -/
theorem Proceeds.exists_log
    {before after : TimedWatch}
    (consistent : before.IsConsistent)
    (proceeds : Proceeds before after) :
    ∃ firings,
      after.log = before.log ++ firings ∧
        ∀ logged ∈ firings, after.watch.IsRegistered logged.firing := by
  have silent :
      ∀ last : TimedWatch, last.log = before.log →
        ∃ firings,
          last.log = before.log ++ firings ∧
            ∀ logged ∈ firings, last.watch.IsRegistered logged.firing :=
    fun _ same => ⟨[], by simp [same], by simp⟩
  cases proceeds with
  | performed operation _ =>
      cases operation with
      | add path config context =>
          exact exists_log_add before path config context
      | notify change context =>
          exact (consistent.notify change context).2.exists_log
      | advance time =>
          exact (consistent.advance time).2.exists_log
      | remove _ _ | removeAll _ | clearPath _ | clear =>
          exact silent _ rfl
  | slept time =>
      exact silent _ rfl
  | ran takes =>
      exact (consistent.runTimer takes).2.exists_log

theorem Reached.isConsistent
    {hasClock : Bool}
    {timed : TimedWatch}
    (reached : Reached hasClock timed) :
    timed.IsConsistent := by
  induction reached with
  | fresh =>
      exact .fresh _ hasClock
  | step _ proceeds inductionHypothesis =>
      exact inductionHypothesis.proceed proceeds

/--
No watcher fires after it is gone.  In every state that a watch can reach, the
watcher of every pending timer is registered under the timer's path; no two
timers have one key; what is removed or cleared leaves no timer of its key;
and whatever happens next, everything that fires is registered then.
-/
theorem fires_only_registered
    {hasClock : Bool}
    {timed : TimedWatch}
    (reached : Reached hasClock timed) :
    (∀ entry ∈ timed.agenda.entries,
        entry.job.work.config ∈
          timed.watch.watchers entry.job.work.watched) ∧
      (timed.agenda.entries.map fun entry => entry.job.key).Nodup ∧
      (∀ operation,
        ∀ entry ∈ (timed.perform operation).agenda.entries,
          timed.dismisses entry.job.key operation = false) ∧
      ∀ after, Proceeds timed after →
        ∃ firings,
          after.log = timed.log ++ firings ∧
            ∀ logged ∈ firings,
              logged.firing.config ∈
                after.watch.watchers logged.firing.watched :=
  have consistent := reached.isConsistent
  ⟨consistent.registered, consistent.keyed.nodup_keys,
    consistent.dismissed, fun _ => Proceeds.exists_log consistent⟩

/--
A watch with two watchers of one key, of which the one that would have fired
is removed before the other one begins to wait.
-/
def reminded : TimedWatch :=
  let change : StateChange := ⟨"user", some .null, none⟩
  let timed : TimedWatch := {}
  let early := timed.add "/user" (greeting (some 5) false) {}
  let late := early.add "user" (greeting (some 7) false) {}
  let waiting := (late.notify change {}).advance 3
  let removed := (waiting.remove "/user" (greeting (some 7) false)).1
  (removed.notify change {}).advance 4

/-- The watcher that is left has a timer, and the other one never fired. -/
theorem fires_only_registered_reminded :
    Reached true reminded ∧
      reminded.log.length = 0 ∧
      reminded.agenda.entries.length = 1 ∧
      ∀ entry ∈ reminded.agenda.entries,
        entry.job.work.config ∈
          reminded.watch.watchers entry.job.work.watched := by
  have sound :
      ∀ debounce, (greeting debounce false).action.Sound :=
    fun _ => Value.Throughout.string_iff.mpr trivial
  have idle : Reached true {} :=
    .fresh
  have early := idle.step
    (.performed (.add "/user" (greeting (some 5) false) {}) (sound _))
  have late := early.step
    (.performed (.add "user" (greeting (some 7) false) {}) (sound _))
  have shown := late.step
    (.performed (.notify ⟨"user", some .null, none⟩ {}) trivial)
  have waiting := shown.step (.performed (.advance 3) trivial)
  have removed := waiting.step
    (.performed (.remove "/user" (greeting (some 7) false)) trivial)
  have shownAgain := removed.step
    (.performed (.notify ⟨"user", some .null, none⟩ {}) trivial)
  have reached : Reached true reminded :=
    shownAgain.step (.performed (.advance 4) trivial)
  exact ⟨reached, by decide +kernel, by decide +kernel,
    (fires_only_registered reached).1⟩

end TimedWatch

end Mockup
