import Mockup.Proofs.Entries
import Mockup.Proofs.Value.Same
import Mockup.Proofs.Watch.Once

namespace Mockup

/-!
# What is done with a watch

The operations that a watch on a clock offers, and what each of them does to
the registered watchers of a path.  Showing a change is told once more, one
watcher after the other, each of which has its answer carried out before the
next one answers.
-/

/-- Something that is done with a watch on a clock. -/
inductive WatchOperation where
  | add (path : String) (config : WatchConfig) (context : WatchContext)
  | remove (path : String) (config : WatchConfig)
  | removeAll (path : String)
  | notify (change : StateChange) (context : WatchContext)
  | clearPath (path : String)
  | clear
  | advance (time : Nat)
  deriving Repr

/-- A watcher that is added can stand in memory. -/
def WatchOperation.IsSound : WatchOperation → Prop
  | .add _ config _ =>
      config.action.Sound
  | _ =>
      True

namespace TimedWatch

/-- Do one thing with a watch. -/
def perform
    (timed : TimedWatch) :
    WatchOperation → TimedWatch
  | .add path config context =>
      timed.add path config context
  | .remove path config =>
      (timed.remove path config).1
  | .removeAll path =>
      (timed.removeAll path).1
  | .notify change context =>
      timed.notify change context
  | .clearPath path =>
      timed.clearPath path
  | .clear =>
      timed.clear
  | .advance time =>
      timed.advance time

/-- Do one thing after the other with a watch. -/
def performAll
    (timed : TimedWatch)
    (operations : List WatchOperation) :
    TimedWatch :=
  operations.foldl perform timed

end TimedWatch

namespace Watch

/-! ## The watchers of a path -/

/-- The watchers of a path, in order of registration. -/
def watchers
    (watch : Watch)
    (path : String) :
    List WatchConfig :=
  (Entries.get? watch.registered path).getD []

/-- Whether a watcher that fires, or is to fire, is registered. -/
def IsRegistered
    (watch : Watch)
    (firing : Firing) :
    Prop :=
  firing.config ∈ watch.watchers firing.watched

/--
The paths of the registered watchers are distinct, and the watchers can stand
in memory.
-/
structure IsRegistry
    (watch : Watch) :
    Prop where
  distinct :
    (Entries.names watch.registered).Nodup
  sound :
    ∀ path, ∀ config ∈ watch.watchers path, config.action.Sound

theorem watchers_congr
    {before after : Watch}
    (same : after.registered = before.registered)
    (path : String) :
    after.watchers path = before.watchers path := by
  rw [watchers, watchers, same]

theorem IsRegistry.congr
    {before after : Watch}
    (registry : before.IsRegistry)
    (same : after.registered = before.registered) :
    after.IsRegistry where
  distinct :=
    same ▸ registry.distinct
  sound path :=
    watchers_congr same path ▸ registry.sound path

theorem isRegistered_congr
    {before after : Watch}
    (same : after.registered = before.registered)
    (firing : Firing) :
    after.IsRegistered firing ↔ before.IsRegistered firing := by
  rw [IsRegistered, IsRegistered, watchers_congr same]

/-- An entry of the register lists the watchers of its path. -/
theorem watchers_of_mem
    {watch : Watch}
    (distinct : (Entries.names watch.registered).Nodup)
    {entry : String × List WatchConfig}
    (member : entry ∈ watch.registered) :
    watch.watchers entry.1 = entry.2 := by
  rw [watchers, Entries.get?_eq_some_of_mem distinct member]
  rfl

/-- Watchers that a change concerns are registered. -/
theorem mem_watchers_of_mem_concerned
    {watch : Watch}
    (distinct : (Entries.names watch.registered).Nodup)
    {path : String}
    {watcher : String × WatchConfig}
    (concerned : watcher ∈ watch.concerned path) :
    watcher.2 ∈ watch.watchers watcher.1 := by
  obtain ⟨entry, isEntry, ofEntry⟩ := List.mem_flatMap.mp concerned
  obtain ⟨config, isConfig, rfl⟩ := List.mem_map.mp ofEntry
  have registered : entry ∈ watch.registered := by
    rcases List.mem_append.mp isEntry with isExact | isPattern
    · exact (List.mem_filter.mp isExact).1
    · exact (List.mem_filter.mp isPattern).1
  exact watchers_of_mem distinct registered ▸ isConfig

/-- The watchers of a kind. -/
def ofKind
    (kind : String)
    (configs : List WatchConfig) :
    List WatchConfig :=
  configs.filter fun config => config.actionKind = kind

/-- Whether a change at a path concerns the watchers of a watched path. -/
def concerns
    (watched path : String) :
    Bool :=
  decide (watched = path) ||
    (isPattern watched &&
      matchesSegments (Path.segments watched) (Path.segments path))

/-- The watchers of one path that a change concerns are in their order. -/
theorem filter_path_concerned
    {watch : Watch}
    (distinct : (Entries.names watch.registered).Nodup)
    (path watched : String) :
    (watch.concerned path).filter (fun watcher => watcher.1 = watched) =
      if concerns watched path then
        (watch.watchers watched).map (Prod.mk watched)
      else
        [] := by
  let own : String × List WatchConfig → List (String × WatchConfig) :=
    fun entry =>
      (withPath entry).filter fun watcher => watcher.1 = watched
  have others : ∀ entry, entry.1 ≠ watched → own entry = [] := by
    intro entry other
    simp [own, withPath, other]
  have listed : ∀ configs,
      own (watched, configs) = configs.map (Prod.mk watched) := by
    intro configs
    simp [own, withPath]
  have among : ∀ chosen : String → Bool,
      (watch.registered.filter fun entry => chosen entry.1).flatMap own =
        if chosen watched then
          (watch.watchers watched).map (Prod.mk watched)
        else
          [] := by
    intro chosen
    have distinctChosen :
        (Entries.names
          (watch.registered.filter fun entry => chosen entry.1)).Nodup :=
      (List.filter_sublist.map Prod.fst).nodup distinct
    rw [Entries.flatMap_eq_of_name distinctChosen others,
      Entries.get?_filter, watchers]
    cases chosen watched with
    | false =>
        rfl
    | true =>
        cases Entries.get? watch.registered watched with
        | none =>
            rfl
        | some configs =>
            exact listed configs
  have isExact := among fun name => name = path
  have isPatternFor := among fun name =>
    name ≠ path && isPattern name &&
      matchesSegments (Path.segments name) (Path.segments path)
  simp only [concerned, List.flatMap_append, List.filter_append,
    List.filter_flatMap]
  refine (congrArg₂ List.append isExact isPatternFor).trans ?_
  by_cases same : watched = path <;> simp [same, concerns]

/-- The watchers of one key that a change concerns are in their order. -/
theorem filter_concerned
    {watch : Watch}
    (distinct : (Entries.names watch.registered).Nodup)
    (path : String)
    (key : TriggerKey) :
    (watch.concerned path).filter
        (fun watcher => TriggerKey.ofConfig watcher.1 watcher.2 = key) =
      if concerns key.path path then
        (ofKind key.kind (watch.watchers key.path)).map (Prod.mk key.path)
      else
        [] := by
  have byKind :
      (watch.concerned path).filter
          (fun watcher => TriggerKey.ofConfig watcher.1 watcher.2 = key) =
        ((watch.concerned path).filter
          fun watcher => watcher.1 = key.path).filter
            fun watcher => watcher.2.actionKind = key.kind := by
    obtain ⟨watched, kind⟩ := key
    simp [List.filter_filter, TriggerKey.ofConfig, Bool.and_comm]
  rw [byKind, filter_path_concerned distinct]
  split
  · simp [ofKind, List.filter_map, Function.comp_def]
  · rfl

/-! ## Registering and removing -/

section

variable
  {watch : Watch}
  (distinct : (Entries.names watch.registered).Nodup)

/-- Put a watcher behind the others of its path. -/
def register
    (watch : Watch)
    (path : String)
    (config : WatchConfig) :
    Watch :=
  { watch with
    registered :=
      Entries.insert watch.registered path
        (watch.watchers path ++ [config]) }

theorem watchers_register
    (watch : Watch)
    (path : String)
    (config : WatchConfig)
    (other : String) :
    (watch.register path config).watchers other =
      if other = path then
        watch.watchers other ++ [config]
      else
        watch.watchers other := by
  by_cases isPath : other = path
  · simp [register, watchers, isPath]
  · simp [register, watchers, isPath,
      Entries.get?_insert_other _ _ isPath]

/-- A watcher that is added is registered, and may fire at once. -/
theorem add_eq
    (watch : Watch)
    (path : String)
    (config : WatchConfig)
    (context : WatchContext) :
    let watched := Path.normalize path
    watch.add path config context =
      if config.immediate then
        (watch.register watched config).fire
          ⟨watched, config, ⟨watched, none, none⟩, context⟩
      else
        (watch.register watched config, none) :=
  rfl

theorem IsRegistry.register
    (registry : watch.IsRegistry)
    (path : String)
    {config : WatchConfig}
    (sound : config.action.Sound) :
    (watch.register path config).IsRegistry where
  distinct :=
    Entries.nodup_names_insert registry.distinct _ _
  sound other := by
    rw [watchers_register]
    intro one member
    split at member
    · rcases List.mem_append.mp member with isOld | isNew
      · exact registry.sound other one isOld
      · exact List.mem_singleton.mp isNew ▸ sound
    · exact registry.sound other one member

include distinct

theorem watchers_setPath
    (path : String)
    (configs : List WatchConfig)
    (other : String) :
    (watch.setPath path configs).watchers other =
      if other = path then configs else watch.watchers other := by
  unfold setPath watchers
  by_cases isPath : other = path
  · subst isPath
    split
    · rename_i isEmpty
      simp [Entries.get?_erase_same distinct,
        List.isEmpty_iff.mp isEmpty]
    · simp
  · split
    · simp [Entries.get?_erase_other _ isPath]
    · simp [Entries.get?_insert_other _ _ isPath]

theorem nodup_names_setPath
    (path : String)
    (configs : List WatchConfig) :
    (Entries.names (watch.setPath path configs).registered).Nodup := by
  unfold setPath
  split
  · exact Entries.nodup_names_erase distinct path
  · exact Entries.nodup_names_insert distinct path configs

theorem watchers_clearPath
    (path other : String) :
    (watch.clearPath path).watchers other =
      if other = Path.normalize path then [] else watch.watchers other := by
  unfold clearPath watchers
  by_cases isPath : other = Path.normalize path
  · simp [isPath, Entries.get?_erase_same distinct]
  · simp [isPath, Entries.get?_erase_other _ isPath]

end

/-- Fewer watchers of some paths make a registry too. -/
theorem IsRegistry.of_subset
    {before after : Watch}
    (registry : before.IsRegistry)
    (distinct : (Entries.names after.registered).Nodup)
    (fewer : ∀ path, after.watchers path ⊆ before.watchers path) :
    after.IsRegistry where
  distinct :=
    distinct
  sound path config member :=
    registry.sound path config (fewer path member)

/-! ## Removing one watcher -/

/-- The watcher that is removed is the same as the one that was named. -/
theorem exists_of_removeFirst
    {config : WatchConfig}
    {configs rest : List WatchConfig}
    (removes : removeFirst config configs = some rest) :
    ∃ earlier first later,
      configs = earlier ++ first :: later ∧
        rest = earlier ++ later ∧ first.same config = true := by
  induction configs generalizing rest with
  | nil =>
      cases removes
  | cons head tail inductionHypothesis =>
      unfold removeFirst at removes
      split at removes
      · rename_i alike
        cases removes
        exact ⟨[], head, tail, rfl, rfl, alike⟩
      · obtain ⟨fewer, removesLater, rfl⟩ :=
          Option.map_eq_some_iff.mp removes
        obtain ⟨earlier, first, later, rfl, rfl, alike⟩ :=
          inductionHypothesis removesLater
        exact ⟨head :: earlier, first, later, rfl, rfl, alike⟩

/-- Removing a watcher takes one of its own kind, and none of another. -/
theorem ofKind_removeFirst
    {config : WatchConfig}
    {configs rest : List WatchConfig}
    (sound : ∀ one ∈ configs, one.action.Sound)
    (removes : removeFirst config configs = some rest)
    {kind : String}
    (other : kind ≠ config.actionKind) :
    ofKind kind rest = ofKind kind configs := by
  obtain ⟨earlier, first, later, rfl, rfl, alike⟩ :=
    exists_of_removeFirst removes
  have sameKind : first.actionKind = config.actionKind :=
    WatchConfig.actionKind_eq_of_same (sound first (by simp)) alike
  simp [ofKind, sameKind, Ne.symm other]

/-- Among the watchers of its kind the same watcher is removed. -/
theorem removeFirst_ofKind
    (config : WatchConfig)
    {configs : List WatchConfig}
    (sound : ∀ one ∈ configs, one.action.Sound) :
    removeFirst config (ofKind config.actionKind configs) =
      (removeFirst config configs).map (ofKind config.actionKind) := by
  induction configs with
  | nil =>
      rfl
  | cons first others inductionHypothesis =>
      have later :=
        inductionHypothesis fun one member =>
          sound one (List.mem_cons_of_mem _ member)
      have kindOf : first.same config = true →
          first.actionKind = config.actionKind :=
        WatchConfig.actionKind_eq_of_same (sound first List.mem_cons_self)
      unfold ofKind at later ⊢
      by_cases alike : first.same config = true
      · simp [removeFirst, alike, kindOf alike]
      · by_cases own : first.actionKind = config.actionKind
        · simp [removeFirst, alike, own, later, Function.comp_def]
        · simp [removeFirst, alike, own, later, Function.comp_def]

end Watch

namespace TimedWatch

/-! ## Answering one by one -/

/-- When something happens to a watch. -/
def moment
    (timed : TimedWatch) :
    Watch.Moment :=
  ⟨timed.agenda.now, timed.hasClock⟩

/-- Let a watcher fire, and log that it did. -/
def fire
    (timed : TimedWatch)
    (firing : Firing) :
    TimedWatch :=
  let answer := timed.watch.fire firing
  { timed with watch := answer.1 }.record answer.2

/-- A watcher that is added is registered, and may fire at once. -/
theorem add_eq
    (timed : TimedWatch)
    (path : String)
    (config : WatchConfig)
    (context : WatchContext) :
    let watched := Path.normalize path
    let added :=
      { timed with watch := timed.watch.register watched config }
    timed.add path config context =
      if config.immediate then
        added.fire ⟨watched, config, ⟨watched, none, none⟩, context⟩
      else
        added := by
  simp only [add, Watch.add_eq]
  split <;> rfl

/-- A watcher answers, and what it wants is done. -/
def answer
    (timed : TimedWatch)
    (firing : Firing) :
    TimedWatch :=
  let answer := timed.watch.react timed.moment firing
  answer.2.toList.foldl carryOut { timed with watch := answer.1 }

/-- Doing what a watcher wants takes no time. -/
theorem moment_carryOut
    (timed : TimedWatch)
    (reaction : Watch.Reaction) :
    (timed.carryOut reaction).moment = timed.moment := by
  cases reaction with
  | fire firing =>
      rfl
  | arm delay firing =>
      simp only [carryOut, moment, WatchDesk.schedule,
        TimerTable.schedule]
      split <;> rfl

theorem watch_answer
    (timed : TimedWatch)
    (firing : Firing) :
    (timed.answer firing).watch =
      (timed.watch.react timed.moment firing).1 := by
  simp only [answer]
  cases (timed.watch.react timed.moment firing).2 with
  | none =>
      rfl
  | some reaction =>
      cases reaction <;> rfl

theorem moment_answer
    (timed : TimedWatch)
    (firing : Firing) :
    (timed.answer firing).moment = timed.moment := by
  simp only [answer]
  cases (timed.watch.react timed.moment firing).2 with
  | none =>
      rfl
  | some reaction =>
      exact moment_carryOut _ reaction

/-- What a watcher does that answers: pass, wait, or fire. -/
theorem answer_eq
    (timed : TimedWatch)
    (firing : Firing) :
    timed.answer firing =
      if timed.watch.ignores firing then
        timed
      else
        match WatchConfig.positive? firing.config.debounce with
        | some delay =>
            if timed.hasClock then
              timed.carryOut (.arm delay firing)
            else
              timed.fire firing
        | none =>
            match WatchConfig.positive? firing.config.throttle with
            | some window =>
                if timed.watch.isRested firing.key window
                    timed.agenda.now then
                  { timed with
                    watch :=
                      timed.watch.noteFired firing.key
                        timed.agenda.now }.fire firing
                else
                  timed
            | none =>
                timed.fire firing := by
  have fires :
      ∀ current : TimedWatch,
        (current.watch.fireNow firing).2.toList.foldl carryOut
            { current with watch := (current.watch.fireNow firing).1 } =
          current.fire firing := by
    intro current
    simp only [Watch.fireNow, Prod.map_fst, Prod.map_snd, id_eq, fire]
    cases (current.watch.fire firing).2 <;> rfl
  unfold answer Watch.react
  by_cases ignored : timed.watch.ignores firing = true
  · simp [ignored]
  · cases WatchConfig.positive? firing.config.debounce with
    | some delay =>
        obtain ⟨desk, hasClock, log⟩ := timed
        cases hasClock with
        | true =>
            simp [ignored, moment]
        | false =>
            simpa [ignored, moment] using fires ⟨desk, false, log⟩
    | none =>
        cases WatchConfig.positive? firing.config.throttle with
        | some window =>
            by_cases rested :
                timed.watch.isRested firing.key window
                  timed.agenda.now = true
            · simpa [ignored, moment, rested] using
                fires { timed with watch := _ }
            · simp [ignored, moment, rested]
        | none =>
            simpa [ignored, moment] using fires timed

/-- Watchers that answer in turn have their answers carried out in turn. -/
theorem foldl_carryOut_reactAll
    (timed : TimedWatch)
    (change : StateChange)
    (context : WatchContext)
    (watchers : List (String × WatchConfig)) :
    let answers :=
      Watch.reactAll timed.moment change context watchers timed.watch
    answers.2.foldl carryOut { timed with watch := answers.1 } =
      watchers.foldl
        (fun current watcher =>
          current.answer ⟨watcher.1, watcher.2, change, context⟩)
        timed := by
  induction watchers generalizing timed with
  | nil =>
      rfl
  | cons watcher watchers inductionHypothesis =>
      obtain ⟨watched, config⟩ := watcher
      let firing : Firing := ⟨watched, config, change, context⟩
      have later := inductionHypothesis (timed.answer firing)
      simp only [watch_answer, moment_answer] at later
      simp only [Watch.reactAll, List.foldl_append, List.foldl_cons]
      rw [← later]
      -- The first answer may be carried out before the others are given.
      congr 1
      simp only [answer, firing]
      generalize
        (timed.watch.react timed.moment
          ⟨watched, config, change, context⟩).2 = reaction
      cases reaction with
      | none =>
          rfl
      | some reaction =>
          cases reaction <;> rfl

/-- Showing a change lets the watchers that it concerns answer in turn. -/
theorem notify_eq_foldl
    (timed : TimedWatch)
    (change : StateChange)
    (context : WatchContext) :
    let path := Path.normalize change.path
    timed.notify change context =
      (timed.watch.concerned path).foldl
        (fun current watcher =>
          current.answer
            ⟨watcher.1, watcher.2, { change with path := path }, context⟩)
        timed :=
  foldl_carryOut_reactAll timed _ context _

end TimedWatch

end Mockup
