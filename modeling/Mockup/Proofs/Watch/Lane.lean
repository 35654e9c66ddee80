import Mockup.Proofs.Watch.Registered

namespace Mockup

/-!
# The lane of a key

A watch keeps what belongs to one key in shared tables.  A *lane* is the part
of one key alone: its watchers, its marks, its timer and its firings.  A lane
runs by itself, without a table and without an agenda, and every operation does
to the lane of a key in a watch what it does to the lane alone.  So nothing
that happens under other keys makes a difference to it.
-/

/-- What a watch has under one key. -/
structure Lane where
  key : TriggerKey
  now : Nat := 0
  hasClock : Bool := true
  /-- The functions that the expressions of watchers may call. -/
  functions : Registry := .defaults
  /-- The watchers of the key, in order of registration. -/
  configs : List WatchConfig := []
  /-- Whether a watcher that fires only once has fired. -/
  isSpent : Bool := false
  /-- When a throttled watcher fired last. -/
  lastFired : Option Nat := none
  /-- When the pending timer is due, and what it fires. -/
  pending : Option (Nat × Firing) := none
  log : List LoggedFiring := []

namespace Lane

/-- Let a watcher of the key fire, unless it fires only once and has. -/
def fire
    (lane : Lane)
    (firing : Firing) :
    Lane :=
  if firing.config.once && lane.isSpent then
    lane
  else
    { lane with
      isSpent := lane.isSpent || firing.config.once,
      log := lane.log ++ [⟨lane.now, firing⟩] }

/-- Whether a watcher of the key lets a change pass unanswered. -/
def ignores
    (lane : Lane)
    (firing : Firing) :
    Bool :=
  (firing.config.once && lane.isSpent) ||
    match firing.config.condition with
    | some condition =>
        !WatchCondition.holds lane.functions condition firing.change
          firing.context
    | none =>
        false

/-- Whether throttled watchers of the key have rested long enough. -/
def isRested
    (lane : Lane)
    (window : Nat) :
    Bool :=
  match lane.lastFired with
  | some last =>
      window ≤ lane.now - last
  | none =>
      true

/-- A watcher of the key answers: it passes, waits, or fires. -/
def answer
    (lane : Lane)
    (firing : Firing) :
    Lane :=
  if lane.ignores firing then
    lane
  else
    match WatchConfig.positive? firing.config.debounce with
    | some delay =>
        if lane.hasClock then
          { lane with pending := some (lane.now + delay, firing) }
        else
          lane.fire firing
    | none =>
        match WatchConfig.positive? firing.config.throttle with
        | some window =>
            if lane.isRested window then
              { lane with lastFired := some lane.now }.fire firing
            else
              lane
        | none =>
            lane.fire firing

/-- The watchers of the key answer to a change in turn. -/
def answerAll
    (lane : Lane)
    (change : StateChange)
    (context : WatchContext) :
    Lane :=
  lane.configs.foldl
    (fun current config =>
      current.answer ⟨lane.key.path, config, change, context⟩)
    lane

/-- Register a watcher of the key; an immediate one fires at once. -/
def add
    (lane : Lane)
    (config : WatchConfig)
    (context : WatchContext) :
    Lane :=
  let path := lane.key.path
  let added := { lane with configs := lane.configs ++ [config] }
  if config.immediate then
    added.fire ⟨path, config, ⟨path, none, none⟩, context⟩
  else
    added

/-- Remove a watcher of the key, and the timer of the key with it. -/
def remove
    (lane : Lane)
    (config : WatchConfig) :
    Lane :=
  match Watch.removeFirst config lane.configs with
  | some rest =>
      { lane with configs := rest, pending := none }
  | none =>
      lane

/-- Remove all watchers of the key; what they remember stays. -/
def removeAll
    (lane : Lane) :
    Lane :=
  { lane with configs := [], pending := none }

/-- Remove all watchers of the key with all they remember. -/
def clear
    (lane : Lane) :
    Lane :=
  { lane with
    configs := [], isSpent := false, lastFired := none, pending := none }

/-- Let the timer fire when it is due by a time, and move the clock there. -/
def runTo
    (time : Nat)
    (lane : Lane) :
    Lane :=
  let ran :=
    match lane.pending with
    | some (due, firing) =>
        if due ≤ time then
          { lane with now := due, pending := none }.fire firing
        else
          lane
    | none =>
        lane
  { ran with now := time }

/-- Do to the lane what is done to a watch; most of it is of other keys. -/
def perform
    (lane : Lane) :
    WatchOperation → Lane
  | .add path config context =>
      if .ofConfig (Path.normalize path) config = lane.key then
        lane.add config context
      else
        lane
  | .remove path config =>
      if .ofConfig (Path.normalize path) config = lane.key then
        lane.remove config
      else
        lane
  | .removeAll path =>
      if lane.key.path = Path.normalize path then lane.removeAll else lane
  | .notify change context =>
      let path := Path.normalize change.path
      if Watch.concerns lane.key.path path then
        lane.answerAll { change with path := path } context
      else
        lane
  | .clearPath path =>
      if lane.key.path = Path.normalize path then lane.clear else lane
  | .clear =>
      lane.clear
  | .advance time =>
      if lane.hasClock then lane.runTo (lane.now + time) else lane

end Lane

namespace TimedWatch

/-- The part of a watch that belongs to a key. -/
def lane
    (timed : TimedWatch)
    (key : TriggerKey) :
    Lane where
  key :=
    key
  now :=
    timed.agenda.now
  hasClock :=
    timed.hasClock
  functions :=
    timed.watch.functions
  configs :=
    Watch.ofKind key.kind (timed.watch.watchers key.path)
  isSpent :=
    timed.watch.spent.contains key
  lastFired :=
    timed.watch.lastFired.lookup key
  pending :=
    timed.agenda.dues.find? fun due => due.2.key = key
  log :=
    timed.log.filter fun logged => logged.firing.key = key

/-! ## Timers of one key -/

section

variable
  {before after : List (Nat × Firing)}
  {key : TriggerKey}

/-- When no key has two timers, the timer of a key is the one there is. -/
theorem find?_key_eq_some_iff
    (distinct : (before.map fun due => due.2.key).Nodup)
    {due : Nat × Firing} :
    before.find? (fun due => due.2.key = key) = some due ↔
      due ∈ before ∧ due.2.key = key := by
  constructor
  · intro found
    exact ⟨List.mem_of_find?_eq_some found,
      by simpa using List.find?_some found⟩
  · rintro ⟨member, own⟩
    cases found : before.find? (fun due => due.2.key = key) with
    | none =>
        exact absurd own (by simpa using List.find?_eq_none.mp found due member)
    | some other =>
        have otherOwn : other.2.key = key := by
          simpa using List.find?_some found
        have same :=
          List.inj_on_of_nodup_map distinct
            (List.mem_of_find?_eq_some found) member
            (otherOwn.trans own.symm)
        rw [same]

theorem find?_key_of_perm
    (distinct : (before.map fun due => due.2.key).Nodup)
    (perm : after.Perm before) :
    after.find? (fun due => due.2.key = key) =
      before.find? fun due => due.2.key = key := by
  have distinctAfter : (after.map fun due => due.2.key).Nodup :=
    (perm.map _).nodup_iff.mpr distinct
  refine Option.ext fun due => ?_
  rw [find?_key_eq_some_iff distinct, find?_key_eq_some_iff distinctAfter,
    perm.mem_iff]

/-- Of the timers of some keys, the timer of a key is found among those. -/
theorem find?_key_filter
    (keep : TriggerKey → Bool) :
    (before.filter fun due => keep due.2.key).find?
        (fun due => due.2.key = key) =
      if keep key then
        before.find? fun due => due.2.key = key
      else
        none := by
  rw [List.find?_filter]
  split
  · rename_i kept
    refine congrArg (List.find? · before) (funext fun due => ?_)
    by_cases own : due.2.key = key <;> simp [own, kept]
  · rename_i gone
    refine List.find?_eq_none.mpr ?_
    intro due _
    by_cases own : due.2.key = key <;> simp [own, gone]

end

/-- No key has two timers. -/
theorem nodup_dues
    {timers : TimerTable TriggerKey}
    {agenda : Agenda (Timer Firing)}
    (keyed : timers.Keys agenda Timer.key) :
    (agenda.dues.map fun due => due.2.key).Nodup := by
  have works := congrArg (List.map Firing.key) agenda.works_dues
  simp only [List.map_map, Function.comp_def] at works
  exact works ▸ keyed.nodup_keys

/-- Timers of some keys are cancelled, and the others are due as before. -/
theorem dues_without
    (agenda : Agenda (Timer Firing))
    (chosen : TriggerKey → Bool) :
    (TimerTable.without agenda Timer.key chosen).dues =
      agenda.dues.filter fun due => !chosen due.2.key :=
  agenda.dues_filter fun work => !chosen work.key

/-- Of the notes under some keys, the note under a key is found there. -/
theorem lookup_filter
    (keep : TriggerKey → Bool)
    (notes : List (TriggerKey × Nat))
    (key : TriggerKey) :
    (notes.filter fun note => keep note.1).lookup key =
      if keep key then notes.lookup key else none := by
  induction notes with
  | nil =>
      simp
  | cons note notes inductionHypothesis =>
      obtain ⟨other, time⟩ := note
      by_cases own : key = other
      · subst own
        by_cases kept : keep key = true <;>
          simp [kept, inductionHypothesis]
      · have different : (key == other) = false :=
          beq_eq_false_iff_ne.mpr own
        by_cases kept : keep other = true <;>
          simp [List.lookup_cons, kept, different, inductionHypothesis]

/-! ## Firing and answering -/

section

variable
  (timed : TimedWatch)
  (firing : Firing)
  (key : TriggerKey)

/-- What fires is seen in the lane of its key, and in no other. -/
theorem lane_fire :
    (timed.fire firing).lane key =
      if firing.key = key then
        (timed.lane key).fire firing
      else
        timed.lane key := by
  simp only [fire, Watch.fire]
  by_cases own : firing.key = key
  · subst own
    by_cases isOnce : firing.config.once = true
    · by_cases isSpent : firing.key ∈ timed.watch.spent
      · simp [lane, Lane.fire, record, isOnce, isSpent]
      · simp [lane, Lane.fire, record, isOnce, isSpent, Watch.watchers]
    · simp [lane, Lane.fire, record, isOnce]
  · by_cases isOnce : firing.config.once = true
    · by_cases isSpent : firing.key ∈ timed.watch.spent
      · simp [lane, record, isOnce, isSpent, own]
      · simp [lane, record, isOnce, isSpent, own, Ne.symm own,
          Watch.watchers]
    · simp [lane, record, isOnce, own]

/-- When a watcher fires is noted in the lane of its key. -/
theorem lane_noteFired :
    ({ timed with
        watch :=
          timed.watch.noteFired firing.key timed.agenda.now } :
      TimedWatch).lane key =
      if firing.key = key then
        { timed.lane key with lastFired := some timed.agenda.now }
      else
        timed.lane key := by
  have noted :
      (timed.watch.noteFired firing.key timed.agenda.now).lastFired.lookup
          key =
        if firing.key = key then
          some timed.agenda.now
        else
          timed.watch.lastFired.lookup key := by
    have others :=
      lookup_filter (fun other => other ≠ firing.key)
        timed.watch.lastFired key
    rw [Watch.noteFired, List.lookup_append, others]
    by_cases own : firing.key = key
    · simp [own]
    · have different : (key == firing.key) = false :=
        beq_eq_false_iff_ne.mpr (Ne.symm own)
      simp [own, Ne.symm own, List.lookup_cons, different]
  by_cases own : firing.key = key
  · rw [if_pos own] at noted ⊢
    simp only [lane, noted]
    rfl
  · rw [if_neg own] at noted ⊢
    simp only [lane, noted]
    rfl

/-- A watcher that waits has the only timer of its key. -/
theorem lane_arm
    {timed : TimedWatch}
    (consistent : timed.IsConsistent)
    (delay : Nat) :
    (timed.carryOut (.arm delay firing)).lane key =
      if firing.key = key then
        { timed.lane key with
          pending := some (timed.agenda.now + delay, firing) }
      else
        timed.lane key := by
  let others :=
    TimerTable.without timed.agenda Timer.key fun other =>
      other = firing.key
  have own : Timer.key (.fresh delay firing) = firing.key :=
    rfl
  have agenda :
      (timed.carryOut (.arm delay firing)).agenda =
        (others.spawn (.fresh delay firing)).1 :=
    consistent.keyed.agenda_schedule firing.key _
  have perm := others.dues_spawn delay firing
  have distinct := nodup_dues (consistent.keyed.schedule own)
  have pending :
      (timed.carryOut (.arm delay firing)).agenda.dues.find?
          (fun due => due.2.key = key) =
        if firing.key = key then
          some (timed.agenda.now + delay, firing)
        else
          timed.agenda.dues.find? fun due => due.2.key = key := by
    rw [consistent.keyed.agenda_schedule] at distinct
    rw [agenda, find?_key_of_perm
      ((perm.map _).nodup_iff.mp distinct) perm, dues_without,
      List.find?_cons,
      find?_key_filter fun other => !decide (other = firing.key)]
    by_cases isKey : firing.key = key
    · simp [isKey]
      rfl
    · simp [isKey, Ne.symm isKey]
  have now :
      (timed.carryOut (.arm delay firing)).agenda.now =
        timed.agenda.now := by
    rw [agenda]
    rfl
  unfold lane
  rw [pending, now]
  split <;> rfl

/-- A watcher answers in the lane of its key. -/
theorem lane_answer
    {timed : TimedWatch}
    (consistent : timed.IsConsistent) :
    (timed.answer firing).lane key =
      if firing.key = key then
        (timed.lane key).answer firing
      else
        timed.lane key := by
  have waits := lane_arm firing key consistent
  have fires := lane_fire timed firing key
  have notes := lane_noteFired timed firing key
  rw [answer_eq]
  by_cases own : firing.key = key
  · subst own
    have ignored :
        (timed.lane firing.key).ignores firing =
          timed.watch.ignores firing :=
      rfl
    have rested :
        ∀ window,
          (timed.lane firing.key).isRested window =
            timed.watch.isRested firing.key window timed.agenda.now :=
      fun _ => rfl
    have clock : (timed.lane firing.key).hasClock = timed.hasClock :=
      rfl
    simp only [if_true] at waits fires notes ⊢
    simp only [Lane.answer, ignored, rested, clock]
    split
    · rfl
    · cases WatchConfig.positive? firing.config.debounce with
      | some delay =>
          by_cases hasClock : timed.hasClock = true
          · simp only [if_pos hasClock]
            exact waits delay
          · simp only [if_neg hasClock]
            exact fires
      | none =>
          cases WatchConfig.positive? firing.config.throttle with
          | some window =>
              simp only
              split
              · rw [lane_fire, if_pos rfl, notes]
                rfl
              · rfl
          | none =>
              exact fires
  · simp only [if_neg own] at waits fires notes ⊢
    split
    · rfl
    · split
      · split
        · exact waits _
        · exact fires
      · split
        · split
          · rw [lane_fire, if_neg own, notes]
          · rfl
        · exact fires

end

/-! ## Every operation in the lane of a key -/

section

variable
  {timed : TimedWatch}
  (consistent : timed.IsConsistent)
  (key : TriggerKey)

/-- A registered watcher is seen in the lane of its key. -/
theorem lane_register
    (timed : TimedWatch)
    (path : String)
    (config : WatchConfig) :
    ({ timed with watch := timed.watch.register path config } :
      TimedWatch).lane key =
      if .ofConfig path config = key then
        { timed.lane key with
          configs := (timed.lane key).configs ++ [config] }
      else
        timed.lane key := by
  obtain ⟨keyPath, kind⟩ := key
  simp only [lane, Watch.watchers_register]
  by_cases samePath : keyPath = path
  · subst samePath
    by_cases sameKind : config.actionKind = kind <;>
      simp [TriggerKey.ofConfig, Watch.register, Watch.ofKind, sameKind]
  · simp [TriggerKey.ofConfig, Watch.register, samePath,
      Ne.symm samePath]

theorem lane_add
    (timed : TimedWatch)
    (path : String)
    (config : WatchConfig)
    (context : WatchContext) :
    (timed.add path config context).lane key =
      (timed.lane key).perform (.add path config context) := by
  have registers :=
    lane_register key timed (Path.normalize path) config
  simp only [add_eq, Lane.perform]
  by_cases own : .ofConfig (Path.normalize path) config = key
  · subst own
    rw [if_pos rfl] at registers
    refine Eq.trans ?_ (if_pos rfl).symm
    unfold Lane.add
    split
    · rw [lane_fire, registers]
      exact if_pos rfl
    · exact registers
  · rw [if_neg own] at registers
    refine Eq.trans ?_ (if_neg own).symm
    split
    · rw [lane_fire, registers]
      exact if_neg own
    · exact registers

include consistent

/-- Of watchers that answer in turn, those of a key do in its lane. -/
theorem lane_foldl_answer
    (change : StateChange)
    (context : WatchContext)
    {watchers : List (String × WatchConfig)}
    (registered :
      ∀ watcher ∈ watchers, watcher.2 ∈ timed.watch.watchers watcher.1) :
    (watchers.foldl
        (fun current watcher =>
          current.answer ⟨watcher.1, watcher.2, change, context⟩)
        timed).lane key =
      (watchers.filter fun watcher =>
          TriggerKey.ofConfig watcher.1 watcher.2 = key).foldl
        (fun current watcher =>
          current.answer ⟨watcher.1, watcher.2, change, context⟩)
        (timed.lane key) := by
  induction watchers generalizing timed with
  | nil =>
      rfl
  | cons watcher watchers inductionHypothesis =>
      let firing : Firing := ⟨watcher.1, watcher.2, change, context⟩
      obtain ⟨next, plays⟩ :=
        consistent.answer firing (registered watcher List.mem_cons_self)
      have later :=
        inductionHypothesis next fun other member =>
          Watch.watchers_congr plays.registered other.1 ▸
            registered other (List.mem_cons_of_mem _ member)
      have first := lane_answer firing key consistent
      rw [List.foldl_cons, later, first]
      by_cases own : firing.key = key
      · have isOwn : TriggerKey.ofConfig watcher.1 watcher.2 = key :=
          own
        simp [own, isOwn, firing]
      · have other : TriggerKey.ofConfig watcher.1 watcher.2 ≠ key :=
          own
        simp [own, other]

/-- Showing a change shows it to the watchers of a key that it concerns. -/
theorem lane_notify
    (change : StateChange)
    (context : WatchContext) :
    (timed.notify change context).lane key =
      (timed.lane key).perform (.notify change context) := by
  have distinct := consistent.registry.distinct
  rw [notify_eq_foldl, lane_foldl_answer consistent key _ _ fun _ =>
    Watch.mem_watchers_of_mem_concerned distinct,
    Watch.filter_concerned distinct]
  by_cases concerned :
      Watch.concerns key.path (Path.normalize change.path) = true
  · rw [if_pos concerned, List.foldl_map]
    exact (if_pos concerned).symm
  · rw [if_neg concerned]
    exact (if_neg concerned).symm

/-- What is left of a lane when watchers go and timers are cancelled. -/
theorem lane_dismiss
    (watch : Watch)
    (chosen : TriggerKey → Bool) :
    let desk :=
      { timed.toWatchDesk with watch := watch }.cancelWhere chosen
    ({ timed with toWatchDesk := desk } : TimedWatch).lane key =
      { timed.lane key with
        functions := watch.functions,
        configs := Watch.ofKind key.kind (watch.watchers key.path),
        isSpent := watch.spent.contains key,
        lastFired := watch.lastFired.lookup key,
        pending :=
          if chosen key then none else (timed.lane key).pending } := by
  let desk :=
    { timed.toWatchDesk with watch := watch }.cancelWhere chosen
  have agenda :
      desk.agenda =
        TimerTable.without timed.agenda Timer.key chosen :=
    consistent.keyed.agenda_cancelWhere chosen
  have pending :
      (desk.agenda.dues.find? fun due => due.2.key = key) =
        if chosen key then none else (timed.lane key).pending := by
    rw [agenda, dues_without, find?_key_filter fun other => !chosen other]
    cases chosen key <;> rfl
  have now : desk.agenda.now = timed.agenda.now := by
    rw [agenda]
    rfl
  simp only [lane, desk] at pending now ⊢
  rw [pending, now]
  rfl

theorem lane_clearPath
    (path : String) :
    (timed.clearPath path).lane key =
      (timed.lane key).perform (.clearPath path) := by
  have left :=
    lane_dismiss consistent key (timed.watch.clearPath path)
      fun other => other.path = Path.normalize path
  have watchers :=
    Watch.watchers_clearPath consistent.registry.distinct path key.path
  have notes :
      (timed.watch.clearPath path).lastFired.lookup key =
        if key.path = Path.normalize path then
          none
        else
          timed.watch.lastFired.lookup key := by
    refine (lookup_filter
      (fun other => other.path ≠ Path.normalize path) _ key).trans ?_
    by_cases own : key.path = Path.normalize path <;> simp [own]
  have marks :
      (timed.watch.clearPath path).spent.contains key =
        if key.path = Path.normalize path then
          false
        else
          timed.watch.spent.contains key := by
    by_cases own : key.path = Path.normalize path <;>
      simp [Watch.clearPath, own]
  have called :
      (timed.watch.clearPath path).functions =
        (timed.lane key).functions :=
    rfl
  refine left.trans ?_
  rw [watchers, notes, marks, called]
  by_cases own : key.path = Path.normalize path
  · refine Eq.trans ?_ (if_pos own).symm
    simp [own, Lane.clear, Watch.ofKind]
  · refine Eq.trans ?_ (if_neg own).symm
    simp [own, lane]

theorem lane_clear :
    timed.clear.lane key = (timed.lane key).perform .clear :=
  lane_dismiss consistent key timed.watch.clear fun _ => true

/-- A key without watchers has no timer. -/
theorem pending_lane_eq_none
    (empty : (timed.lane key).configs = []) :
    (timed.lane key).pending = none := by
  refine List.find?_eq_none.mpr ?_
  intro due member own
  have isWork :
      due.2 ∈ timed.agenda.entries.map fun entry => entry.job.work := by
    rw [← Agenda.works_dues]
    exact List.mem_map_of_mem member
  obtain ⟨entry, isEntry, sameWork⟩ := List.mem_map.mp isWork
  have registered := consistent.registered entry isEntry
  rw [sameWork, Watch.IsRegistered] at registered
  obtain rfl : due.2.key = key :=
    of_decide_eq_true own
  have ofKey : due.2.config ∈ (timed.lane due.2.key).configs :=
    List.mem_filter.mpr ⟨registered, decide_eq_true rfl⟩
  rw [empty] at ofKey
  cases ofKey

theorem lane_removeAll
    (path : String) :
    (timed.removeAll path).1.lane key =
      (timed.lane key).perform (.removeAll path) := by
  have distinct := consistent.registry.distinct
  unfold TimedWatch.removeAll WatchDesk.removeAll Watch.removeAll
  simp only
  split
  · rename_i none
    have empty : timed.watch.watchers (Path.normalize path) = [] :=
      List.eq_nil_of_length_eq_zero (congrArg Prod.snd none)
    by_cases own : key.path = Path.normalize path
    · rw [← own] at empty
      have noWatcher : (timed.lane key).configs = [] := by
        simp [lane, empty, Watch.ofKind]
      have noTimer := pending_lane_eq_none consistent key noWatcher
      refine Eq.trans ?_ (if_pos own).symm
      rw [Lane.removeAll, ← noTimer, ← noWatcher]
    · exact (if_neg own).symm
  · rename_i watch count _ removed
    cases removed
    have left :=
      lane_dismiss consistent key
        (timed.watch.setPath (Path.normalize path) [])
        fun other => other.path = Path.normalize path
    rw [Watch.watchers_setPath distinct] at left
    refine left.trans ?_
    by_cases own : key.path = Path.normalize path
    · refine Eq.trans ?_ (if_pos own).symm
      simp [own, Lane.removeAll, Watch.ofKind, Watch.setPath, lane]
    · refine Eq.trans ?_ (if_neg own).symm
      simp [own, Watch.setPath, lane]

theorem lane_remove
    (path : String)
    (config : WatchConfig) :
    (timed.remove path config).1.lane key =
      (timed.lane key).perform (.remove path config) := by
  have distinct := consistent.registry.distinct
  let watched := Path.normalize path
  have sound := consistent.registry.sound watched
  have removesOwn := Watch.removeFirst_ofKind config sound
  unfold TimedWatch.remove WatchDesk.remove Watch.remove
  simp only
  cases removes :
      Watch.removeFirst config
        ((Entries.get? timed.watch.registered
          (Path.normalize path)).getD []) with
  | none =>
      change Watch.removeFirst config (timed.watch.watchers watched) = none
        at removes
      rw [removes] at removesOwn
      by_cases own : .ofConfig watched config = key
      · subst own
        have none :
            Watch.removeFirst config
              (timed.lane (.ofConfig watched config)).configs = none :=
          removesOwn
        refine Eq.trans ?_ (if_pos rfl).symm
        rw [Lane.remove, none]
      · exact (if_neg own).symm
  | some rest =>
      change Watch.removeFirst config (timed.watch.watchers watched) =
        some rest at removes
      rw [removes] at removesOwn
      have left :=
        lane_dismiss consistent key (timed.watch.setPath watched rest)
          fun other => other = .ofConfig watched config
      rw [Watch.watchers_setPath distinct] at left
      refine left.trans ?_
      by_cases own : .ofConfig watched config = key
      · subst own
        have some :
            Watch.removeFirst config
              (timed.lane (.ofConfig watched config)).configs =
                some (Watch.ofKind config.actionKind rest) :=
          removesOwn
        refine Eq.trans ?_ (if_pos rfl).symm
        rw [Lane.remove, some]
        simp [Watch.setPath, lane, TriggerKey.ofConfig]
      · have others :
            Watch.ofKind key.kind
                (if key.path = watched then
                  rest
                else
                  timed.watch.watchers key.path) =
              (timed.lane key).configs := by
          split
          · rename_i atPath
            have otherKind : key.kind ≠ config.actionKind := by
              rintro sameKind
              exact own (by rw [TriggerKey.ofConfig, ← atPath, ← sameKind])
            rw [Watch.ofKind_removeFirst sound removes otherKind, ← atPath]
            rfl
          · rfl
        refine Eq.trans ?_ (if_neg own).symm
        rw [others]
        simp [Watch.setPath, lane, Ne.symm own]

end

end TimedWatch

end Mockup
