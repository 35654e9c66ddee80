import Mockup.Proofs.Watch.Isolation

namespace Mockup

/-!
# A watcher alone with its key

When a watcher is the only one of its key, its lane is a matter between the
watcher and the clock: the lane *meets* the changes that the watcher admits,
each at its time, and lets time pass between them.  Whatever else is done with
a watch, and to whichever other watchers, the lane meets nothing more.
-/

namespace WatchConfig

/-- Whether a change meets the condition of a watcher. -/
def admits
    (config : WatchConfig)
    (functions : Registry)
    (change : StateChange)
    (context : WatchContext) :
    Bool :=
  match config.condition with
  | some condition =>
      WatchCondition.holds functions condition change context
  | none =>
      true

theorem positive?_of_pos
    {time : Nat}
    (positive : 0 < time) :
    positive? (some time) = some time := by
  cases time with
  | zero =>
      cases positive
  | succ _ =>
      rfl

end WatchConfig

namespace WatchOperation

/-- No watcher of a key is added or removed. -/
def Spares
    (key : TriggerKey) :
    WatchOperation → Prop
  | .add path config _ =>
      .ofConfig (Path.normalize path) config ≠ key
  | .remove path config =>
      .ofConfig (Path.normalize path) config ≠ key
  | .removeAll path =>
      key.path ≠ Path.normalize path
  | .clearPath path =>
      key.path ≠ Path.normalize path
  | .clear =>
      False
  | .notify _ _ | .advance _ =>
      True

/-- What a watcher fires on being shown a change that meets its condition. -/
def passed?
    (functions : Registry)
    (watched : String)
    (config : WatchConfig)
    (now : Nat) :
    WatchOperation → Option LoggedFiring
  | .notify change context =>
      let shown := { change with path := Path.normalize change.path }
      if
        Watch.concerns watched shown.path &&
          config.admits functions shown context then
        some ⟨now, ⟨watched, config, shown, context⟩⟩
      else
        none
  | _ =>
      none

/-- What time it is after an operation; without a clock there is none. -/
def timeAfter
    (hasClock : Bool)
    (now : Nat) :
    WatchOperation → Nat
  | .advance time =>
      if hasClock then now + time else now
  | _ =>
      now

/--
What a watcher fires when it neither waits nor rests: the changes that are
shown to it and meet its condition, each at the time when it is shown.
-/
def passing
    (functions : Registry)
    (hasClock : Bool)
    (watched : String)
    (config : WatchConfig) :
    Nat → List WatchOperation → List LoggedFiring
  | _, [] =>
      []
  | now, operation :: operations =>
      (operation.passed? functions watched config now).toList ++
        passing functions hasClock watched config
          (operation.timeAfter hasClock now) operations

end WatchOperation

namespace Lane

/-! ## Firing and answering -/

/-- A watcher that may fire often fires whenever it can. -/
theorem fire_of_many
    (lane : Lane)
    {firing : Firing}
    (many : firing.config.once = false) :
    lane.fire firing =
      { lane with log := lane.log ++ [⟨lane.now, firing⟩] } := by
  simp [fire, many]

/-- A watcher that may fire often is added, and fires if it is immediate. -/
theorem add_of_many
    (lane : Lane)
    {config : WatchConfig}
    (many : config.once = false)
    (context : WatchContext) :
    let path := lane.key.path
    lane.add config context =
      { lane with
        configs := lane.configs ++ [config],
        log :=
          if config.immediate then
            lane.log ++
              [⟨lane.now, ⟨path, config, ⟨path, none, none⟩, context⟩⟩]
          else
            lane.log } := by
  unfold add
  simp only
  split
  · exact fire_of_many _ many
  · rfl

/-- A watcher that may fire often ignores what its condition refuses. -/
theorem ignores_of_many
    (lane : Lane)
    {firing : Firing}
    (many : firing.config.once = false) :
    lane.ignores firing =
      !firing.config.admits lane.functions firing.change
        firing.context := by
  unfold ignores WatchConfig.admits
  cases firing.config.condition <;> simp [many]

theorem now_fire
    (lane : Lane)
    (firing : Firing) :
    (lane.fire firing).now = lane.now := by
  unfold fire
  split <;> rfl

/-- A watcher that answers passes, waits, or fires, which it may note. -/
theorem answer_cases
    (lane : Lane)
    (firing : Firing) :
    lane.answer firing = lane ∨
      (∃ due,
        lane.answer firing = { lane with pending := some (due, firing) }) ∨
      ∃ lastFired,
        lane.answer firing =
          { lane with lastFired := lastFired }.fire firing := by
  unfold answer
  split
  · exact .inl rfl
  · split
    · split
      · exact .inr (.inl ⟨_, rfl⟩)
      · exact .inr (.inr ⟨lane.lastFired, rfl⟩)
    · split
      · split
        · exact .inr (.inr ⟨some lane.now, rfl⟩)
        · exact .inl rfl
      · exact .inr (.inr ⟨lane.lastFired, rfl⟩)

/-- A watcher that answers takes no time. -/
theorem now_answer
    (lane : Lane)
    (firing : Firing) :
    (lane.answer firing).now = lane.now := by
  rcases lane.answer_cases firing with
      passes | ⟨_, waits⟩ | ⟨_, fires⟩
  · rw [passes]
  · rw [waits]
  · rw [fires]
    exact now_fire _ firing

/-- A change that the condition refuses is passed over. -/
theorem answer_of_refused
    (lane : Lane)
    {firing : Firing}
    (refused :
      firing.config.admits lane.functions firing.change firing.context =
        false) :
    lane.answer firing = lane := by
  have ignored : lane.ignores firing = true := by
    unfold WatchConfig.admits at refused
    unfold ignores
    cases condition : firing.config.condition with
    | none =>
        simp [condition] at refused
    | some condition =>
        simp_all
  exact if_pos ignored

/-- A lane keeps its key, its clock, its functions and its watchers. -/
structure Keeps
    (before after : Lane) :
    Prop where
  key :
    after.key = before.key
  hasClock :
    after.hasClock = before.hasClock
  functions :
    after.functions = before.functions
  configs :
    after.configs = before.configs

theorem keeps_fire
    (lane : Lane)
    (firing : Firing) :
    Keeps lane (lane.fire firing) := by
  unfold fire
  split <;> exact ⟨rfl, rfl, rfl, rfl⟩

theorem keeps_answer
    (lane : Lane)
    (firing : Firing) :
    Keeps lane (lane.answer firing) := by
  rcases lane.answer_cases firing with
      passes | ⟨_, waits⟩ | ⟨lastFired, fires⟩
  · rw [passes]
    exact ⟨rfl, rfl, rfl, rfl⟩
  · rw [waits]
    exact ⟨rfl, rfl, rfl, rfl⟩
  · rw [fires]
    have kept := keeps_fire { lane with lastFired := lastFired } firing
    exact ⟨kept.key, kept.hasClock, kept.functions, kept.configs⟩

theorem keeps_runTo
    (lane : Lane)
    (time : Nat) :
    Keeps lane (lane.runTo time) := by
  unfold runTo
  split
  · split
    · rename_i due firing _ _
      have fires := keeps_fire { lane with now := due, pending := none } firing
      exact ⟨fires.key, fires.hasClock, fires.functions, fires.configs⟩
    · exact ⟨rfl, rfl, rfl, rfl⟩
  · exact ⟨rfl, rfl, rfl, rfl⟩

/-! ## Meeting changes -/

/--
A lane meets some changes: each is admitted by the watcher, which answers it
at once, and time passes between them.
-/
inductive Meets
    (config : WatchConfig) :
    Lane → List LoggedFiring → Lane → Prop where
  | rest
      {lane : Lane} :
      Meets config lane [] lane
  | shown
      {lane last : Lane}
      {later : List LoggedFiring}
      {firing : Firing} :
      firing.config = config →
      config.admits lane.functions firing.change firing.context = true →
      Meets config (lane.answer firing) later last →
      Meets config lane (⟨lane.now, firing⟩ :: later) last
  | slept
      {lane last : Lane}
      {later : List LoggedFiring}
      {time : Nat} :
      Meets config (lane.runTo (lane.now + time)) later last →
      Meets config lane later last

section

variable
  {config : WatchConfig}
  {lane : Lane}

/-- An operation is met as a change, as time, or not at all. -/
theorem perform_of_spares
    (alone : lane.configs = [config])
    {operation : WatchOperation}
    (spares : operation.Spares lane.key) :
    let passed :=
      operation.passed? lane.functions lane.key.path config lane.now
    let time := operation.timeAfter lane.hasClock lane.now
    (∃ firing : Firing,
        firing.config = config ∧
          config.admits lane.functions firing.change firing.context =
            true ∧
          lane.perform operation = lane.answer firing ∧
          passed = some ⟨lane.now, firing⟩ ∧ time = lane.now) ∨
      (∃ slept,
        lane.perform operation = lane.runTo (lane.now + slept) ∧
          passed = none ∧ time = lane.now + slept) ∨
      (lane.perform operation = lane ∧ passed = none ∧ time = lane.now) := by
  cases operation with
  | notify change context =>
      let shown := { change with path := Path.normalize change.path }
      let firing : Firing := ⟨lane.key.path, config, shown, context⟩
      have answers : lane.answerAll shown context = lane.answer firing := by
        simp [answerAll, alone, firing]
      by_cases concerned : Watch.concerns lane.key.path shown.path = true
      · have performs :
            lane.perform (.notify change context) = lane.answer firing :=
          (if_pos concerned).trans answers
        by_cases admitted : config.admits lane.functions shown context = true
        · refine .inl ⟨firing, rfl, admitted, performs, if_pos ?_, rfl⟩
          exact Bool.and_eq_true_iff.mpr ⟨concerned, admitted⟩
        · have refused : lane.answer firing = lane :=
            answer_of_refused lane (Bool.eq_false_of_not_eq_true admitted)
          refine .inr (.inr ⟨performs.trans refused, if_neg ?_, rfl⟩)
          exact fun both => admitted (Bool.and_eq_true_iff.mp both).2
      · refine .inr (.inr ⟨if_neg concerned, if_neg ?_, rfl⟩)
        exact fun both => concerned (Bool.and_eq_true_iff.mp both).1
  | advance slept =>
      by_cases clock : lane.hasClock = true
      · exact .inr (.inl ⟨slept, if_pos clock, rfl, if_pos clock⟩)
      · exact .inr (.inr ⟨if_neg clock, rfl, if_neg clock⟩)
  | add _ _ _ | remove _ _ | removeAll _ | clearPath _ =>
      exact .inr (.inr ⟨if_neg spares, rfl, rfl⟩)
  | clear =>
      exact spares.elim

end

namespace Meets

variable
  {config : WatchConfig}
  {lane last : Lane}
  {shown : List LoggedFiring}

/-- Time only passes, and every change is met at its time. -/
theorem times
    (meets : Meets config lane shown last) :
    lane.now ≤ last.now ∧ ∀ change ∈ shown, lane.now ≤ change.time := by
  induction meets with
  | rest =>
      exact ⟨Nat.le_refl _, by simp⟩
  | @shown lane _ _ firing _ _ _ inductionHypothesis =>
      rw [now_answer] at inductionHypothesis
      exact ⟨inductionHypothesis.1,
        List.forall_mem_cons.mpr ⟨Nat.le_refl _, inductionHypothesis.2⟩⟩
  | @slept lane _ _ time _ inductionHypothesis =>
      have later : lane.now ≤ lane.now + time :=
        Nat.le_add_right _ _
      exact ⟨Nat.le_trans later inductionHypothesis.1,
        fun change member =>
          Nat.le_trans later (inductionHypothesis.2 change member)⟩

/-- Changes are met in order of time. -/
theorem pairwise
    (meets : Meets config lane shown last) :
    shown.Pairwise fun earlier later => earlier.time ≤ later.time := by
  induction meets with
  | rest =>
      exact .nil
  | shown _ _ meets inductionHypothesis =>
      have times := meets.times
      rw [now_answer] at times
      exact .cons times.2 inductionHypothesis
  | slept _ inductionHypothesis =>
      exact inductionHypothesis

/-- What is done with a watch is met by the lane of a lone watcher. -/
theorem of_spares
    {operations : List WatchOperation}
    (alone : lane.configs = [config])
    (spares : ∀ operation ∈ operations, operation.Spares lane.key) :
    Meets config lane
      (WatchOperation.passing lane.functions lane.hasClock lane.key.path
        config lane.now operations)
      (operations.foldl perform lane) := by
  induction operations generalizing lane with
  | nil =>
      exact .rest
  | cons operation operations inductionHypothesis =>
      have sparesLater : ∀ later ∈ operations, later.Spares lane.key :=
        fun later member => spares later (List.mem_cons_of_mem _ member)
      have later :
          ∀ after, Keeps lane after →
            Meets config after
              (WatchOperation.passing lane.functions lane.hasClock
                lane.key.path config after.now operations)
              (operations.foldl perform after) := by
        intro after keeps
        have meets :=
          inductionHypothesis (keeps.configs.trans alone)
            (keeps.key ▸ sparesLater)
        rwa [keeps.key, keeps.hasClock, keeps.functions] at meets
      rw [List.foldl_cons, WatchOperation.passing]
      rcases perform_of_spares alone (spares operation List.mem_cons_self) with
          ⟨firing, isConfig, admitted, performs, passed, time⟩ |
          ⟨slept, performs, passed, time⟩ |
          ⟨performs, passed, time⟩
      · rw [performs, passed, time]
        have meets := later _ (lane.keeps_answer firing)
        rw [now_answer] at meets
        exact .shown isConfig admitted meets
      · rw [performs, passed, time]
        exact .slept (later _ (lane.keeps_runTo _))
      · rw [performs, passed, time]
        exact inductionHypothesis alone sparesLater

end Meets

end Lane

namespace TimedWatch

section

variable
  {timed : TimedWatch}
  (consistent : timed.IsConsistent)

include consistent

/-- Whatever is done with a watch in turn keeps it consistent. -/
theorem IsConsistent.performAll
    {operations : List WatchOperation}
    (sound : ∀ operation ∈ operations, operation.IsSound) :
    (timed.performAll operations).IsConsistent := by
  induction operations generalizing timed with
  | nil =>
      exact consistent
  | cons operation operations inductionHypothesis =>
      exact inductionHypothesis
        (consistent.perform (sound operation List.mem_cons_self))
        fun later member => sound later (List.mem_cons_of_mem _ member)

/-- What is done with a watch is done to the lane of a key alone. -/
theorem lane_performAll_eq_foldl
    (key : TriggerKey)
    {operations : List WatchOperation}
    (sound : ∀ operation ∈ operations, operation.IsSound) :
    (timed.performAll operations).lane key =
      operations.foldl Lane.perform (timed.lane key) := by
  induction operations generalizing timed with
  | nil =>
      rfl
  | cons operation operations inductionHypothesis =>
      have next :=
        consistent.perform (sound operation List.mem_cons_self)
      have later :=
        inductionHypothesis next fun later member =>
          sound later (List.mem_cons_of_mem _ member)
      rw [List.foldl_cons, ← lane_perform consistent]
      exact later

variable
  {path : String}
  {config : WatchConfig}
  (soundConfig : config.action.Sound)
  (many : config.once = false)
  (context : WatchContext)

include soundConfig many

/-- A watcher that is added alone meets what is shown to it from then on. -/
theorem meets_performAll
    (unwatched :
      (timed.lane (.ofConfig (Path.normalize path) config)).configs = [])
    {operations : List WatchOperation}
    (spares :
      ∀ operation ∈ operations,
        operation.Spares (.ofConfig (Path.normalize path) config))
    (sound : ∀ operation ∈ operations, operation.IsSound) :
    let watched := Path.normalize path
    let key := TriggerKey.ofConfig watched config
    let added := timed.add path config context
    Lane.Meets config
      { timed.lane key with
        configs := [config], log := added.firingsOf key }
      (WatchOperation.passing timed.watch.functions timed.hasClock watched
        config timed.agenda.now operations)
      ((added.performAll operations).lane key) := by
  intro watched key added
  have isAdded : added.lane key = (timed.lane key).add config context :=
    (lane_add key timed path config context).trans (if_pos rfl)
  have explicit := (timed.lane key).add_of_many many context
  rw [unwatched, List.nil_append] at explicit
  have log : added.firingsOf key = ((timed.lane key).add config context).log :=
    congrArg Lane.log isAdded
  have start :
      added.lane key =
        { timed.lane key with
          configs := [config], log := added.firingsOf key } := by
    rw [isAdded, log, explicit]
  have run :=
    lane_performAll_eq_foldl (consistent.add path soundConfig context) key
      sound
  change (added.performAll operations).lane key = _ at run
  rw [run, start]
  exact Lane.Meets.of_spares rfl spares

end

end TimedWatch

end Mockup
