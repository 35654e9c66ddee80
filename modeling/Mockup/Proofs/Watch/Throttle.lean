import Mockup.Proofs.Watch.Alone

namespace Mockup

/-!
# Watchers that rest

A watcher with a window fires for a change at once, and then rests until the
window has passed.  So it fires for the first change that it admits and for
every other one that comes a window after the last one that it fired for, and
passes over all others: this is the *greedy* choice.  What it rests from is
remembered under its key until the key is cleared.
-/

/--
The greedy choice among some firings: each one that comes a window after the
last one chosen, and the first one when none has been chosen before.
-/
def greedy
    (window : Nat) :
    Option Nat → List LoggedFiring → List LoggedFiring
  | _, [] =>
      []
  | last, one :: later =>
      if ∀ time ∈ last, time + window ≤ one.time then
        one :: greedy window (some one.time) later
      else
        greedy window last later

/-! ## The greedy choice -/

section

variable
  {window : Nat}
  {last : Option Nat}
  {shown : List LoggedFiring}

/-- One that comes a window after the last one chosen is chosen. -/
theorem greedy_cons_of_rested
    {one : LoggedFiring}
    (rested : ∀ time ∈ last, time + window ≤ one.time) :
    greedy window last (one :: shown) =
      one :: greedy window (some one.time) shown :=
  if_pos rested

/-- One that comes earlier is not. -/
theorem greedy_cons_of_unrested
    {one : LoggedFiring}
    (unrested : ¬ ∀ time ∈ last, time + window ≤ one.time) :
    greedy window last (one :: shown) = greedy window last shown :=
  if_neg unrested

theorem greedy_sublist :
    (greedy window last shown).Sublist shown := by
  induction shown generalizing last with
  | nil =>
      exact .slnil
  | cons one later inductionHypothesis =>
      by_cases rested : ∀ time ∈ last, time + window ≤ one.time
      · rw [greedy_cons_of_rested rested]
        exact inductionHypothesis.cons_cons one
      · rw [greedy_cons_of_unrested rested]
        exact inductionHypothesis.cons one

/-- What is chosen comes a window after what was chosen before. -/
theorem le_time_of_mem_greedy
    {time : Nat}
    (isLast : time ∈ last)
    {fired : LoggedFiring}
    (chosen : fired ∈ greedy window last shown) :
    time + window ≤ fired.time := by
  induction shown generalizing last time with
  | nil =>
      cases chosen
  | cons one later inductionHypothesis =>
      by_cases rested : ∀ time ∈ last, time + window ≤ one.time
      · rw [greedy_cons_of_rested rested] at chosen
        have first := rested time isLast
        rcases List.mem_cons.mp chosen with rfl | inLater
        · exact first
        · have second := inductionHypothesis rfl inLater
          omega
      · rw [greedy_cons_of_unrested rested] at chosen
        exact inductionHypothesis isLast chosen

/-- Any two that are chosen are a window apart. -/
theorem pairwise_greedy :
    (greedy window last shown).Pairwise
      fun earlier later => earlier.time + window ≤ later.time := by
  induction shown generalizing last with
  | nil =>
      exact .nil
  | cons one later inductionHypothesis =>
      by_cases rested : ∀ time ∈ last, time + window ≤ one.time
      · rw [greedy_cons_of_rested rested]
        exact .cons (fun _ chosen => le_time_of_mem_greedy rfl chosen)
          inductionHypothesis
      · rw [greedy_cons_of_unrested rested]
        exact inductionHypothesis

/-- One that is not chosen comes within a window of one that was. -/
theorem greedy_concat
    (window : Nat)
    (last : Option Nat)
    (earlier : List LoggedFiring)
    (one : LoggedFiring) :
    greedy window last (earlier ++ [one]) =
        greedy window last earlier ++ [one] ∨
      greedy window last (earlier ++ [one]) = greedy window last earlier ∧
        ∃ time,
          (time ∈ last ∨
              ∃ fired ∈ greedy window last earlier, fired.time = time) ∧
            one.time < time + window := by
  induction earlier generalizing last with
  | nil =>
      by_cases rested : ∀ time ∈ last, time + window ≤ one.time
      · exact .inl (greedy_cons_of_rested rested)
      · refine .inr ⟨greedy_cons_of_unrested rested, ?_⟩
        simp only [Classical.not_forall, Nat.not_le] at rested
        obtain ⟨time, isLast, near⟩ := rested
        exact ⟨time, .inl isLast, near⟩
  | cons first earlier inductionHypothesis =>
      rw [List.cons_append]
      by_cases rested : ∀ time ∈ last, time + window ≤ first.time
      · rw [greedy_cons_of_rested rested, greedy_cons_of_rested rested]
        rcases inductionHypothesis (some first.time) with
            chosen | ⟨dropped, time, isChosen, near⟩
        · exact .inl (congrArg (first :: ·) chosen)
        · refine .inr ⟨congrArg (first :: ·) dropped, time, .inr ?_, near⟩
          rcases isChosen with isFirst | ⟨fired, member, isTime⟩
          · exact ⟨first, List.mem_cons_self, Option.some.inj isFirst⟩
          · exact ⟨fired, List.mem_cons_of_mem _ member, isTime⟩
      · rw [greedy_cons_of_unrested rested, greedy_cons_of_unrested rested]
        exact inductionHypothesis last

end

namespace Lane

/-! ## A lone watcher with a window -/

/-- A watcher with a window fires for a change unless it rests. -/
theorem answer_of_throttled
    {lane : Lane}
    {firing : Firing}
    (many : firing.config.once = false)
    (admitted :
      firing.config.admits lane.functions firing.change firing.context =
        true)
    (undelayed : WatchConfig.positive? firing.config.debounce = none)
    {window : Nat}
    (throttles : WatchConfig.positive? firing.config.throttle = some window) :
    lane.answer firing =
      if lane.isRested window then
        { lane with
          lastFired := some lane.now,
          log := lane.log ++ [⟨lane.now, firing⟩] }
      else
        lane := by
  simp [answer, ignores_of_many lane many, admitted, undelayed, throttles,
    fire_of_many _ many]

/-- To have rested is to have fired last a window ago. -/
theorem isRested_iff
    (lane : Lane)
    {window : Nat}
    (positive : 0 < window) :
    lane.isRested window = true ↔
      ∀ time ∈ lane.lastFired, time + window ≤ lane.now := by
  unfold isRested
  cases lane.lastFired with
  | none =>
      simp
  | some last =>
      simp
      omega

/-- A watcher with a window that meets some changes chooses greedily. -/
theorem Meets.log_of_throttled
    {config : WatchConfig}
    {lane last : Lane}
    {shown : List LoggedFiring}
    (meets : Meets config lane shown last)
    (many : config.once = false)
    (undelayed : WatchConfig.positive? config.debounce = none)
    {window : Nat}
    (throttles : WatchConfig.positive? config.throttle = some window)
    (positive : 0 < window)
    (noTimer : lane.pending = none) :
    last.log = lane.log ++ greedy window lane.lastFired shown := by
  induction meets with
  | rest =>
      exact (List.append_nil _).symm
  | @shown lane last later firing isConfig admitted _ inductionHypothesis =>
      subst isConfig
      rw [answer_of_throttled many admitted undelayed throttles]
        at inductionHypothesis
      have rests := isRested_iff lane positive
      by_cases rested : ∀ time ∈ lane.lastFired, time + window ≤ lane.now
      · rw [if_pos (rests.mpr rested)] at inductionHypothesis
        rw [inductionHypothesis noTimer, List.append_assoc,
          greedy_cons_of_rested rested]
        rfl
      · rw [if_neg fun isRested => rested (rests.mp isRested)]
          at inductionHypothesis
        rw [inductionHypothesis noTimer, greedy_cons_of_unrested rested]
  | @slept lane last later time _ inductionHypothesis =>
      have runs : lane.runTo (lane.now + time) =
          { lane with now := lane.now + time } :=
        runTo_of_later (by simp [noTimer])
      rw [runs] at inductionHypothesis
      exact inductionHypothesis noTimer

/-! ## What is remembered under a key -/

/-- No watcher of the key is left, and none is remembered to have fired. -/
structure IsVacant
    (lane : Lane) :
    Prop where
  configs :
    lane.configs = []
  lastFired :
    lane.lastFired = none

theorem lastFired_fire
    (lane : Lane)
    (firing : Firing) :
    (lane.fire firing).lastFired = lane.lastFired := by
  unfold fire
  split <;> rfl

theorem lastFired_runTo
    (lane : Lane)
    (time : Nat) :
    (lane.runTo time).lastFired = lane.lastFired := by
  unfold runTo
  split
  · split
    · exact lastFired_fire _ _
    · rfl
  · rfl

end Lane

namespace WatchOperation

/--
Whether a watcher of a key has been added since the key was last cleared, once
it is known whether it had been before an operation.
-/
def knows
    (key : TriggerKey)
    (known : Bool) :
    WatchOperation → Bool
  | .add path config _ =>
      known || decide (.ofConfig (Path.normalize path) config = key)
  | .clearPath path =>
      known && decide (key.path ≠ Path.normalize path)
  | .clear =>
      false
  | .remove _ _ | .removeAll _ | .notify _ _ | .advance _ =>
      known

/-- Whether a watcher of a key has been added since it was last cleared. -/
def known
    (key : TriggerKey)
    (operations : List WatchOperation) :
    Bool :=
  operations.foldl (knows key) false

end WatchOperation

namespace Lane

/-- A key stays vacant until a watcher is added, and is so when cleared. -/
theorem IsVacant.perform
    {lane : Lane}
    {known : Bool}
    (vacant : known = false → lane.IsVacant)
    {operation : WatchOperation}
    (unknown : operation.knows lane.key known = false) :
    (lane.perform operation).IsVacant := by
  cases operation with
  | add path config context =>
      obtain ⟨unknown, other⟩ := Bool.or_eq_false_iff.mp unknown
      rw [Lane.perform, if_neg (of_decide_eq_false other)]
      exact vacant unknown
  | remove path config =>
      have vacant := vacant unknown
      simp only [Lane.perform, remove, vacant.configs, Watch.removeFirst]
      split <;> exact vacant
  | removeAll path =>
      have vacant := vacant unknown
      simp only [Lane.perform]
      split
      · exact ⟨rfl, vacant.lastFired⟩
      · exact vacant
  | notify change context =>
      have vacant := vacant unknown
      simp only [Lane.perform, answerAll, vacant.configs, List.foldl_nil]
      split <;> exact vacant
  | clearPath path =>
      simp only [Lane.perform]
      split
      · exact ⟨rfl, rfl⟩
      · rename_i other
        exact vacant (by simpa [WatchOperation.knows, other] using unknown)
  | clear =>
      exact ⟨rfl, rfl⟩
  | advance time =>
      have vacant := vacant unknown
      simp only [Lane.perform]
      split
      · exact ⟨(lane.keeps_runTo _).configs.trans vacant.configs,
          (lane.lastFired_runTo _).trans vacant.lastFired⟩
      · exact vacant

end Lane

namespace TimedWatch

/-- A key is vacant unless a watcher has been added since it was cleared. -/
theorem isVacant_performAll
    {timed : TimedWatch}
    (consistent : timed.IsConsistent)
    {key : TriggerKey}
    {known : Bool}
    (vacant : known = false → (timed.lane key).IsVacant)
    {operations : List WatchOperation}
    (sound : ∀ operation ∈ operations, operation.IsSound)
    (unknown :
      operations.foldl (WatchOperation.knows key) known = false) :
    ((timed.performAll operations).lane key).IsVacant := by
  induction operations generalizing timed known with
  | nil =>
      exact vacant unknown
  | cons operation operations inductionHypothesis =>
      refine inductionHypothesis
        (consistent.perform (sound operation List.mem_cons_self)) ?_
        (fun later member => sound later (List.mem_cons_of_mem _ member))
        unknown
      intro unknownYet
      rw [lane_perform consistent]
      exact .perform vacant unknownYet

section

variable
  (path : String)
  {config : WatchConfig}
  (context : WatchContext)
  (soundConfig : config.action.Sound)
  (many : config.once = false)
  (undelayed : WatchConfig.positive? config.debounce = none)
  {window : Nat}
  (throttles : config.throttle = some window)
  (positive : 0 < window)
  {operations : List WatchOperation}
  (spares :
    ∀ operation ∈ operations,
      operation.Spares (.ofConfig (Path.normalize path) config))
  (sound : ∀ operation ∈ operations, operation.IsSound)

include soundConfig many undelayed throttles positive spares sound

/--
A watcher with a window, which is the only one of its key, chooses greedily
from when a watcher of the key is remembered to have fired last.
-/
theorem firingsOf_eq_greedy_since
    {timed : TimedWatch}
    (consistent : timed.IsConsistent)
    (unwatched :
      (timed.lane (.ofConfig (Path.normalize path) config)).configs = []) :
    let watched := Path.normalize path
    let key := TriggerKey.ofConfig watched config
    let added := timed.add path config context
    (added.performAll operations).firingsOf key =
      added.firingsOf key ++
        greedy window (timed.watch.lastFired.lookup key)
          (WatchOperation.passing timed.watch.functions timed.hasClock
            watched config timed.agenda.now operations) := by
  intro watched key added
  have noTimer := pending_lane_eq_none consistent key unwatched
  have meets :=
    meets_performAll consistent soundConfig many context unwatched spares
      sound
  have isWindow : WatchConfig.positive? config.throttle = some window :=
    throttles ▸ WatchConfig.positive?_of_pos positive
  exact meets.log_of_throttled many undelayed isWindow positive noTimer

/--
A watcher with a window is added, after no other one of its key has been since
the key was last cleared, if ever.  Of the changes that concern it and meet its
condition it fires exactly the greedy choice, each at its time.  So any two
that it fires are a window apart, and each one that it does not fire comes
within a window of one that it did.  The firing of an immediate watcher when it
is added answers to no change, and does not count.
-/
theorem firingsOf_eq_greedy
    (functions : Registry)
    (hasClock : Bool)
    {before : List WatchOperation}
    (soundBefore : ∀ operation ∈ before, operation.IsSound)
    (unknown :
      WatchOperation.known (.ofConfig (Path.normalize path) config) before =
        false) :
    let watched := Path.normalize path
    let key := TriggerKey.ofConfig watched config
    let timed := (fresh functions hasClock).performAll before
    let added := timed.add path config context
    let shown :=
      WatchOperation.passing timed.watch.functions timed.hasClock watched
        config timed.agenda.now operations
    let chosen := greedy window none shown
    (added.performAll operations).firingsOf key =
        added.firingsOf key ++ chosen ∧
      chosen.Pairwise
        (fun earlier later => earlier.time + window ≤ later.time) ∧
      ∀ earlier one later, shown = earlier ++ one :: later →
        let fired := greedy window none earlier
        let next := greedy window none (earlier ++ [one])
        next = fired ++ [one] ∨
          next = fired ∧
            ∃ recent ∈ fired,
              recent.time ≤ one.time ∧ one.time < recent.time + window := by
  intro watched key timed added shown chosen
  have consistent : timed.IsConsistent :=
    (IsConsistent.fresh functions hasClock).performAll soundBefore
  have vacant : (timed.lane key).IsVacant :=
    isVacant_performAll (.fresh functions hasClock)
      (fun _ => ⟨rfl, rfl⟩) soundBefore unknown
  have fires :
      (added.performAll operations).firingsOf key =
        added.firingsOf key ++
          greedy window (timed.watch.lastFired.lookup key) shown :=
    firingsOf_eq_greedy_since path context soundConfig many undelayed
      throttles positive spares sound consistent vacant.configs
  have noneFired : timed.watch.lastFired.lookup key = none :=
    vacant.lastFired
  rw [noneFired] at fires
  refine ⟨fires, pairwise_greedy, ?_⟩
  intro earlier one later isShown
  have sorted : shown.Pairwise fun first second => first.time ≤ second.time :=
    (meets_performAll consistent soundConfig many context vacant.configs
      spares sound).pairwise
  rw [isShown] at sorted
  have inOrder := (List.pairwise_append.mp sorted).2.2
  rcases greedy_concat window none earlier one with
      chosen | ⟨dropped, time, isChosen, near⟩
  · exact .inl chosen
  · rcases isChosen with impossible | ⟨recent, member, rfl⟩
    · cases impossible
    · exact .inr ⟨dropped, recent, member,
        inOrder recent (greedy_sublist.subset member) one
          List.mem_cons_self,
        near⟩

end

/--
A watcher is added afresh although one of its key has fired two ticks ago.  It
fires for the first change, drops one that comes at once by another path and
one that comes a tick early, is not held back by one that fails the condition,
and fires when the window has just passed.
-/
theorem firingsOf_eq_greedy_afresh :
    let config : WatchConfig :=
      { action := .string "greet"
        condition := some (.map [("$value", .string ""), ("gt", .int 0)])
        throttle := some 5 }
    let change : String → Int64 → WatchOperation := fun path number =>
      .notify ⟨path, some (.int number), none⟩ {}
    let before : List WatchOperation :=
      [.add "user/*" config {}, change "user/a" 1, .advance 2,
        .clearPath "/user/*"]
    let operations : List WatchOperation :=
      [change "user/a" 2, .add "/user/*" parting {}, change "user.b" 3,
        .advance 4, change "/user/b" 4, .advance 1, change "user/a" 0,
        change "/user/b" 5]
    let timed := ({} : TimedWatch).performAll before
    let key := TriggerKey.ofConfig (Path.normalize "user.*") config
    let last := (timed.add "user.*" config {}).performAll operations
    (∀ operation ∈ before ++ operations, operation.IsSound) ∧
      (∀ operation ∈ operations, operation.Spares key) ∧
      WatchOperation.known key before = false ∧
      (last.firingsOf key).map
          (fun fired => (fired.time, fired.firing.change.path)) =
        [(0, "/user/a"), (2, "/user/a"), (7, "/user/b")] := by
  intro config change before operations timed key last
  have otherKind :
      .ofConfig (Path.normalize "/user/*") parting ≠ key := by
    decide
  have scalar : ∀ text, (Value.string text).Sound :=
    fun _ => Value.Throughout.string_iff.mpr trivial
  have soundBefore : ∀ operation ∈ before, operation.IsSound := by
    simp [before, change, WatchOperation.IsSound, config, scalar]
  have spares : ∀ operation ∈ operations, operation.Spares key := by
    simp [operations, change, WatchOperation.Spares, otherKind]
  have sound : ∀ operation ∈ operations, operation.IsSound := by
    simp [operations, change, WatchOperation.IsSound, parting, scalar]
  have unknown : WatchOperation.known key before = false := by
    decide +kernel
  have fires :=
    (firingsOf_eq_greedy "user.*" {} (scalar "greet") rfl rfl rfl
      (by decide) spares sound .defaults true soundBefore unknown).1
  refine ⟨List.forall_mem_append.mpr ⟨soundBefore, sound⟩, spares, unknown,
    (congrArg (List.map _) fires).trans ?_⟩
  decide +kernel

end TimedWatch

end Mockup
