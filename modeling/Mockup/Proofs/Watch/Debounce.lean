import Mockup.Proofs.Watch.Alone

namespace Mockup

/-!
# Watchers that wait for quiet

A watcher with a delay fires for a change when the delay has passed without
another change that it admits.  Every such change takes the place of the one
that waits, so of each burst only the last change is fired, with its own path,
values and context, and just when its delay is over.
-/

/-- The same firing, some time later. -/
def LoggedFiring.after
    (fired : LoggedFiring)
    (delay : Nat) :
    LoggedFiring :=
  { fired with time := fired.time + delay }

/--
The firings that last for a delay, each put off by it: the last one, and every
other one that the next one does not come upon before the delay is over.
-/
def lasting
    (delay : Nat) :
    List LoggedFiring → List LoggedFiring
  | [] =>
      []
  | [last] =>
      [last.after delay]
  | first :: next :: others =>
      if first.time + delay ≤ next.time then
        first.after delay :: lasting delay (next :: others)
      else
        lasting delay (next :: others)

/-- A firing lasts that nothing comes upon before the delay is over. -/
theorem lasting_cons_of_le
    {delay : Nat}
    {first : LoggedFiring}
    {later : List LoggedFiring}
    (quiet : ∀ next ∈ later, first.time + delay ≤ next.time) :
    lasting delay (first :: later) =
      first.after delay :: lasting delay later := by
  cases later with
  | nil =>
      rfl
  | cons next others =>
      exact if_pos (quiet next List.mem_cons_self)

/-- A firing does not last that the next one comes upon. -/
theorem lasting_cons_of_lt
    {delay : Nat}
    {first next : LoggedFiring}
    {others : List LoggedFiring}
    (soon : next.time < first.time + delay) :
    lasting delay (first :: next :: others) =
      lasting delay (next :: others) :=
  if_neg (Nat.not_le.mpr soon)

namespace Lane

/-- A watcher with a delay waits after every change that it admits. -/
theorem answer_of_debounced
    {lane : Lane}
    (clock : lane.hasClock = true)
    {firing : Firing}
    (many : firing.config.once = false)
    (admitted :
      firing.config.admits lane.functions firing.change firing.context =
        true)
    {delay : Nat}
    (delays : WatchConfig.positive? firing.config.debounce = some delay) :
    lane.answer firing =
      { lane with pending := some (lane.now + delay, firing) } := by
  simp [answer, ignores_of_many lane many, admitted, delays, clock]

/-- A timer that is due by a time fires when it is due. -/
theorem runTo_of_past
    {lane : Lane}
    {due time : Nat}
    {firing : Firing}
    (pending : lane.pending = some (due, firing))
    (past : due ≤ time)
    (many : firing.config.once = false) :
    lane.runTo time =
      { lane with
        now := time,
        pending := none,
        log := lane.log ++ [⟨due, firing⟩] } := by
  simp [runTo, pending, past, fire_of_many _ many]

/--
A watcher with a delay that meets some changes fires those that last, and the
one that waits already counts among them.
-/
theorem Meets.log_of_debounced
    {config : WatchConfig}
    {lane last : Lane}
    {shown : List LoggedFiring}
    (meets : Meets config lane shown last)
    (clock : lane.hasClock = true)
    (many : config.once = false)
    {delay : Nat}
    (delays : WatchConfig.positive? config.debounce = some delay)
    (positive : 0 < delay)
    (waiting : Option LoggedFiring)
    (own : ∀ one ∈ waiting, one.firing.config = config)
    (pending :
      lane.pending =
        waiting.map fun one => (one.time + delay, one.firing))
    (ahead : ∀ one ∈ waiting, lane.now < one.time + delay) :
    last.log =
      lane.log ++
        (lasting delay (waiting.toList ++ shown)).filter
          fun fired => fired.time ≤ last.now := by
  induction meets generalizing waiting with
  | @rest lane =>
      cases waiting with
      | none =>
          simp [lasting]
      | some one =>
          have notDue := Nat.not_le.mpr (ahead one rfl)
          simp [lasting, LoggedFiring.after, notDue]
  | @shown lane last later firing isConfig admitted _ inductionHypothesis =>
      subst isConfig
      have answers := answer_of_debounced clock many admitted delays
      rw [answers] at inductionHypothesis
      have replaced :=
        inductionHypothesis clock (some ⟨lane.now, firing⟩)
          (by simp) rfl (by simpa using positive)
      rw [replaced]
      cases waiting with
      | none =>
          rfl
      | some one =>
          have soon :
              lasting delay (one :: ⟨lane.now, firing⟩ :: later) =
                lasting delay (⟨lane.now, firing⟩ :: later) :=
            lasting_cons_of_lt (ahead one rfl)
          exact congrArg (lane.log ++ List.filter _ ·) soon.symm
  | @slept lane last later time meets inductionHypothesis =>
      have times := meets.times
      have now : (lane.runTo (lane.now + time)).now = lane.now + time :=
        rfl
      rw [now] at times
      cases waiting with
      | none =>
          have runs : lane.runTo (lane.now + time) =
              { lane with now := lane.now + time } :=
            runTo_of_later (by simp [pending])
          rw [runs] at inductionHypothesis
          exact inductionHypothesis clock none (by simp) pending (by simp)
      | some one =>
          by_cases past : one.time + delay ≤ lane.now + time
          · have oneMany : one.firing.config.once = false := by
              rw [own one rfl]
              exact many
            have runs := runTo_of_past pending past oneMany
            rw [runs] at inductionHypothesis
            have fired :=
              inductionHypothesis clock none (by simp) rfl (by simp)
            have quiet : ∀ next ∈ later, one.time + delay ≤ next.time :=
              fun next member => Nat.le_trans past (times.2 next member)
            have inTime : (one.after delay).time ≤ last.now :=
              Nat.le_trans past times.1
            rw [fired, Option.toList_some, List.singleton_append,
              lasting_cons_of_le quiet, List.filter_cons_of_pos
                (by simpa using inTime), List.append_assoc]
            rfl
          · have runs : lane.runTo (lane.now + time) =
                { lane with now := lane.now + time } := by
              refine runTo_of_later ?_
              rw [pending]
              simpa using past
            rw [runs] at inductionHypothesis
            exact inductionHypothesis clock (some one) own pending
              (by simpa using past)

end Lane

namespace TimedWatch

/--
A watcher with a delay, which is the only one of its key on a watch with a
clock, fires exactly the changes that last for the delay among those that
concern it and meet its condition: each when its delay is over, if the clock
has come that far, and nothing else at any time.
-/
theorem firingsOf_eq_lasting
    {hasClock : Bool}
    {timed : TimedWatch}
    (reached : Reached hasClock timed)
    (clock : timed.hasClock = true)
    (path : String)
    (config : WatchConfig)
    (context : WatchContext)
    (soundConfig : config.action.Sound)
    (alone :
      ∀ other ∈ timed.watch.watchers (Path.normalize path),
        other.actionKind ≠ config.actionKind)
    (many : config.once = false)
    {delay : Nat}
    (delays : config.debounce = some delay)
    (positive : 0 < delay)
    {operations : List WatchOperation}
    (spares :
      ∀ operation ∈ operations,
        operation.Spares (.ofConfig (Path.normalize path) config))
    (sound : ∀ operation ∈ operations, operation.IsSound) :
    let watched := Path.normalize path
    let key := TriggerKey.ofConfig watched config
    let added := timed.add path config context
    let last := added.performAll operations
    let shown :=
      WatchOperation.passing timed.watch.functions true watched config
        timed.agenda.now operations
    last.firingsOf key =
      added.firingsOf key ++
        (lasting delay shown).filter
          fun fired => fired.time ≤ last.agenda.now := by
  intro watched key added last shown
  have consistent := reached.isConsistent
  have unwatched : (timed.lane key).configs = [] :=
    List.filter_eq_nil_iff.mpr fun other member sameKind =>
      alone other member (of_decide_eq_true sameKind)
  have noTimer := pending_lane_eq_none consistent key unwatched
  have meets :=
    meets_performAll consistent soundConfig many context unwatched spares
      sound
  rw [clock] at meets
  have isDelay : WatchConfig.positive? config.debounce = some delay :=
    delays ▸ WatchConfig.positive?_of_pos positive
  exact meets.log_of_debounced clock many isDelay positive none (by simp)
    noTimer (by simp)

/--
Of three changes in a burst, which come by two paths and of which one fails
the condition, the last one is fired, and so is a later one on its own.
-/
theorem firingsOf_eq_lasting_burst :
    let config : WatchConfig :=
      { action := .string "greet"
        condition := some (.map [("$value", .string ""), ("gt", .int 0)])
        debounce := some 5 }
    let change : String → Int64 → WatchOperation := fun path number =>
      .notify ⟨path, some (.int number), none⟩ {}
    let operations : List WatchOperation :=
      [change "user/a" 1, .add "/user/*" parting {}, .advance 3,
        change "user/b" 0, .advance 1, change "user.b" 2, .advance 6,
        change "/user/a" 3, .advance 4, change "/user/a" 0, .advance 9]
    let timed : TimedWatch := {}
    let key := TriggerKey.ofConfig (Path.normalize "user.*") config
    let last := (timed.add "user.*" config {}).performAll operations
    (∀ operation ∈ operations, operation.Spares key) ∧
      (∀ operation ∈ operations, operation.IsSound) ∧
      (last.firingsOf key).map
          (fun fired => (fired.time, fired.firing.change.path)) =
        [(9, "/user/b"), (15, "/user/a")] := by
  intro config change operations timed key last
  have otherKind :
      .ofConfig (Path.normalize "/user/*") parting ≠ key := by
    decide
  have scalar : ∀ text, (Value.string text).Sound :=
    fun _ => Value.Throughout.string_iff.mpr trivial
  have spares : ∀ operation ∈ operations, operation.Spares key := by
    simp [operations, change, WatchOperation.Spares, otherKind]
  have sound : ∀ operation ∈ operations, operation.IsSound := by
    simp [operations, change, WatchOperation.IsSound, parting, scalar]
  have fires :=
    firingsOf_eq_lasting (.fresh : Reached true timed) rfl "user.*" config {}
      (scalar "greet") (by decide) rfl rfl (by decide) spares sound
  refine ⟨spares, sound, (congrArg (List.map _) fires).trans ?_⟩
  decide +kernel

end TimedWatch

end Mockup
