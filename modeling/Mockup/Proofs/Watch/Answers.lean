import Mathlib.Algebra.GroupWithZero.Nat
import Mockup.Watch.Notify

namespace Mockup

namespace Watch

/-!
# What answers a change

Every watcher answers a change at most once, and with the change and the
context that it was shown.  Showing a change alters what watchers remember,
but neither which watchers there are nor what they may call.
-/

/-- How many watchers are registered. -/
def size
    (watch : Watch) :
    Nat :=
  (watch.registered.map fun entry => entry.2.length).sum

namespace Reaction

/-- The firing that a watcher wants, now or later. -/
def firing : Reaction → Firing
  | .fire firing =>
      firing
  | .arm _ firing =>
      firing

@[simp] theorem firing_fire
    (firing : Firing) :
    (fire firing).firing = firing :=
  rfl

@[simp] theorem firing_arm
    (delay : Nat)
    (firing : Firing) :
    (arm delay firing).firing = firing :=
  rfl

end Reaction

/-! ## The watchers that there are -/

/-- Two watches differ in nothing but what their watchers remember. -/
structure Resembles
    (before after : Watch) :
    Prop where
  registered :
    after.registered = before.registered
  functions :
    after.functions = before.functions

namespace Resembles

theorem refl
    (watch : Watch) :
    watch.Resembles watch :=
  ⟨rfl, rfl⟩

theorem trans
    {first second third : Watch}
    (earlier : first.Resembles second)
    (later : second.Resembles third) :
    first.Resembles third :=
  ⟨later.registered.trans earlier.registered,
    later.functions.trans earlier.functions⟩

end Resembles

theorem resembles_fire
    (watch : Watch)
    (firing : Firing) :
    watch.Resembles (watch.fire firing).1 := by
  unfold fire
  split
  · split
    · exact .refl watch
    · exact ⟨rfl, rfl⟩
  · exact .refl watch

/-- A watcher that fires does so with what it was shown. -/
theorem eq_of_fire
    {watch after : Watch}
    {firing fired : Firing}
    (fires : watch.fire firing = (after, some fired)) :
    fired = firing := by
  unfold fire at fires
  split at fires
  · split at fires <;> cases fires
    rfl
  · cases fires
    rfl

theorem firing_of_mem_fireNow
    {watch : Watch}
    {firing : Firing}
    {reaction : Reaction}
    (wanted : reaction ∈ (watch.fireNow firing).2) :
    reaction.firing = firing := by
  obtain ⟨fired, fires, rfl⟩ := Option.map_eq_some_iff.mp wanted
  have whole :
      watch.fire firing = ((watch.fire firing).1, some fired) :=
    Prod.ext rfl fires
  exact eq_of_fire whole

/-- How a watcher answers changes only what it remembers. -/
theorem resembles_react
    (watch : Watch)
    (moment : Moment)
    (firing : Firing) :
    watch.Resembles (watch.react moment firing).1 := by
  have noted :
      watch.Resembles (watch.noteFired firing.key moment.now) :=
    ⟨rfl, rfl⟩
  unfold react
  split
  · exact .refl watch
  · split
    · split
      · exact .refl watch
      · exact resembles_fire watch firing
    · split
      · split
        · exact noted.trans (resembles_fire _ firing)
        · exact .refl watch
      · exact resembles_fire watch firing

/-- A watcher answers with what it was shown. -/
theorem firing_of_mem_react
    {watch : Watch}
    {moment : Moment}
    {firing : Firing}
    {reaction : Reaction}
    (wanted : reaction ∈ (watch.react moment firing).2) :
    reaction.firing = firing := by
  unfold react at wanted
  split at wanted
  · cases wanted
  · split at wanted
    · split at wanted
      · cases wanted
        rfl
      · exact firing_of_mem_fireNow wanted
    · split at wanted
      · split at wanted
        · exact firing_of_mem_fireNow wanted
        · cases wanted
      · exact firing_of_mem_fireNow wanted

/-! ## Watchers in turn -/

section

variable
  (moment : Moment)
  (change : StateChange)
  (context : WatchContext)

theorem resembles_reactAll
    (watchers : List (String × WatchConfig))
    (watch : Watch) :
    watch.Resembles
      (reactAll moment change context watchers watch).1 := by
  induction watchers generalizing watch with
  | nil =>
      exact .refl watch
  | cons watcher watchers inductionHypothesis =>
      exact (resembles_react watch moment _).trans
        (inductionHypothesis _)

/-- No watcher answers twice. -/
theorem length_reactAll_le
    (watchers : List (String × WatchConfig))
    (watch : Watch) :
    (reactAll moment change context watchers watch).2.length ≤
      watchers.length := by
  induction watchers generalizing watch with
  | nil =>
      exact Nat.le_refl _
  | cons watcher watchers inductionHypothesis =>
      let answer :=
        watch.react moment ⟨watcher.1, watcher.2, change, context⟩
      have others := inductionHypothesis answer.1
      have once : answer.2.toList.length ≤ 1 := by
        cases answer.2 <;> simp
      change
        (answer.2.toList ++
          (reactAll moment change context watchers answer.1).2).length ≤
            watchers.length + 1
      rw [List.length_append]
      omega

/-- All watchers answer to the same change. -/
theorem firing_of_mem_reactAll
    {watchers : List (String × WatchConfig)}
    {watch : Watch}
    {reaction : Reaction}
    (wanted :
      reaction ∈ (reactAll moment change context watchers watch).2) :
    reaction.firing.change = change ∧
      reaction.firing.context = context := by
  induction watchers generalizing watch with
  | nil =>
      cases wanted
  | cons watcher watchers inductionHypothesis =>
      rw [reactAll, List.mem_append, Option.mem_toList] at wanted
      rcases wanted with own | other
      · rw [firing_of_mem_react own]
        exact ⟨rfl, rfl⟩
      · exact inductionHypothesis other

end

/-! ## Showing a change -/

/-- The watchers that a change concerns are among the registered ones. -/
theorem length_concerned_le
    (watch : Watch)
    (path : String) :
    (watch.concerned path).length ≤ watch.size := by
  -- A watched path is the very path or a pattern for it, but not both.
  have exclusive :
      ∀ (entries : Entries (List WatchConfig)) (exact pattern :
          String × List WatchConfig → Bool),
        (∀ entry, exact entry = true → pattern entry = false) →
        ((entries.filter exact ++ entries.filter pattern).flatMap
            withPath).length ≤
          (entries.map fun entry => entry.2.length).sum := by
    intro entries exact pattern excludes
    induction entries with
    | nil =>
        simp
    | cons entry entries inductionHypothesis =>
        simp only [List.flatMap_append, List.length_append]
          at inductionHypothesis ⊢
        have own : (withPath entry).length = entry.2.length := by
          simp [withPath]
        cases isExact : exact entry with
        | true =>
            have noPattern := excludes entry isExact
            simp only [List.filter_cons, isExact, noPattern, if_true,
              List.flatMap_cons, List.length_append, own, List.map_cons,
              List.sum_cons, Bool.false_eq_true, if_false]
            omega
        | false =>
            cases isPattern : pattern entry <;>
              simp only [List.filter_cons, isExact, isPattern, if_true,
                List.flatMap_cons, List.length_append, own,
                List.map_cons, List.sum_cons, Bool.false_eq_true,
                if_false] <;>
              omega
  refine exclusive _ _ _ ?_
  intro entry isExact
  simp only [decide_eq_true_eq] at isExact
  simp [isExact]

variable
  (watch : Watch)
  (moment : Moment)
  (change : StateChange)
  (context : WatchContext)

/-- Showing a change leaves the registered watchers as they are. -/
theorem resembles_notify :
    watch.Resembles (watch.notify moment change context).1 :=
  resembles_reactAll _ _ _ _ _

/-- A change has no more answers than there are watchers. -/
theorem length_notify_le :
    (watch.notify moment change context).2.length ≤ watch.size :=
  Nat.le_trans (length_reactAll_le _ _ _ _ _)
    (length_concerned_le watch _)

/-- The answers are to the change that was shown, at its proper path. -/
theorem firing_of_mem_notify
    {reaction : Reaction}
    (wanted : reaction ∈ (watch.notify moment change context).2) :
    reaction.firing.change =
        { change with path := Path.normalize change.path } ∧
      reaction.firing.context = context :=
  firing_of_mem_reactAll _ _ _ wanted

end Watch

end Mockup
