import Mockup.Watch.Basic

namespace Mockup

namespace Watch

/-!
# Answering to changes

A change is shown to every watcher it concerns, one after the other.  Each
lets it pass, fires, or asks for a timer that fires later, unless another
change comes first.
-/

/-- What a watcher wants done. -/
inductive Reaction where
  | fire (firing : Firing)
  | arm (delay : Nat) (firing : Firing)
  deriving Repr

/-- When a change is shown, and whether there is a clock for timers. -/
structure Moment where
  now : Nat := 0
  hasClock : Bool := true
  deriving Repr, DecidableEq

/-- The watch after a watcher had its chance to fire, and its reaction. -/
def fireNow
    (watch : Watch)
    (firing : Firing) :
    Watch × Option Reaction :=
  (watch.fire firing).map id fun fired => fired.map Reaction.fire

/-- Whether a watcher lets a change pass unanswered. -/
def ignores
    (watch : Watch)
    (firing : Firing) :
    Bool :=
  (firing.config.once && watch.spent.contains firing.key) ||
    match firing.config.condition with
    | some condition =>
        !WatchCondition.holds watch.functions condition firing.change
          firing.context
    | none =>
        false

/-- How one watcher answers to a change. -/
def react
    (watch : Watch)
    (moment : Moment)
    (firing : Firing) :
    Watch × Option Reaction :=
  if watch.ignores firing then
    (watch, none)
  else
    match WatchConfig.positive? firing.config.debounce with
    | some delay =>
        if moment.hasClock then
          (watch, some (.arm delay firing))
        else
          watch.fireNow firing
    | none =>
        match WatchConfig.positive? firing.config.throttle with
        | some window =>
            if watch.isRested firing.key window moment.now then
              (watch.noteFired firing.key moment.now).fireNow firing
            else
              (watch, none)
        | none =>
            watch.fireNow firing

/-- How watchers answer to a change, in turn. -/
def reactAll
    (moment : Moment)
    (change : StateChange)
    (context : WatchContext) :
    List (String × WatchConfig) → Watch → Watch × List Reaction
  | [], watch =>
      (watch, [])
  | (watched, config) :: others, watch =>
      let (next, reaction) :=
        watch.react moment ⟨watched, config, change, context⟩
      let (last, reactions) := reactAll moment change context others next
      (last, reaction.toList ++ reactions)

/-- Show a change to the watchers it concerns. -/
def notify
    (watch : Watch)
    (moment : Moment)
    (change : StateChange)
    (context : WatchContext) :
    Watch × List Reaction :=
  let path := Path.normalize change.path
  reactAll moment { change with path := path } context
    (watch.concerned path) watch

end Watch

end Mockup
