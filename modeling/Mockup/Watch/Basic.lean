import Mockup.Watch.Condition

namespace Mockup

/-!
# Watchers

Watchers are registered for places of the state.  A segment `*` of a watched
path stands for any one segment.  What a watcher remembers is kept under its
key: the watched path and the kind of its action.
-/

/-- What the memory of watchers is kept under. -/
structure TriggerKey where
  path : String
  kind : String
  deriving Repr, DecidableEq

/-- A watcher with the change it answers to, and what it knew then. -/
structure Firing where
  /-- The path that the watcher is registered for. -/
  watched : String
  config : WatchConfig
  change : StateChange
  context : WatchContext
  deriving Repr

/-- The registered watchers, their memory, and what they may call. -/
structure Watch where
  /-- The watchers of each path, in order of registration. -/
  registered : Entries (List WatchConfig) := []
  /-- When throttled watchers fired last. -/
  lastFired : List (TriggerKey × Nat) := []
  /-- The keys under which watchers that fire only once have fired. -/
  spent : List TriggerKey := []
  /-- The functions that the expressions of watchers may call. -/
  functions : Registry := .defaults

/-- The key of a registration. -/
def TriggerKey.ofConfig
    (path : String)
    (config : WatchConfig) :
    TriggerKey where
  path :=
    path
  kind :=
    config.actionKind

/-- The key of the watcher that fires. -/
def Firing.key
    (firing : Firing) :
    TriggerKey :=
  .ofConfig firing.watched firing.config

namespace Watch

/-- The number of watchers for each watched path. -/
def info
    (watch : Watch) :
    List (String × Nat) :=
  watch.registered.map fun entry => (entry.1, entry.2.length)

/-! ## Matching -/

/-- Whether a pattern stands for a path, segment by segment. -/
def matchesSegments : List String → List String → Bool
  | [], [] =>
      true
  | pattern :: patterns, segment :: segments =>
      (pattern = "*" || pattern = segment) &&
        matchesSegments patterns segments
  | _, _ =>
      false

/-- Whether a watched path stands for other paths than itself. -/
def isPattern
    (path : String) :
    Bool :=
  path.toList.contains '*'

/-- The watchers of one path, each with the path. -/
def withPath
    (entry : String × List WatchConfig) :
    List (String × WatchConfig) :=
  entry.2.map fun config => (entry.1, config)

/--
The watchers that a change concerns: those of the very path first, then those
of patterns for it, each in order of registration.
-/
def concerned
    (watch : Watch)
    (path : String) :
    List (String × WatchConfig) :=
  let exact := watch.registered.filter fun entry => entry.1 = path
  let patterns := watch.registered.filter fun entry =>
    entry.1 ≠ path && isPattern entry.1 &&
      matchesSegments (Path.segments entry.1) (Path.segments path)
  (exact ++ patterns).flatMap withPath

/-! ## Firing -/

/--
Let a watcher fire; one that fires only once does not when its key is spent,
and spends it otherwise.
-/
def fire
    (watch : Watch)
    (firing : Firing) :
    Watch × Option Firing :=
  if firing.config.once then
    if watch.spent.contains firing.key then
      (watch, none)
    else
      ({ watch with spent := watch.spent ++ [firing.key] }, some firing)
  else
    (watch, some firing)

/-- Whether a throttled watcher has rested long enough. -/
def isRested
    (watch : Watch)
    (key : TriggerKey)
    (window now : Nat) :
    Bool :=
  match watch.lastFired.lookup key with
  | some last =>
      window ≤ now - last
  | none =>
      true

/-- Note when a throttled watcher fired. -/
def noteFired
    (watch : Watch)
    (key : TriggerKey)
    (now : Nat) :
    Watch :=
  { watch with
    lastFired :=
      watch.lastFired.filter (fun entry => entry.1 ≠ key) ++
        [(key, now)] }

/-! ## Registering -/

/-- Register a watcher; an immediate one fires at once. -/
def add
    (watch : Watch)
    (path : String)
    (config : WatchConfig)
    (context : WatchContext) :
    Watch × Option Firing :=
  let path := Path.normalize path
  let others := (Entries.get? watch.registered path).getD []
  let added :=
    { watch with
      registered :=
        Entries.insert watch.registered path (others ++ [config]) }
  if config.immediate then
    added.fire ⟨path, config, ⟨path, none, none⟩, context⟩
  else
    (added, none)

/-- Remove the first watcher of a path that is the same as another. -/
def removeFirst
    (config : WatchConfig) :
    List WatchConfig → Option (List WatchConfig)
  | [] =>
      none
  | first :: others =>
      if first.same config then
        some others
      else
        (removeFirst config others).map fun rest => first :: rest

/-- The watchers of a path, none of them when there are none. -/
def setPath
    (watch : Watch)
    (path : String)
    (configs : List WatchConfig) :
    Watch :=
  { watch with
    registered :=
      if configs.isEmpty then
        Entries.erase watch.registered path
      else
        Entries.insert watch.registered path configs }

/--
Remove all watchers of a path; tells how many there were.  What they remember
stays.
-/
def removeAll
    (watch : Watch)
    (path : String) :
    Watch × Nat :=
  let path := Path.normalize path
  let configs := (Entries.get? watch.registered path).getD []
  (watch.setPath path [], configs.length)

/-- Remove one watcher of a path; tells whether there was such a one. -/
def remove
    (watch : Watch)
    (path : String)
    (config : WatchConfig) :
    Watch × Bool :=
  let path := Path.normalize path
  let configs := (Entries.get? watch.registered path).getD []
  match removeFirst config configs with
  | some rest =>
      (watch.setPath path rest, true)
  | none =>
      (watch, false)

/-- Remove the watchers of a path with all they remember. -/
def clearPath
    (watch : Watch)
    (path : String) :
    Watch :=
  let path := Path.normalize path
  { watch with
    registered := Entries.erase watch.registered path,
    lastFired := watch.lastFired.filter fun entry => entry.1.path ≠ path,
    spent := watch.spent.filter fun key => key.path ≠ path }

/-- A watch without any watchers or memory, which may call the same. -/
def clear
    (watch : Watch) :
    Watch where
  functions :=
    watch.functions

end Watch

end Mockup
