import Mockup.Expression.Evaluation
import Mockup.Watch.Config

namespace Mockup

/-!
# Conditions of watchers

A watcher may ask for a condition on a change.  The condition sees the state
with the new and the old value laid over it, and may select a part of either
value, or a place of the state, as the subject of a comparison.  Any other
condition is an expression.
-/

/-- A change of the state at a place; a value may be undefined. -/
structure StateChange where
  path : String
  new : Option Value := none
  old : Option Value := none
  deriving Repr

/-- What a watcher knows besides the change itself. -/
structure WatchContext where
  /-- The state when the change was made. -/
  state : Value := .null
  /-- How deep in a cascade the change was made. -/
  depth : Nat := 0
  deriving Repr

namespace StateChange

/-- A state with the new and the old value laid over it. -/
def overlay
    (change : StateChange)
    (state : Value) :
    Value :=
  let withNew := Entries.insertSome state.entries "newValue" change.new
  let withValue := Entries.insertSome withNew "value" change.new
  .map (Entries.insertSome withValue "oldValue" change.old)

/-- The environment in which a watcher evaluates expressions. -/
def environment
    (change : StateChange)
    (functions : Registry)
    (context : WatchContext) :
    Environment where
  state :=
    change.overlay context.state
  functions :=
    functions

end StateChange

namespace WatchCondition

/-- The part of a value that a selector names. -/
def select?
    (environment : Environment)
    (base : Option Value) :
    Value → Option Value
  | .string path =>
      if path = "" then
        base
      else
        base.bind fun value => Path.resolveSlash? value path
  | .list items =>
      environment.evaluate (.list items)
  | .map fields =>
      environment.evaluate (.map fields)
  | _ =>
      base

/-- Whether a subject is present: defined, and not null. -/
def isPresent : Option Value → Bool
  | none =>
      false
  | some value =>
      !value.isNull

/-- Whether a subject meets a condition: compared, asked for, or true. -/
def meets
    (condition : Entries Value)
    (subject : Option Value) :
    Bool :=
  match Comparison.ofFields? condition with
  | some comparison =>
      comparison.holds subject
  | none =>
      match Entries.get? condition "exists" with
      | some (.bool false) =>
          !isPresent subject
      | some _ =>
          isPresent subject
      | none =>
          holdsAlone subject

/-- Whether a condition that may call functions holds of a change. -/
def holds
    (functions : Registry)
    (condition : Value)
    (change : StateChange)
    (context : WatchContext) :
    Bool :=
  let environment := change.environment functions context
  let fields := condition.entries
  match Entries.get? fields "$value" with
  | some selector =>
      meets fields (select? environment change.new selector)
  | none =>
      match Entries.get? fields "$oldValue" with
      | some selector =>
          meets fields (select? environment change.old selector)
      | none =>
          match Entries.get? fields "$state" with
          | some (.string path) =>
              meets fields (environment.resolve? path)
          | some _ =>
              meets fields none
          | none =>
              holdsAlone (environment.evaluate condition)

end WatchCondition

end Mockup
