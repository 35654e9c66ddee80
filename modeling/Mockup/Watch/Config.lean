import Mockup.Json.Record
import Mockup.Value.Equality

namespace Mockup

/-!
# Watcher registrations

A registration says which action to run when a watched part of the state
changes, and under which condition, how often and how late.
-/

/-- A registration of a watcher. -/
structure WatchConfig where
  /-- The action to run; it may hold expressions. -/
  action : Value
  condition : Option Value := none
  /-- How long a change must stay the last one, in milliseconds. -/
  debounce : Option Nat := none
  /-- How long a watcher rests after it has fired, in milliseconds. -/
  throttle : Option Nat := none
  /-- Whether it fires when it is registered. -/
  immediate : Bool := false
  /-- Whether it fires only once. -/
  once : Bool := false
  deriving Repr

namespace WatchConfig

/-- The kind of the action; an action that is a string is its own kind. -/
def actionKind
    (config : WatchConfig) :
    String :=
  match config.action with
  | .string kind =>
      kind
  | other =>
      ((other.field? "type").bind Value.asString?).getD "unknown"

/-- A time that counts only when it is longer than none at all. -/
def positive? : Option Nat → Option Nat
  | some (time + 1) =>
      some (time + 1)
  | _ =>
      none

/-- Whether two optional values are both absent or the same. -/
def sameOptional : Option Value → Option Value → Bool
  | none, none =>
      true
  | some left, some right =>
      left.same right
  | _, _ =>
      false

/-- Whether two registrations are the same. -/
def same
    (left right : WatchConfig) :
    Bool :=
  left.action.same right.action &&
    sameOptional left.condition right.condition &&
    left.debounce == right.debounce &&
    left.throttle == right.throttle &&
    left.immediate == right.immediate &&
    left.once == right.once

/-- The fields of a written registration, in order. -/
def fieldNames : List String :=
  ["action", "condition", "debounce", "throttle", "immediate", "once"]

/-- Read a registration. -/
def ofJson?
    (json : Json) :
    Option WatchConfig := do
  let fields ← json.record? fieldNames
  let action ← Json.required? fields "action" Json.asValue?
  let condition ← Json.optional? fields "condition" Json.asValue?
  let debounce ← Json.optional? fields "debounce" Json.asCount?
  let throttle ← Json.optional? fields "throttle" Json.asCount?
  let immediate ← Json.defaulted? fields "immediate" false Json.asBool?
  let once ← Json.defaulted? fields "once" false Json.asBool?
  some ⟨action, condition, debounce, throttle, immediate, once⟩

/-- Read a registration from a value; its keys are put in ascending order. -/
def ofValue?
    (value : Value) :
    Option WatchConfig :=
  ofJson? (Json.ofValue value).sorted

/-- Write a registration. -/
def toJson
    (config : WatchConfig) :
    Json :=
  .object
    ([("action", Json.ofValue config.action)] ++
      Json.optionalMember "condition" Json.ofValue config.condition ++
      Json.optionalMember "debounce" Json.ofCount config.debounce ++
      Json.optionalMember "throttle" Json.ofCount config.throttle ++
      [("immediate", .bool config.immediate),
        ("once", .bool config.once)])

/-- A registration as a document value, its keys in ascending order. -/
def toValue
    (config : WatchConfig) :
    Value :=
  .ofJson config.toJson.sorted

end WatchConfig

end Mockup
