import Mockup.Value.Equality

namespace Mockup

/-!
# Comparisons

A condition compares its subject with an operand.  Equality is strict, order
is loose: two strings compare by code points, everything else by its loose
numeric reading.  The subject may be undefined.
-/

/-- The ways to compare a subject with an operand. -/
inductive Relation where
  | equal
  | notEqual
  | greater
  | greaterOrEqual
  | less
  | lessOrEqual
  deriving Repr, DecidableEq

namespace Relation

/-- The key that selects a relation in a condition. -/
def key : Relation → String
  | .equal =>
      "eq"
  | .notEqual =>
      "not"
  | .greater =>
      "gt"
  | .greaterOrEqual =>
      "gte"
  | .less =>
      "lt"
  | .lessOrEqual =>
      "lte"

/-- The relations in the order in which a condition is searched for them. -/
def byPriority : List Relation :=
  [.equal, .notEqual, .greater, .greaterOrEqual, .less, .lessOrEqual]

end Relation

/-- A relation with its operand. -/
structure Comparison where
  relation : Relation
  operand : Value
  deriving Repr

namespace Comparison

/-- The first of some relations that a condition has a key for. -/
def firstOf?
    (fields : Entries Value) :
    List Relation → Option Comparison
  | [] =>
      none
  | relation :: others =>
      match Entries.get? fields relation.key with
      | some operand =>
          some ⟨relation, operand⟩
      | none =>
          firstOf? fields others

/-- The comparison of a condition: only the first of its relations counts. -/
def ofFields?
    (fields : Entries Value) :
    Option Comparison :=
  firstOf? fields Relation.byPriority

/-- The comparison of a condition that may not be a map. -/
def ofValue?
    (condition : Value) :
    Option Comparison :=
  condition.asMap?.bind ofFields?

/-- The loose order of two values, none when they have none. -/
def order?
    (subject operand : Value) :
    Option Ordering :=
  match subject, operand with
  | .string left, .string right =>
      some (compare left right)
  | _, _ =>
      match subject.toNumber?, operand.toNumber? with
      | some left, some right =>
          left.order? right
      | _, _ =>
          none

/-- Whether a subject stands in an accepted order to the operand. -/
def ordered
    (subject : Option Value)
    (operand : Value)
    (accepted : Ordering → Bool) :
    Bool :=
  match subject with
  | none =>
      false
  | some value =>
      ((order? value operand).map accepted).getD false

/-- Whether a subject is defined and strictly equal to the operand. -/
def isEqual
    (subject : Option Value)
    (operand : Value) :
    Bool :=
  match subject with
  | none =>
      false
  | some value =>
      value.strictEq operand

/-- Whether a comparison holds of a possibly undefined subject. -/
def holds
    (comparison : Comparison)
    (subject : Option Value) :
    Bool :=
  match comparison.relation with
  | .equal =>
      isEqual subject comparison.operand
  | .notEqual =>
      !isEqual subject comparison.operand
  | .greater =>
      ordered subject comparison.operand (· == .gt)
  | .greaterOrEqual =>
      ordered subject comparison.operand (· != .lt)
  | .less =>
      ordered subject comparison.operand (· == .lt)
  | .lessOrEqual =>
      ordered subject comparison.operand (· != .gt)

end Comparison

/-- Whether a possibly undefined value counts as true. -/
def holdsAlone
    (subject : Option Value) :
    Bool :=
  match subject with
  | none =>
      false
  | some value =>
      value.isTruthy

/-- Whether a subject passes: by the comparison, or by its own truth. -/
def passes
    (subject : Option Value)
    (comparison : Option Comparison) :
    Bool :=
  match comparison with
  | some present =>
      present.holds subject
  | none =>
      holdsAlone subject

end Mockup
