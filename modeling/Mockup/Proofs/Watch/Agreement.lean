import Mockup.Proofs.Expression.Arranged
import Mockup.Visibility
import Mockup.Watch.Condition

namespace Mockup

/-!
# Conditions on a place of the state

Visibility, choices and watchers each read conditions in their own way.  On a
condition that names a place of the state, and that neither names the values
of a change nor asks whether something exists, they give the same answer: the
place, if the condition names one by a text, is compared by the first of the
condition's relations, or counts by its own truth.
-/

/-- Comparisons look at a condition under the keys of the relations only. -/
theorem Comparison.ofFields?_congr
    {left right : Entries Value}
    (same :
      ∀ relation : Relation,
        Entries.get? left relation.key = Entries.get? right relation.key) :
    ofFields? left = ofFields? right := by
  have first :
      ∀ relations,
        firstOf? left relations = firstOf? right relations := by
    intro relations
    induction relations with
    | nil =>
        rfl
    | cons relation relations inductionHypothesis =>
        rw [firstOf?, firstOf?, same, inductionHypothesis]
  exact first Relation.byPriority

/-! ## The common answer -/

/--
A condition names a place of the state; it names no value of a change, and
does not ask whether something exists.
-/
structure IsOnState
    (fields : Entries Value)
    (operand : Value) :
    Prop where
  place :
    Entries.get? fields "$state" = some operand
  noNew :
    Entries.get? fields "$value" = none
  noOld :
    Entries.get? fields "$oldValue" = none
  unasked :
    Entries.get? fields "exists" = none

namespace Environment

/-- The value at the place that an operand names; only a text names one. -/
def named?
    (environment : Environment) : Value → Option Value
  | .string path =>
      environment.resolve? path
  | _ =>
      none

/-- The answer to a condition on the place that an operand names. -/
def answer
    (environment : Environment)
    (operand : Value)
    (fields : Entries Value) :
    Bool :=
  passes (environment.named? operand) (Comparison.ofFields? fields)

/-- The functions of an environment do not matter to the answer. -/
theorem answer_congr
    {left right : Environment}
    (same : left.state = right.state)
    (operand : Value)
    (fields : Entries Value) :
    left.answer operand fields = right.answer operand fields := by
  unfold answer
  cases operand <;> simp [named?, resolve?, same]

end Environment

/-! ## Three readings -/

/-- Visibility answers a condition on a place of the state. -/
theorem Visibility.holds_eq_answer
    (environment : Environment)
    {fields : Entries Value}
    {operand : Value}
    (onState : IsOnState fields operand) :
    Visibility.holds environment (.map fields) =
      environment.answer operand fields := by
  have place : (Value.map fields).field? "$state" = some operand :=
    onState.place
  have comparison :
      Comparison.ofValue? (.map fields) = Comparison.ofFields? fields :=
    rfl
  rw [Environment.answer, holds, place, comparison]
  cases operand <;> rfl

namespace Environment

/-- The expression for a place of the state. -/
def place
    (operand : Value) :
    Value :=
  .map [("$state", operand)]

/-- The value of the expression for a place is the value that is there. -/
theorem evaluate_place
    (environment : Environment)
    (operand : Value) :
    environment.evaluate (place operand) =
      environment.named? operand := by
  cases operand <;>
    simp [evaluate, place, Expression.ofValue, Entries.get?,
      Expression.eval, named?]

/-- Whether a key selects a relation. -/
def isRelationKey
    (key : String) :
    Bool :=
  Relation.byPriority.any fun relation => relation.key = key

/--
The choice between true and false by a condition on a place: it takes over
the relations of the condition, and nothing else.
-/
def choiceFields
    (operand : Value)
    (fields : Entries Value) :
    Entries Value :=
  ("$cond", place operand) ::
    (fields.filter fun entry => isRelationKey entry.1) ++
      [("$then", .bool true), ("$else", .bool false)]

/-- What a choice has under a key. -/
theorem get?_choiceFields
    (operand : Value)
    (fields : Entries Value)
    (key : String) :
    Entries.get? (choiceFields operand fields) key =
      if key = "$cond" then
        some (place operand)
      else
        (if isRelationKey key then Entries.get? fields key else none).or
          (Entries.get?
            [("$then", Value.bool true), ("$else", Value.bool false)]
            key) := by
  rw [choiceFields, List.cons_append, Entries.get?, Entries.get?_append,
    Entries.get?_filter]
  simp only [eq_comm]

/-- A choice is true or false by the answer to its condition. -/
theorem evaluate_choice
    (environment : Environment)
    (operand : Value)
    (fields : Entries Value) :
    environment.evaluate (.map (choiceFields operand fields)) =
      some (.bool (environment.answer operand fields)) := by
  have looked := get?_choiceFields operand fields
  have noPlace :
      Entries.get? (choiceFields operand fields) "$state" = none := by
    rw [looked]
    rfl
  have condition :
      Entries.get? (choiceFields operand fields) "$cond" =
        some (place operand) :=
    looked "$cond"
  have whenTrue :
      Entries.get? (choiceFields operand fields) "$then" =
        some (.bool true) := by
    rw [looked]
    rfl
  have whenFalse :
      Entries.get? (choiceFields operand fields) "$else" =
        some (.bool false) := by
    rw [looked]
    rfl
  have comparison :
      Comparison.ofFields? (choiceFields operand fields) =
        Comparison.ofFields? fields := by
    refine Comparison.ofFields?_congr fun relation => ?_
    rw [looked]
    cases relation <;>
      simp [isRelationKey, Relation.byPriority, Relation.key,
        Entries.get?]
  have chosen (answer : Bool) :
      Expression.evalBranch environment
          (some (Expression.ofValue (.bool answer))) =
        some (.bool answer) :=
    rfl
  rw [evaluate, Expression.ofValue, noPlace]
  simp only [Expression.ofField?_eq, condition, whenTrue, whenFalse,
    comparison, Option.map_some, Expression.eval]
  have subject :
      (Expression.ofValue (Environment.place operand)).eval environment =
        environment.named? operand :=
    evaluate_place environment operand
  have isAnswer :
      passes (environment.named? operand)
          (Comparison.ofFields? fields) =
        environment.answer operand fields :=
    rfl
  rw [chosen, chosen, subject, isAnswer]
  cases environment.answer operand fields <;> rfl

end Environment

namespace WatchCondition

/-- A subject that is not asked for is compared, or counts by itself. -/
theorem meets_eq_passes
    {fields : Entries Value}
    (unasked : Entries.get? fields "exists" = none)
    (subject : Option Value) :
    meets fields subject =
      passes subject (Comparison.ofFields? fields) := by
  unfold meets passes
  split <;> simp [*]

/-- A watcher answers a condition on a place of the injected state. -/
theorem holds_eq_answer
    (functions : Registry)
    (change : StateChange)
    (context : WatchContext)
    {fields : Entries Value}
    {operand : Value}
    (onState : IsOnState fields operand) :
    holds functions (.map fields) change context =
      (change.environment functions context).answer operand fields := by
  have own : (Value.map fields).entries = fields :=
    rfl
  rw [Environment.answer]
  simp only [holds, own, onState.noNew, onState.noOld, onState.place]
  cases operand <;> exact meets_eq_passes onState.unasked _

end WatchCondition

/-! ## Agreement -/

/--
Visibility, choices and watchers agree on conditions on the state, whatever
their operands, relations and other keys are, and whatever functions they
have: the value that is named passes, or it does not.  A watcher that is shown
values reads them as part of the state.
-/
theorem conditions_agree
    {environment : Environment}
    {tree fields : Entries Value}
    {operand : Value}
    (isMap : environment.state = .map tree)
    (onState : IsOnState fields operand)
    (functions : Registry)
    (path : String)
    (depth : Nat) :
    let condition := Value.map fields
    let choice := Value.map (Environment.choiceFields operand fields)
    let context : WatchContext := ⟨environment.state, depth⟩
    let answer := environment.answer operand fields
    Visibility.holds environment condition = answer ∧
      holdsAlone (environment.evaluate choice) = answer ∧
      WatchCondition.holds functions condition ⟨path, none, none⟩ context =
        answer ∧
      ∀ (new old : Option Value) (injected : Environment),
        injected.state =
            (StateChange.mk path new old).overlay environment.state →
        WatchCondition.holds functions condition ⟨path, new, old⟩ context =
          Visibility.holds injected condition := by
  intro condition choice context answer
  have visible := Visibility.holds_eq_answer environment onState
  have shown (change : StateChange) (injected : Environment)
      (same : injected.state = change.overlay environment.state) :
      WatchCondition.holds functions condition change context =
        Visibility.holds injected condition := by
    rw [WatchCondition.holds_eq_answer functions change context onState,
      Visibility.holds_eq_answer injected onState]
    exact Environment.answer_congr same.symm operand fields
  refine ⟨visible, ?_, ?_, fun new old => shown ⟨path, new, old⟩⟩
  · rw [Environment.evaluate_choice]
    rfl
  · -- Without values, nothing is laid over a state that is a map.
    refine (shown ⟨path, none, none⟩ environment ?_).trans visible
    rw [isMap]
    rfl

/-- A condition on the changed value itself, with a relation that is ignored. -/
def onNewValue : Entries Value :=
  [("label", .string "full?"), ("lt", .null),
    ("$state", .string "/value/kind"), ("eq", .string "full")]

/-- Only a watcher that is shown the value finds the condition to hold. -/
theorem conditions_agree_onNewValue :
    let environment : Environment :=
      { state := .map [("value", .string "none")] }
    let shown : Value := .map [("kind", .string "full")]
    let condition := Value.map onNewValue
    let context : WatchContext := ⟨environment.state, 0⟩
    let choice :=
      Value.map
        (Environment.choiceFields (.string "/value/kind") onNewValue)
    IsOnState onNewValue (.string "/value/kind") ∧
      Visibility.holds environment condition = false ∧
      holdsAlone (environment.evaluate choice) = false ∧
      WatchCondition.holds .defaults condition ⟨"/cart", none, none⟩
          context =
        false ∧
      WatchCondition.holds .defaults condition ⟨"/cart", some shown, none⟩
          context =
        true := by
  intro environment shown condition context choice
  have onState : IsOnState onNewValue (.string "/value/kind") :=
    ⟨rfl, rfl, rfl, rfl⟩
  have isMap : environment.state = .map [("value", .string "none")] :=
    rfl
  obtain ⟨visible, chosen, unchanged, changed⟩ :=
    conditions_agree isMap onState .defaults "/cart" 0
  have isHidden : Visibility.holds environment condition = false := by
    decide +kernel
  have isFalse := visible.symm.trans isHidden
  let injected : Environment :=
    { state :=
        (StateChange.mk "/cart" (some shown) none).overlay
          environment.state }
  have isShown : Visibility.holds injected condition = true := by
    decide +kernel
  exact
    ⟨onState, isHidden, chosen.trans isFalse, unchanged.trans isFalse,
      (changed (some shown) none injected rfl).trans isShown⟩

end Mockup
