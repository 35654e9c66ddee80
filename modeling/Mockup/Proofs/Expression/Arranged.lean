import Mockup.Expression.Evaluation
import Mockup.Proofs.Value.Arranged

namespace Mockup

/-!
# Expressions with their keys in ascending order

Which key stands first tells in few places of an expression: among the
arguments of a call when they are given by name, in the text of a value that
names a function, and in the value of a plain map.  An expression that is
*steady* leaves these places as they are when its keys are put in ascending
order, and then it has the same value.
-/

open Value (Agrees IsPortable Portable)

/-! ## Parts of expressions -/

namespace Expression

theorem ofItems_eq_map
    (items : List Value) :
    ofItems items = items.map ofValue := by
  induction items with
  | nil =>
      rfl
  | cons item items inductionHypothesis =>
      rw [ofItems, inductionHypothesis, List.map_cons]

theorem ofFields_eq_mapValues
    (fields : Entries Value) :
    ofFields fields = Entries.mapValues ofValue fields := by
  induction fields with
  | nil =>
      rfl
  | cons field fields inductionHypothesis =>
      rw [ofFields, inductionHypothesis]
      rfl

theorem valuesOf_eq_map
    (fields : Entries Value) :
    valuesOf fields = (Entries.values fields).map ofValue := by
  induction fields with
  | nil =>
      rfl
  | cons field fields inductionHypothesis =>
      rw [valuesOf, inductionHypothesis]
      rfl

theorem ofField?_eq
    (key : String)
    (fields : Entries Value) :
    ofField? key fields = (Entries.get? fields key).map ofValue := by
  induction fields with
  | nil =>
      rfl
  | cons field fields inductionHypothesis =>
      rw [ofField?, Entries.get?, inductionHypothesis]
      split <;> rfl

theorem argumentsOfField?_eq
    (key : String)
    (fields : Entries Value) :
    argumentsOfField? key fields =
      (Entries.get? fields key).map argumentsOf := by
  induction fields with
  | nil =>
      rfl
  | cons field fields inductionHypothesis =>
      rw [argumentsOfField?, Entries.get?, inductionHypothesis]
      split <;> rfl

variable (environment : Environment)

theorem evalItems_eq_map
    (items : List Expression) :
    evalItems environment items =
      items.map fun item => (eval environment item).getD .null := by
  induction items with
  | nil =>
      rfl
  | cons item items inductionHypothesis =>
      rw [evalItems, inductionHypothesis, List.map_cons]

theorem evalFields_eq_filterMap
    (fields : Entries Expression) :
    evalFields environment fields =
      fields.filterMap fun field =>
        (eval environment field.2).map (Prod.mk field.1) := by
  induction fields with
  | nil =>
      rfl
  | cons field fields inductionHypothesis =>
      rw [evalFields, List.filterMap_cons, inductionHypothesis]
      cases eval environment field.2 <;> rfl

/-- Under a key stands the value of the expression there. -/
theorem get?_evalFields
    {fields : Entries Expression}
    (distinct : (Entries.names fields).Nodup)
    (key : String) :
    Entries.get? (evalFields environment fields) key =
      (Entries.get? fields key).bind (eval environment) := by
  induction fields with
  | nil =>
      rfl
  | cons field fields inductionHypothesis =>
      rcases field with ⟨name, expression⟩
      rw [Entries.names_cons, List.nodup_cons] at distinct
      have rest := inductionHypothesis distinct.2
      rw [evalFields]
      by_cases same : name = key
      · have absent : Entries.get? fields key = none :=
          Entries.get?_eq_none_iff.mpr (same ▸ distinct.1)
        rw [absent] at rest
        cases evaluated : eval environment expression with
        | none =>
            simp [Entries.get?, same, rest, evaluated]
        | some value =>
            simp [Entries.get?, same, evaluated]
      · cases eval environment expression with
        | none =>
            simp [Entries.get?, same, rest]
        | some value =>
            simp [Entries.get?, same, rest]

end Expression

/-! ## Values that are alike -/

namespace Value

/-- The same value, in the given order of keys or in any. -/
def Alike
    (inOrder : Bool)
    (left right : Value) :
    Prop :=
  Agrees Eq left right ∧ (inOrder = true → left = right)

variable {inOrder : Bool}

theorem Alike.refl
    (value : Value) :
    Alike inOrder value value := by
  refine ⟨Agrees.refl_of ?_, fun _ => rfl⟩
  induction value using induction_on_parts with
  | step value inductionHypothesis =>
      exact .intro (fun _ => rfl) inductionHypothesis

theorem Alike.list
    {lefts rights : List Value}
    (items : List.Forall₂ (Alike inOrder) lefts rights) :
    Alike inOrder (.list lefts) (.list rights) := by
  refine ⟨Agrees.list_iff.mpr (items.imp fun _ _ alike => alike.1), ?_⟩
  intro isInOrder
  have same : List.Forall₂ Eq lefts rights :=
    items.imp fun _ _ alike => alike.2 isInOrder
  rw [List.forall₂_eq_eq_eq] at same
  rw [same]

/-- Results that are alike in order are equal. -/
theorem eq_of_alike
    {left right : Option Value}
    (alike : Option.Rel (Alike true) left right) :
    left = right := by
  cases alike with
  | none =>
      rfl
  | some same =>
      rw [same.2 rfl]

theorem alike_of_eq
    {left right : Option Value}
    (same : left = right) :
    Option.Rel (Alike inOrder) left right := by
  subst same
  cases left with
  | none =>
      exact .none
  | some value =>
      exact .some (.refl value)

end Value

/-! ## Comparisons -/

namespace Comparison

/-- A comparison does not see in which order the operand's keys stand. -/
theorem holds_arranged
    (relation : Relation)
    {operand : Value}
    (portable : operand.Portable)
    (subject : Option Value) :
    holds ⟨relation, operand.arranged⟩ subject =
      holds ⟨relation, operand⟩ subject := by
  have sameEqual :
      isEqual subject operand.arranged = isEqual subject operand := by
    cases subject with
    | none =>
        rfl
    | some value =>
        exact value.strictEq_arranged portable
  have sameOrder :
      ∀ value : Value,
        order? value operand.arranged = order? value operand := by
    intro value
    cases operand with
    | list items =>
        rw [Value.arranged_list]
        cases value <;> rfl
    | map fields =>
        rw [Value.arranged_map]
        cases value <;> rfl
    | null | bool _ | int _ | float _ | string _ =>
        rw [Value.arranged_of_scalar rfl]
  have sameOrdered :
      ∀ accepted,
        ordered subject operand.arranged accepted =
          ordered subject operand accepted := by
    intro accepted
    cases subject with
    | none =>
        rfl
    | some value =>
        rw [ordered, ordered, sameOrder]
  cases relation <;> simp only [holds, sameEqual, sameOrdered]

theorem firstOf?_arranged
    {fields : Entries Value}
    (portable : Portable (.map fields))
    (relations : List Relation) :
    firstOf? (Entries.sorted (Entries.mapValues Value.arranged fields))
        relations =
      (firstOf? fields relations).map fun comparison =>
        ⟨comparison.relation, comparison.operand.arranged⟩ := by
  induction relations with
  | nil =>
      rfl
  | cons relation relations inductionHypothesis =>
      rw [firstOf?, firstOf?, Value.get?_arranged portable]
      cases Entries.get? fields relation.key with
      | none =>
          exact inductionHypothesis
      | some operand =>
          rfl

/-- The operand of a comparison is a part of the condition. -/
theorem portable_operand
    {fields : Entries Value}
    (portable : Portable (.map fields))
    {relations : List Relation}
    {comparison : Comparison}
    (found : firstOf? fields relations = some comparison) :
    comparison.operand.Portable := by
  induction relations with
  | nil =>
      cases found
  | cons relation relations inductionHypothesis =>
      rw [firstOf?] at found
      split at found
      · rename_i operand isOperand
        cases found
        exact portable.field isOperand
      · exact inductionHypothesis found

/-- Whether a subject passes does not depend on the order of keys. -/
theorem passes_arranged
    {fields : Entries Value}
    (portable : Portable (.map fields))
    (subject : Option Value) :
    passes subject
        (ofFields?
          (Entries.sorted (Entries.mapValues Value.arranged fields))) =
      passes subject (ofFields? fields) := by
  rw [ofFields?, ofFields?, firstOf?_arranged portable]
  cases found : firstOf? fields Relation.byPriority with
  | none =>
      rfl
  | some comparison =>
      exact holds_arranged comparison.relation
        (portable_operand portable found) subject

end Comparison

/-! ## Steady expressions -/

namespace Value

/-- The keys of a map that make it more than a plain map. -/
def expressionTags : List String :=
  ["$state", "$cond", "$template", "$computed", "$bindState"]

/-- What a call is given as arguments. -/
def givenArguments?
    (fields : Entries Value) :
    Option Value :=
  (Entries.get? fields "$args").or (Entries.get? fields "args")

/--
An expression whose value stays the same when keys are put in ascending order:
exactly the same, or else up to the order of keys inside the value.
-/
inductive IsSteady : Bool → Value → Prop where
  | scalar
      {inOrder : Bool}
      {value : Value} :
      value.isContainer = false →
      IsSteady inOrder value
  | list
      {inOrder : Bool}
      {items : List Value} :
      (∀ item ∈ items, IsSteady inOrder item) →
      IsSteady inOrder (.list items)
  | state
      {inOrder : Bool}
      {fields : Entries Value}
      {path : Value} :
      Entries.get? fields "$state" = some path →
      IsSteady inOrder (.map fields)
  | cond
      {inOrder : Bool}
      {fields : Entries Value}
      {condition : Value} :
      Entries.get? fields "$state" = none →
      Entries.get? fields "$cond" = some condition →
      IsSteady true condition →
      (∀ key ∈ ["$then", "$else"], ∀ branch,
        Entries.get? fields key = some branch → IsSteady inOrder branch) →
      IsSteady inOrder (.map fields)
  | template
      {inOrder : Bool}
      {fields : Entries Value}
      {text : Value} :
      (∀ tag ∈ ["$state", "$cond"], Entries.get? fields tag = none) →
      Entries.get? fields "$template" = some text →
      IsSteady inOrder (.map fields)
  /-- The arguments of a call may stand under keys in ascending order. -/
  | computed
      {inOrder : Bool}
      {fields : Entries Value}
      {name : Value} :
      (∀ tag ∈ ["$state", "$cond", "$template"],
        Entries.get? fields tag = none) →
      Entries.get? fields "$computed" = some name →
      name.arranged = name →
      (∀ named,
        givenArguments? fields = some (.map named) →
        named.Pairwise fun left right => left.1 ≤ right.1) →
      (∀ arguments,
        givenArguments? fields = some arguments →
        ∀ argument ∈ arguments.parts, IsSteady true argument) →
      IsSteady inOrder (.map fields)
  | bindState
      {inOrder : Bool}
      {fields : Entries Value}
      {path : Value} :
      (∀ tag ∈ ["$state", "$cond", "$template", "$computed"],
        Entries.get? fields tag = none) →
      Entries.get? fields "$bindState" = some path →
      IsSteady inOrder (.map fields)
  | plain
      {inOrder : Bool}
      {fields : Entries Value} :
      (∀ tag ∈ expressionTags, Entries.get? fields tag = none) →
      (inOrder = true →
        fields.Pairwise fun left right => left.1 ≤ right.1) →
      (∀ field ∈ fields, IsSteady inOrder field.2) →
      IsSteady inOrder (.map fields)

/-- What a call is given is a part of it. -/
theorem Portable.givenArguments
    {fields : Entries Value}
    (portable : Portable (.map fields))
    {arguments : Value}
    (isGiven : givenArguments? fields = some arguments) :
    arguments.Portable := by
  rw [givenArguments?, Option.or_eq_some_iff] at isGiven
  rcases isGiven with found | ⟨_, found⟩ <;>
    exact portable.field found

theorem givenArguments?_arranged
    {fields : Entries Value}
    (portable : Portable (.map fields)) :
    givenArguments?
        (Entries.sorted (Entries.mapValues arranged fields)) =
      (givenArguments? fields).map arranged := by
  rw [givenArguments?, givenArguments?, get?_arranged portable,
    get?_arranged portable, Option.map_or]

end Value

/-- A call, with what it is given as arguments. -/
theorem Expression.ofValue_computed
    {fields : Entries Value}
    {name : Value}
    (absent :
      ∀ tag ∈ ["$state", "$cond", "$template"],
        Entries.get? fields tag = none)
    (found : Entries.get? fields "$computed" = some name) :
    ofValue (.map fields) =
      .computed name
        (((Value.givenArguments? fields).map argumentsOf).getD []) := by
  have noState := absent "$state" (by simp)
  have noCond := absent "$cond" (by simp)
  have noTemplate := absent "$template" (by simp)
  simp only [ofValue, ofField?_eq, argumentsOfField?_eq, noState, noCond,
    noTemplate, found, Option.map_none, Value.givenArguments?,
    Option.map_or, Option.orElse_eq_or, Option.orElse_eq_orElse]

/-! ## Evaluating steady expressions -/

namespace Environment

open Expression (argumentsOf evalItems ofFields)
open Value (Alike IsSteady)

variable
  (environment : Environment)
  {inOrder : Bool}

/-! What is no text is not looked into: neither as a path nor as a template. -/

theorem eval_state_arranged
    (path : Value) :
    Expression.eval environment (.state path.arranged) =
      Expression.eval environment (.state path) := by
  cases path <;> simp only [Value.arranged, Expression.eval]

theorem eval_template_arranged
    (text : Value) :
    Expression.eval environment (.template text.arranged) =
      Expression.eval environment (.template text) := by
  cases text <;> simp only [Value.arranged, Expression.eval]

theorem eval_bindState_arranged
    (path : Value) :
    Expression.eval environment (.bindState path.arranged) =
      Expression.eval environment (.bindState path) := by
  cases path <;> simp only [Value.arranged, Expression.eval]

/-- Items that are alike one by one are alike as arguments and as a list. -/
theorem alike_evalItems
    {items : List Value}
    (each :
      ∀ item ∈ items,
        Option.Rel (Alike inOrder)
          (environment.evaluate item.arranged)
          (environment.evaluate item)) :
    List.Forall₂ (Alike inOrder)
      (evalItems environment
        (Expression.ofItems (items.map Value.arranged)))
      (evalItems environment (Expression.ofItems items)) := by
  rw [Expression.ofItems_eq_map, Expression.ofItems_eq_map,
    Expression.evalItems_eq_map, Expression.evalItems_eq_map,
    List.map_map, List.map_map, List.map_map,
    List.forall₂_map_left_iff, List.forall₂_map_right_iff,
    List.forall₂_same]
  intro item member
  have alike := each item member
  unfold evaluate at alike
  simp only [Function.comp_apply]
  generalize Expression.eval environment _ = left at alike ⊢
  generalize Expression.eval environment _ = right at alike ⊢
  cases alike with
  | none =>
      exact .refl _
  | some same =>
      exact same

/-- Arguments that are equal one by one are equal, by position or by name. -/
theorem evalItems_argumentsOf
    {arguments : Value}
    (portable : arguments.Portable)
    (ascending :
      ∀ named, arguments = .map named →
        named.Pairwise fun left right => left.1 ≤ right.1)
    (each :
      ∀ argument ∈ arguments.parts,
        environment.evaluate argument.arranged =
          environment.evaluate argument) :
    evalItems environment (argumentsOf arguments.arranged) =
      evalItems environment (argumentsOf arguments) := by
  have positional :
      evalItems environment
          (Expression.ofItems (arguments.parts.map Value.arranged)) =
        evalItems environment (Expression.ofItems arguments.parts) := by
    have alike : List.Forall₂ (Alike true) _ _ :=
      environment.alike_evalItems
        fun argument (member : argument ∈ arguments.parts) =>
          Value.alike_of_eq (each argument member)
    have equal := (Value.Alike.list alike).2 rfl
    injection equal
  cases arguments with
  | list items =>
      rwa [Value.arranged_list, argumentsOf, argumentsOf]
  | map named =>
      have distinct : (Entries.names named).Nodup :=
        portable.here
      rw [Value.arranged_map, argumentsOf, argumentsOf,
        Entries.sorted_mapValues,
        Entries.sorted_of_pairwise distinct (ascending named rfl),
        Expression.valuesOf_eq_map, Expression.valuesOf_eq_map]
      rw [Value.parts, Expression.ofItems_eq_map,
        Expression.ofItems_eq_map] at positional
      have sameValues :
          Entries.values (Entries.mapValues Value.arranged named) =
            (Entries.values named).map Value.arranged := by
        simp [Entries.values, Entries.mapValues]
      rw [sameValues]
      exact positional
  | null | bool _ | int _ | float _ | string _ =>
      rw [Value.arranged_of_scalar rfl]

/-- Whatever the function is, it is called with the same arguments. -/
theorem evaluate_computed_arranged
    {fields : Entries Value}
    (portable : Portable (.map fields))
    {name : Value}
    (absent :
      ∀ tag ∈ ["$state", "$cond", "$template"],
        Entries.get? fields tag = none)
    (found : Entries.get? fields "$computed" = some name)
    (same : name.arranged = name)
    (each :
      ∀ arguments, Value.givenArguments? fields = some arguments →
        evalItems environment (argumentsOf arguments.arranged) =
          evalItems environment (argumentsOf arguments)) :
    environment.evaluate (Value.arranged (.map fields)) =
      environment.evaluate (.map fields) := by
  have arrangedAbsent :
      ∀ tag ∈ ["$state", "$cond", "$template"],
        Entries.get?
          (Entries.sorted (Entries.mapValues Value.arranged fields)) tag =
          none := by
    intro tag member
    rw [Value.get?_arranged portable, absent tag member, Option.map_none]
  have arrangedFound :
      Entries.get?
        (Entries.sorted (Entries.mapValues Value.arranged fields))
        "$computed" = some name := by
    rw [Value.get?_arranged portable, found, Option.map_some, same]
  rw [Value.arranged_map, evaluate, evaluate,
    Expression.ofValue_computed absent found,
    Expression.ofValue_computed arrangedAbsent arrangedFound,
    Value.givenArguments?_arranged portable, Expression.eval,
    Expression.eval]
  refine congrArg (environment.call? name.display) ?_
  cases isGiven : Value.givenArguments? fields with
  | none =>
      rfl
  | some arguments =>
      exact each arguments isGiven

/-- The branch taken may be missing, before and after. -/
theorem alike_evalBranch
    {fields : Entries Value}
    {key : String}
    (alike :
      ∀ branch, Entries.get? fields key = some branch →
        Option.Rel (Alike inOrder)
          (environment.evaluate branch.arranged)
          (environment.evaluate branch)) :
    Option.Rel (Alike inOrder)
      (Expression.evalBranch environment
        (((Entries.get? fields key).map Value.arranged).map
          Expression.ofValue))
      (Expression.evalBranch environment
        ((Entries.get? fields key).map Expression.ofValue)) := by
  cases found : Entries.get? fields key with
  | none =>
      exact .none
  | some branch =>
      exact alike branch found

/-- A conditional takes the same branch. -/
theorem alike_cond
    {fields : Entries Value}
    (portable : Portable (.map fields))
    {condition : Value}
    (noState : Entries.get? fields "$state" = none)
    (isCondition : Entries.get? fields "$cond" = some condition)
    (sameSubject :
      environment.evaluate condition.arranged =
        environment.evaluate condition)
    (branches :
      ∀ key ∈ ["$then", "$else"], ∀ branch,
        Entries.get? fields key = some branch →
        Option.Rel (Alike inOrder)
          (environment.evaluate branch.arranged)
          (environment.evaluate branch)) :
    Option.Rel (Alike inOrder)
      (environment.evaluate (Value.arranged (.map fields)))
      (environment.evaluate (.map fields)) := by
  unfold evaluate at sameSubject
  rw [Value.arranged_map]
  simp only [evaluate, Expression.ofValue, Expression.ofField?_eq,
    Value.get?_arranged portable, noState, isCondition, Option.map_some,
    Option.map_none, Expression.eval, sameSubject,
    Comparison.passes_arranged portable]
  split
  · exact environment.alike_evalBranch (branches "$then" (by simp))
  · exact environment.alike_evalBranch (branches "$else" (by simp))

/-- A plain map is evaluated key by key. -/
theorem alike_evalFields
    {fields : Entries Value}
    (portable : Portable (.map fields))
    (ascending :
      inOrder = true →
        fields.Pairwise fun left right => left.1 ≤ right.1)
    (each :
      ∀ field ∈ fields,
        Option.Rel (Alike inOrder)
          (environment.evaluate field.2.arranged)
          (environment.evaluate field.2)) :
    Alike inOrder
      (.map (Expression.evalFields environment
        (ofFields
          (Entries.sorted (Entries.mapValues Value.arranged fields)))))
      (.map (Expression.evalFields environment (ofFields fields))) := by
  have distinct : (Entries.names fields).Nodup :=
    portable.here
  simp only [Expression.ofFields_eq_mapValues]
  constructor
  · rw [Agrees.map_iff]
    intro key
    rw [Expression.get?_evalFields, Expression.get?_evalFields,
      Entries.get?_mapValues, Entries.get?_mapValues,
      Value.get?_arranged portable]
    · cases found : Entries.get? fields key with
      | none =>
          exact .none
      | some part =>
          have alike := each _ (Entries.mem_of_get?_eq_some found)
          simp only [Option.map_some, Option.bind_some]
          unfold evaluate at alike
          generalize Expression.eval environment _ = left at alike ⊢
          generalize Expression.eval environment _ = right at alike ⊢
          cases alike with
          | none =>
              exact .none
          | some same =>
              exact .some same.1
    · simpa using distinct
    · rw [Entries.names_mapValues]
      exact Entries.nodup_names_sorted (by simpa using distinct)
  · rintro rfl
    rw [Entries.sorted_mapValues,
      Entries.sorted_of_pairwise distinct (ascending rfl),
      Expression.evalFields_eq_filterMap,
      Expression.evalFields_eq_filterMap]
    unfold Entries.mapValues
    rw [List.filterMap_map, List.filterMap_map, List.filterMap_map]
    refine congrArg Value.map (List.filterMap_congr fun field member => ?_)
    have equal := Value.eq_of_alike (each field member)
    unfold evaluate at equal
    simp only [Function.comp_apply, equal]

/--
A steady expression has the same value when the keys of all its maps are in
ascending order, in every environment; whatever the functions are that it
calls.
-/
theorem evaluate_arranged
    {expression : Value}
    (steady : expression.IsSteady inOrder)
    (portable : expression.Portable) :
    Option.Rel (Alike inOrder)
      (environment.evaluate expression.arranged)
      (environment.evaluate expression) := by
  -- Conditions and arguments must be exactly the same, whatever the order
  -- asked for, so the induction goes through both kinds of steadiness.
  induction steady with
  | scalar isScalar =>
      rw [Value.arranged_of_scalar isScalar]
      exact Value.alike_of_eq rfl
  | @list inOrder items _ inductionHypothesis =>
      rw [Value.arranged_list]
      simp only [evaluate, Expression.ofValue, Expression.eval]
      refine .some (Alike.list (environment.alike_evalItems ?_))
      intro item member
      exact inductionHypothesis item member (portable.part member)
  | @state inOrder fields path found =>
      rw [Value.arranged_map]
      simp only [evaluate, Expression.ofValue,
        Value.get?_arranged portable, found, Option.map_some]
      exact Value.alike_of_eq (environment.eval_state_arranged path)
  | cond noState isCondition _ _ conditionHypothesis branchHypothesis =>
      refine environment.alike_cond portable noState isCondition ?_ ?_
      · exact Value.eq_of_alike
          (conditionHypothesis (portable.field isCondition))
      · intro key member branch found
        exact branchHypothesis key member branch found
          (portable.field found)
  | @template inOrder fields text absent found =>
      have noState := absent "$state" (by simp)
      have noCond := absent "$cond" (by simp)
      rw [Value.arranged_map]
      simp only [evaluate, Expression.ofValue, Expression.ofField?_eq,
        Value.get?_arranged portable, noState, noCond, found,
        Option.map_some, Option.map_none]
      exact Value.alike_of_eq (environment.eval_template_arranged text)
  | computed absent found same ascending _ argumentHypothesis =>
      refine Value.alike_of_eq
        (environment.evaluate_computed_arranged portable absent found same
          ?_)
      intro arguments isGiven
      have portableArguments := portable.givenArguments isGiven
      refine environment.evalItems_argumentsOf portableArguments ?_ ?_
      · rintro named rfl
        exact ascending named isGiven
      · intro argument isArgument
        exact Value.eq_of_alike
          (argumentHypothesis arguments isGiven argument isArgument
            (portableArguments.part isArgument))
  | @bindState inOrder fields path absent found =>
      have noState := absent "$state" (by simp)
      have noCond := absent "$cond" (by simp)
      have noTemplate := absent "$template" (by simp)
      have noComputed := absent "$computed" (by simp)
      rw [Value.arranged_map]
      simp only [evaluate, Expression.ofValue, Expression.ofField?_eq,
        Value.get?_arranged portable, noState, noCond, noTemplate,
        noComputed, found, Option.map_some, Option.map_none]
      exact Value.alike_of_eq (environment.eval_bindState_arranged path)
  | @plain inOrder fields absent ascending _ inductionHypothesis =>
      have noState := absent "$state" (by simp [Value.expressionTags])
      have noCond := absent "$cond" (by simp [Value.expressionTags])
      have noTemplate := absent "$template" (by simp [Value.expressionTags])
      have noComputed := absent "$computed" (by simp [Value.expressionTags])
      have noBindState :=
        absent "$bindState" (by simp [Value.expressionTags])
      rw [Value.arranged_map]
      simp only [evaluate, Expression.ofValue, Expression.ofField?_eq,
        Value.get?_arranged portable, noState, noCond, noTemplate,
        noComputed, noBindState, Option.map_none, Expression.eval]
      refine .some (environment.alike_evalFields portable ascending ?_)
      intro field member
      exact inductionHypothesis field member
        (portable.part (List.mem_map.mpr ⟨field, member, rfl⟩))

end Environment

end Mockup
