import Mockup.Expression.Evaluation

namespace Mockup

/-!
# Visibility

A node may declare conditions under `visible`, which must all hold, and under
`hidden`, none of which may hold.  A declaration is one condition or a list
of them; null declares nothing.
-/

namespace Visibility

/-- The conditions a node declares under a key, if it declares any. -/
def declared?
    (node : Value)
    (key : String) :
    Option (List Value) :=
  match node.field? key with
  | none =>
      none
  | some .null =>
      none
  | some (.list conditions) =>
      some conditions
  | some single =>
      some [single]

/-- The tags of expressions that consume their own comparison. -/
def expressionTags : List String :=
  ["$cond", "$template", "$computed", "$bindState"]

/-- Whether a condition carries one of these tags. -/
def isExpression
    (condition : Value) :
    Bool :=
  expressionTags.any fun tag => Entries.contains condition.entries tag

/-- Whether one condition holds. -/
def holds
    (environment : Environment)
    (condition : Value) :
    Bool :=
  let comparison := Comparison.ofValue? condition
  match condition.field? "$state" with
  | some (.string path) =>
      passes (environment.resolve? path) comparison
  | some _ =>
      passes none comparison
  | none =>
      if isExpression condition then
        holdsAlone (environment.evaluate condition)
      else
        passes (environment.evaluate condition) comparison

/-- Whether every condition under `visible` holds. -/
def isVisible
    (environment : Environment)
    (node : Value) :
    Bool :=
  match declared? node "visible" with
  | none =>
      true
  | some conditions =>
      conditions.all (holds environment)

/-- Whether some condition under `hidden` holds. -/
def isHidden
    (environment : Environment)
    (node : Value) :
    Bool :=
  match declared? node "hidden" with
  | none =>
      false
  | some conditions =>
      conditions.any (holds environment)

/-- Whether a node is to be shown. -/
def isEligible
    (environment : Environment)
    (node : Value) :
    Bool :=
  isVisible environment node && !isHidden environment node

/-- The items whose nodes are to be shown, in their order. -/
def eligible
    (environment : Environment)
    (node : α → Value)
    (items : List α) :
    List α :=
  items.filter fun item => isEligible environment (node item)

end Visibility

end Mockup
