import Mockup.Value.Number

namespace Mockup

namespace Value

/-!
# Two equalities of values

Two values are the *same* when they agree kind by kind, map order aside.
*Strict* equality also lets numbers of different kinds be equal, by numeric
value after conversion to a double; two integers are compared exactly.
-/

mutual

/-- Equality kind by kind; doubles compare numerically, map order aside. -/
def same : Value → Value → Bool
  | .null, .null =>
      true
  | .bool left, .bool right =>
      left == right
  | .int left, .int right =>
      left == right
  | .float left, .float right =>
      left.equals right
  | .string left, .string right =>
      left == right
  | .list left, .list right =>
      sameItems left right
  | .map left, .map right =>
      left.length == right.length && sameFields left right
  | _, _ =>
      false

/-- Two lists are the same when they are pairwise. -/
def sameItems : List Value → List Value → Bool
  | [], [] =>
      true
  | left :: lefts, right :: rights =>
      same left right && sameItems lefts rights
  | _, _ =>
      false

/-- Every entry on the left has the same value under its key on the right. -/
def sameFields : List (String × Value) → Entries Value → Bool
  | [], _ =>
      true
  | (key, left) :: lefts, rights =>
      (match Entries.get? rights key with
        | some right =>
            same left right
        | none =>
            false) &&
        sameFields lefts rights

end

mutual

/-- Strict equality: numbers by value, containers by their parts. -/
def strictEq : Value → Value → Bool
  | .null, .null =>
      true
  | .bool left, .bool right =>
      left == right
  | .int left, .int right =>
      left == right
  | .int left, .float right =>
      (doubleOfInt left).equals right
  | .float left, .int right =>
      left.equals (doubleOfInt right)
  | .float left, .float right =>
      left.equals right
  | .string left, .string right =>
      left == right
  | .list left, .list right =>
      strictEqItems left right
  | .map left, .map right =>
      left.length == right.length && strictEqFields left right
  | _, _ =>
      false

/-- Two lists are strictly equal when they are pairwise. -/
def strictEqItems : List Value → List Value → Bool
  | [], [] =>
      true
  | left :: lefts, right :: rights =>
      strictEq left right && strictEqItems lefts rights
  | _, _ =>
      false

/-- Every entry on the left is strictly equal to the one under its key. -/
def strictEqFields : List (String × Value) → Entries Value → Bool
  | [], _ =>
      true
  | (key, left) :: lefts, rights =>
      (match Entries.get? rights key with
        | some right =>
            strictEq left right
        | none =>
            false) &&
        strictEqFields lefts rights

end

end Value

end Mockup
