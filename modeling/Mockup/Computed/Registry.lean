import Mockup.Value.Number
import Mockup.Value.Display

namespace Mockup

/-!
# Computed functions

Expressions call pure functions by name.  Arguments are positional, and an
argument that is absent or null selects the function's default.  A registry
lists functions in the order in which their names were first registered.
-/

/-- Why a computed function has no result. -/
inductive CallError where
  | typeMismatch (expected got : String)
  | missingArgument (function : String) (index : Nat)
  | tooManyDecimals (function : String) (count : Nat)
  | reported (function message : String)
  deriving Repr, DecidableEq

namespace CallError

/-- The most digits after the point that a number may be written with. -/
def mostDecimals : Nat :=
  100

/-- The wording for a failed function. -/
def failure
    (function detail : String) :
    String :=
  "Computed function " ++ function ++ " failed: " ++ detail

/-- The wording of an error. -/
def message : CallError → String
  | .typeMismatch expected got =>
      "Type error: expected " ++ expected ++ ", got " ++ got
  | .missingArgument function index =>
      failure function
        ("argument " ++ toString index ++ " is required")
  | .tooManyDecimals function count =>
      failure function
        ("decimals must be between 0 and " ++ toString mostDecimals ++
          ", got " ++ toString count)
  | .reported function detail =>
      failure function detail

/-- The mismatch between an expected kind and a value. -/
def ofValue
    (expected : String)
    (value : Value) :
    CallError :=
  .typeMismatch expected value.typeName

end CallError

/-- A function of its arguments. -/
abbrev ComputedFunction :=
  List Value → Except CallError Value

/-- Functions by name. -/
abbrev Registry :=
  Entries ComputedFunction

namespace Computed

/-- A positional argument; null counts as absent. -/
def argument?
    (arguments : List Value)
    (index : Nat) :
    Option Value :=
  match arguments[index]? with
  | some value =>
      if value.isNull then none else some value
  | none =>
      none

/-- A positional argument that must be a number. -/
def numberArgument
    (function : String)
    (arguments : List Value)
    (index : Nat) :
    Except CallError Double :=
  match argument? arguments index with
  | none =>
      .error (.missingArgument function index)
  | some value =>
      match value.toNumber? with
      | some number =>
          .ok number
      | none =>
          .error (.ofValue "number" value)

/-- The greatest count an argument can stand for. -/
def greatestCount : Nat :=
  Nat.pow 2 64 - 1

/-- The count a number stands for, none for a negative one. -/
def count?
    (number : Double) :
    Option Nat :=
  if number.isNaN || number.belowZero then
    none
  else
    some (number.toIntClamped 0 greatestCount).toNat

/-- A positional argument that must be a count. -/
def countArgument
    (arguments : List Value)
    (index : Nat)
    (default : Nat) :
    Except CallError Nat :=
  match argument? arguments index with
  | none =>
      .ok default
  | some value =>
      match value.toNumber?.bind count? with
      | some count =>
          .ok count
      | none =>
          .error (.ofValue "non-negative number" value)

/-- A positional argument for the digits after a point, two by default. -/
def decimalsArgument
    (function : String)
    (arguments : List Value)
    (index : Nat) :
    Except CallError Nat :=
  match countArgument arguments index 2 with
  | .ok count =>
      if CallError.mostDecimals < count then
        .error (.tooManyDecimals function count)
      else
        .ok count
  | .error error =>
      .error error

/-- The text of a positional argument, or a default. -/
def textArgument
    (arguments : List Value)
    (index : Nat)
    (default : String) :
    String :=
  match argument? arguments index with
  | some value =>
      value.display
  | none =>
      default

end Computed

end Mockup
