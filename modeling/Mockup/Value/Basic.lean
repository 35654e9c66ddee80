import Mockup.Entries
import Mockup.Number.Double

namespace Mockup

/-!
# Document values

A document is a tree of values: scalars, lists, and maps whose keys keep
their order of insertion.  Integers have 64 bits; every other number is a
double, and the two kinds stay different.  A value that is *undefined* is
none of these: it is the absence of a value, `none`.
-/

/-- A value of a document. -/
inductive Value where
  | null
  | bool (value : Bool)
  | int (value : Int64)
  | float (value : Double)
  | string (value : String)
  | list (items : List Value)
  | map (fields : List (String × Value))
  deriving Repr, Inhabited

namespace Value

/-- Whether this is the explicit null. -/
def isNull : Value → Bool
  | .null =>
      true
  | _ =>
      false

/-- Whether this is a list or a map. -/
def isContainer : Value → Bool
  | .list _ =>
      true
  | .map _ =>
      true
  | _ =>
      false

/-- The name of the kind of value. -/
def typeName : Value → String
  | .null =>
      "null"
  | .bool _ =>
      "bool"
  | .int _ =>
      "int"
  | .float _ =>
      "float"
  | .string _ =>
      "string"
  | .list _ =>
      "list"
  | .map _ =>
      "map"

/-- The truth value of a boolean. -/
def asBool? : Value → Option Bool
  | .bool value =>
      some value
  | _ =>
      none

/-- The text of a string. -/
def asString? : Value → Option String
  | .string value =>
      some value
  | _ =>
      none

/-- The items of a list. -/
def asList? : Value → Option (List Value)
  | .list items =>
      some items
  | _ =>
      none

/-- The entries of a map. -/
def asMap? : Value → Option (Entries Value)
  | .map fields =>
      some fields
  | _ =>
      none

/-- The entries of a map; any other value has none. -/
def entries : Value → Entries Value
  | .map fields =>
      fields
  | _ =>
      []

/-- The value under a key of a map. -/
def field?
    (value : Value)
    (key : String) :
    Option Value :=
  match value with
  | .map fields =>
      Entries.get? fields key
  | _ =>
      none

/-- A count as an integer value, modulo `2 ^ 64`. -/
def ofNat
    (number : Nat) :
    Value :=
  .int (Int64.ofNat number)

end Value

end Mockup
