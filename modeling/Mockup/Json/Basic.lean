import Mockup.Value.Number

namespace Mockup

/-!
# JSON trees

A JSON tree keeps what the text says: a repeated key stays repeated, and an
integer literal stays an integer as long as 64 bits hold it.  Document values
are read from trees and written to them.
-/

/-- A JSON text as a tree. -/
inductive Json where
  | null
  | bool (value : Bool)
  | integer (value : Int)
  | number (value : Double)
  | string (value : String)
  | array (items : List Json)
  | object (fields : List (String × Json))
  deriving Repr, Inhabited

/-- An integer as a value: one of 64 bits, or else the nearest double. -/
def Value.ofInteger
    (number : Int) :
    Value :=
  if Value.intBounds.1 ≤ number && number ≤ Value.intBounds.2 then
    .int (Int64.ofInt number)
  else
    .float (.ofInt number)

mutual

/-- The document value of a tree. -/
def Value.ofJson : Json → Value
  | .null =>
      .null
  | .bool value =>
      .bool value
  | .integer value =>
      .ofInteger value
  | .number value =>
      .float value
  | .string value =>
      .string value
  | .array items =>
      .list (Value.ofJsonItems items)
  | .object fields =>
      .map (Entries.ofList (Value.ofJsonFields fields))

/-- The document values of the items of an array. -/
def Value.ofJsonItems : List Json → List Value
  | [] =>
      []
  | item :: items =>
      Value.ofJson item :: Value.ofJsonItems items

/-- The document values of the members of an object. -/
def Value.ofJsonFields :
    List (String × Json) → List (String × Value)
  | [] =>
      []
  | (key, value) :: fields =>
      (key, Value.ofJson value) :: Value.ofJsonFields fields

end

mutual

/-- The tree of a document value; what is not finite is written as null. -/
def Json.ofValue : Value → Json
  | .null =>
      .null
  | .bool value =>
      .bool value
  | .int value =>
      .integer value.toInt
  | .float value =>
      if value.isFinite then .number value else .null
  | .string value =>
      .string value
  | .list items =>
      .array (Json.ofItems items)
  | .map fields =>
      .object (Json.ofFields fields)

/-- The trees of the items of a list. -/
def Json.ofItems : List Value → List Json
  | [] =>
      []
  | item :: items =>
      Json.ofValue item :: Json.ofItems items

/-- The trees of the entries of a map. -/
def Json.ofFields :
    List (String × Value) → List (String × Json)
  | [] =>
      []
  | (key, value) :: fields =>
      (key, Json.ofValue value) :: Json.ofFields fields

end

namespace Json

mutual

/-- The same tree with the keys of every object in ascending order. -/
def sorted : Json → Json
  | .null =>
      .null
  | .bool value =>
      .bool value
  | .integer value =>
      .integer value
  | .number value =>
      .number value
  | .string value =>
      .string value
  | .array items =>
      .array (sortedItems items)
  | .object fields =>
      .object (Entries.sorted (sortedFields fields))

/-- The items of an array with sorted keys below them. -/
def sortedItems : List Json → List Json
  | [] =>
      []
  | item :: items =>
      sorted item :: sortedItems items

/-- The members of an object with sorted keys below them. -/
def sortedFields :
    List (String × Json) → List (String × Json)
  | [] =>
      []
  | (key, value) :: fields =>
      (key, sorted value) :: sortedFields fields

end

mutual

/-- How many containers enclose the innermost part of a tree, at most. -/
def depth : Json → Nat
  | .array items =>
      depthItems items + 1
  | .object fields =>
      depthFields fields + 1
  | _ =>
      0

/-- The greatest depth of the items of an array. -/
def depthItems : List Json → Nat
  | [] =>
      0
  | item :: items =>
      max (depth item) (depthItems items)

/-- The greatest depth of the members of an object. -/
def depthFields : List (String × Json) → Nat
  | [] =>
      0
  | (_, value) :: fields =>
      max (depth value) (depthFields fields)

end

end Json

end Mockup
