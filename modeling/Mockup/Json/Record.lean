import Mockup.Json.Basic

namespace Mockup

namespace Json

/-!
# Records

A typed part of a document is a record: named fields, each read in its own
way.  A record is written as an object, in which a known field may stand only
once and unknown ones are ignored, or as the array of its fields in their
order of declaration, from which fields may be missing at the end.
-/

/-- A string. -/
def asString? : Json → Option String
  | .string value =>
      some value
  | _ =>
      none

/-- A boolean. -/
def asBool? : Json → Option Bool
  | .bool value =>
      some value
  | _ =>
      none

/-- A count: an integer literal that is not negative. -/
def asCount? : Json → Option Nat
  | .integer value =>
      if 0 ≤ value then some value.toNat else none
  | _ =>
      none

/-- Any value of a document. -/
def asValue?
    (json : Json) :
    Option Value :=
  some (.ofJson json)

/-- A map of document values. -/
def asMap? : Json → Option (Entries Value)
  | .object fields =>
      some (Entries.ofList (Value.ofJsonFields fields))
  | _ =>
      none

/-- An array whose items are all read in the same way. -/
def asList?
    (read? : Json → Option α) :
    Json → Option (List α)
  | .array items =>
      items.mapM read?
  | _ =>
      none

/-- An object whose members are all read in the same way. -/
def asEntries?
    (read? : Json → Option α) :
    Json → Option (Entries α)
  | .object fields =>
      (fields.mapM fun field =>
        (read? field.2).map fun value => (field.1, value)).map
        Entries.ofList
  | _ =>
      none

/-- Whether a name stands at most once among the members of an object. -/
def isUnrepeated
    (fields : List (String × Json))
    (name : String) :
    Bool :=
  (fields.filter fun field => field.1 = name).length ≤ 1

/-- The members of an object in which no known name is repeated. -/
def members?
    (names : List String) :
    Json → Option (Entries Json)
  | .object fields =>
      if names.all (isUnrepeated fields) then some fields else none
  | _ =>
      none

/-- The fields of a record, written as an object or as an array. -/
def record?
    (names : List String) :
    Json → Option (Entries Json)
  | .array items =>
      if items.length ≤ names.length then
        some (names.zip items)
      else
        none
  | json =>
      members? names json

/-- A field that must be present. -/
def required?
    (fields : Entries Json)
    (name : String)
    (read? : Json → Option α) :
    Option α :=
  (Entries.get? fields name).bind read?

/-- A field with a default for its absence. -/
def defaulted?
    (fields : Entries Json)
    (name : String)
    (default : α)
    (read? : Json → Option α) :
    Option α :=
  match Entries.get? fields name with
  | none =>
      some default
  | some json =>
      read? json

/-- A field that may be absent; null counts as absent. -/
def optional?
    (fields : Entries Json)
    (name : String)
    (read? : Json → Option α) :
    Option (Option α) :=
  match Entries.get? fields name with
  | none =>
      some none
  | some .null =>
      some none
  | some json =>
      (read? json).map some

/-- The member for an optional field: nothing when it is absent. -/
def optionalMember
    (name : String)
    (write : α → Json) :
    Option α → List (String × Json)
  | none =>
      []
  | some value =>
      [(name, write value)]

/-- A count as a tree. -/
def ofCount
    (count : Nat) :
    Json :=
  .integer count

end Json

end Mockup
