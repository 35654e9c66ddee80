import Mockup.Comparison

namespace Mockup

/-!
# Expressions

Any document value is an expression.  A map that carries one of five tags is
interpreted; the tags are looked for in the order of the constructors below.
Every other map is evaluated key by key, a list item by item, and a scalar is
its own value.
-/

/-- A value read as an expression. -/
inductive Expression where
  | state (path : Value)
  | cond
      (condition : Expression)
      (comparison : Option Comparison)
      (whenTrue whenFalse : Option Expression)
  | template (text : Value)
  | computed
      (name : Value)
      (arguments : List Expression)
  | bindState (path : Value)
  | object (fields : List (String × Expression))
  | list (items : List Expression)
  | literal (value : Value)
  deriving Repr, Inhabited

namespace Expression

mutual

/-- Read a value as an expression; every value is one. -/
def ofValue : Value → Expression
  | .map fields =>
      match Entries.get? fields "$state" with
      | some path =>
          .state path
      | none =>
          match ofField? "$cond" fields with
          | some condition =>
              .cond condition (Comparison.ofFields? fields)
                (ofField? "$then" fields) (ofField? "$else" fields)
          | none =>
              match Entries.get? fields "$template" with
              | some text =>
                  .template text
              | none =>
                  match Entries.get? fields "$computed" with
                  | some name =>
                      .computed name
                        ((argumentsOfField? "$args" fields
                          <|> argumentsOfField? "args" fields).getD [])
                  | none =>
                      match Entries.get? fields "$bindState" with
                      | some path =>
                          .bindState path
                      | none =>
                          .object (ofFields fields)
  | .list items =>
      .list (ofItems items)
  | scalar =>
      .literal scalar

/-- Read the items of a list. -/
def ofItems : List Value → List Expression
  | [] =>
      []
  | item :: items =>
      ofValue item :: ofItems items

/-- Read the entries of a map. -/
def ofFields :
    List (String × Value) → List (String × Expression)
  | [] =>
      []
  | (key, value) :: fields =>
      (key, ofValue value) :: ofFields fields

/-- Read the value under one key of a map. -/
def ofField?
    (key : String) :
    List (String × Value) → Option Expression
  | [] =>
      none
  | (name, value) :: fields =>
      if name = key then some (ofValue value) else ofField? key fields

/-- Read the arguments of a call: one each for the parts of a container. -/
def argumentsOf : Value → List Expression
  | .map fields =>
      valuesOf fields
  | .list items =>
      ofItems items
  | scalar =>
      [.literal scalar]

/-- Read the values of a map, in order. -/
def valuesOf : List (String × Value) → List Expression
  | [] =>
      []
  | (_, value) :: fields =>
      ofValue value :: valuesOf fields

/-- Read the arguments under one key of a map. -/
def argumentsOfField?
    (key : String) :
    List (String × Value) → Option (List Expression)
  | [] =>
      none
  | (name, value) :: fields =>
      if name = key then
        some (argumentsOf value)
      else
        argumentsOfField? key fields

end

end Expression

end Mockup
