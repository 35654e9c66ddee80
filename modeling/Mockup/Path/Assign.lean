import Mockup.Path.Basic

namespace Mockup

namespace Path

/-!
# Writing at a path

A write walks down from the root.  What is missing on the way, or is a scalar,
becomes an empty map; lists are walked by position and must already hold it.
At the last segment a list may also grow by one item.  The tree is handed back
whether or not the write succeeds.
-/

/-- Why a value cannot be written at a path. -/
inductive AssignError where
  | noSuchItem (segment : String) (length : Nat)
  | notAnIndex (segment : String)
  | beyondEnd (index length : Nat)
  deriving Repr, DecidableEq

/-- The wording of a failed write. -/
def AssignError.message : AssignError → String
  | .noSuchItem segment length =>
      "Invalid path: index " ++ segment ++
        " out of bounds (" ++ toString length ++ ")"
  | .notAnIndex segment =>
      "Invalid path: '" ++ segment ++ "' is not a list index"
  | .beyondEnd index length =>
      "Invalid path: index " ++ toString index ++
        " out of bounds (" ++ toString length ++ ")"

/--
The tree after a write, with the value that was replaced (`none` when there
was none) or the reason why nothing was written.
-/
structure Assigned where
  root : Value
  outcome : Except AssignError (Option Value)
  deriving Repr

/-- Write one part of a container; what is no container becomes a map. -/
def assignPart
    (container : Value)
    (segment : String)
    (value : Value) :
    Assigned :=
  match container with
  | .list items =>
      match Text.ordinal? segment with
      | none =>
          ⟨.list items, .error (.notAnIndex segment)⟩
      | some index =>
          if index < items.length then
            ⟨.list (items.set index value), .ok items[index]?⟩
          else if index = items.length then
            ⟨.list (items ++ [value]), .ok none⟩
          else
            ⟨.list items, .error (.beyondEnd index items.length)⟩
  | other =>
      ⟨.map (Entries.insert other.entries segment value),
        .ok (Entries.get? other.entries segment)⟩

/-- The position and the item that a segment names in a list. -/
def item?
    (items : List Value)
    (segment : String) :
    Option (Nat × Value) :=
  match Text.ordinal? segment with
  | some index =>
      items[index]?.map fun item => (index, item)
  | none =>
      none

/-- Write a value at a list of segments; no segments name the root. -/
def assign
    (root : Value)
    (place : List String)
    (value : Value) :
    Assigned :=
  match place with
  | [] =>
      ⟨value, .ok (some root)⟩
  | [leaf] =>
      assignPart root leaf value
  | segment :: rest =>
      match root with
      | .list items =>
          match item? items segment with
          | some (index, part) =>
              let below := assign part rest value
              ⟨.list (items.set index below.root), below.outcome⟩
          | none =>
              ⟨.list items, .error (.noSuchItem segment items.length)⟩
      | other =>
          let part := (Entries.get? other.entries segment).getD (.map [])
          let below := assign part rest value
          ⟨.map (Entries.insert other.entries segment below.root),
            below.outcome⟩

end Path

end Mockup
