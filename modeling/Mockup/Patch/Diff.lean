import Mockup.Patch.Basic
import Mockup.Patch.Pointer
import Mockup.Value.Equality

namespace Mockup

namespace Patch

/-!
# Patches between two documents

Two documents are compared part by part.  Keys and items that only one of them
has are removed or added, parts of different kinds and unequal scalars are
replaced.  Items are removed from the end of a list, so that no removal shifts
a later one.
-/

/-- The patch that adds a value. -/
def adding
    (path : String)
    (value : Value) :
    Patch :=
  ⟨.add, path, some value, none⟩

/-- The patch that removes a value. -/
def removing
    (path : String) :
    Patch :=
  ⟨.remove, path, none, none⟩

/-- The patch that replaces a value. -/
def replacing
    (path : String)
    (value : Value) :
    Patch :=
  ⟨.replace, path, some value, none⟩

/-- Add the entries whose keys are new. -/
def addNewFields
    (path : String)
    (old : Entries Value) :
    Entries Value → List Patch
  | [] =>
      []
  | (key, value) :: fields =>
      if Entries.contains old key then
        addNewFields path old fields
      else
        adding (Pointer.child path key) value ::
          addNewFields path old fields

/-- Add items from a position on. -/
def addItems
    (path : String)
    (index : Nat) :
    List Value → List Patch
  | [] =>
      []
  | item :: items =>
      adding (Pointer.item path index) item ::
        addItems path (index + 1) items

/-- Remove `count` items from a position on, the last one first. -/
def removeItems
    (path : String)
    (index : Nat) :
    Nat → List Patch
  | 0 =>
      []
  | count + 1 =>
      removing (Pointer.item path (index + count)) ::
        removeItems path index count

mutual

/-- The patches that turn one value into another one. -/
def diff
    (path : String) :
    Value → Value → List Patch
  | .map old, .map new =>
      diffFields path new old ++ addNewFields path old new
  | .list old, .list new =>
      diffItems path 0 old new
  | old, new =>
      if old.strictEq new then [] else [replacing path new]

/-- The patches for the entries of an old map. -/
def diffFields
    (path : String)
    (new : Entries Value) :
    List (String × Value) → List Patch
  | [] =>
      []
  | (key, old) :: fields =>
      (match Entries.get? new key with
        | some value =>
            diff (Pointer.child path key) old value
        | none =>
            [removing (Pointer.child path key)]) ++
        diffFields path new fields

/-- The patches for the items of two lists from a position on. -/
def diffItems
    (path : String)
    (index : Nat) :
    List Value → List Value → List Patch
  | [], new =>
      addItems path index new
  | old, [] =>
      removeItems path index old.length
  | old :: olds, new :: news =>
      diff (Pointer.item path index) old new ++
        diffItems path (index + 1) olds news

end

/-- The patches to a document; without an old one it is replaced whole. -/
def between
    (old : Option Value)
    (new : Value) :
    List Patch :=
  match old with
  | none =>
      [replacing "" new]
  | some document =>
      diff "" document new

end Patch

end Mockup
