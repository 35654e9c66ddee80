import Mockup.Proofs.Path.Assign
import Mockup.Proofs.Path.Segments
import Mockup.Store
import Mockup.Watch.Condition

namespace Mockup

/-!
# Writes and the changes they make

A write that is tried at a state path either makes a change, which tells the
canonical path and the values before and after, or is refused and makes none.
The changes are enough to rebuild the state: each new value is assigned at
the path of its change.
-/

namespace Store

/-- A write reads and changes the state only, and not the responses. -/
theorem set_eq
    (store : Store)
    (path : String)
    (value : Value) :
    store.set path value =
      ({ store with
          state := (Store.set ⟨store.state, []⟩ path value).1.state },
        (Store.set ⟨store.state, []⟩ path value).2) := by
  unfold set
  split
  · rfl
  · simp only
    split <;> rfl

/-- A write that is refused leaves the store as it is. -/
theorem set_of_error
    {store : Store}
    {path : String}
    {value : Value}
    {failure : Failure}
    (refused : (store.set path value).2 = .error failure) :
    (store.set path value).1 = store := by
  unfold set at refused ⊢
  split
  · rfl
  · rename_i segment rest place
    simp only [place] at refused ⊢
    split at refused
    · cases refused
    · rename_i error fails
      simp only
      rw [Path.root_of_assign_error fails]

/-- A write tells the canonical path, and what was there before. -/
theorem eq_of_set
    {store : Store}
    {path : String}
    {value : Value}
    {write : StateWrite}
    (succeeds : (store.set path value).2 = .ok write) :
    write = ⟨Path.normalize path, store.get? path⟩ ∧
      (store.set path value).1.state =
        (Path.assign store.state (Path.stateSegments path) value).root := by
  unfold set at succeeds ⊢
  split
  · rename_i noPlace
    simp [noPlace] at succeeds
  · rename_i segment rest place
    simp only [place] at succeeds ⊢
    split at succeeds
    · rename_i old assigned
      cases succeeds
      simp only [and_true]
      rw [Path.normalize, get?, place,
        Path.eq_resolve?_of_assign assigned]
    · cases succeeds

/-- The root of the state stays a map, whatever is written. -/
theorem exists_map_set
    {store : Store}
    {fields : Entries Value}
    (isMap : store.state = .map fields)
    (path : String)
    (value : Value) :
    ∃ left, (store.set path value).1.state = .map left := by
  unfold set
  split
  · exact ⟨fields, isMap⟩
  · rename_i segment rest _
    obtain ⟨left, root⟩ :=
      Path.exists_map_assign fields segment rest value
    rw [isMap]
    simp only
    split <;> exact ⟨left, root⟩

/-- A key of a map can always be written. -/
theorem set_key
    {store : Store}
    {fields : Entries Value}
    (isMap : store.state = .map fields)
    {path key : String}
    (named : Path.stateSegments path = [key])
    (value : Value) :
    store.set path value =
      ({ store with state := .map (Entries.insert fields key value) },
        .ok ⟨Path.canonical [key], Entries.get? fields key⟩) := by
  simp [set, named, isMap, Path.assign, Path.assignPart, Value.entries]

end Store

/-! ## Tried writes -/

/-- A value that is to be written at a state path. -/
structure TriedWrite where
  path : String
  value : Value

namespace TriedWrite

/-- What becomes of a state when the write is tried. -/
def result
    (write : TriedWrite)
    (state : Value) :
    Store × Except Failure StateWrite :=
  Store.set ⟨state, []⟩ write.path write.value

/-- The state after the write has been tried. -/
def apply
    (state : Value)
    (write : TriedWrite) :
    Value :=
  (write.result state).1.state

/--
The change that the write makes to a state: at the canonical path, from what
was there to the value.  A write that is refused makes none.
-/
def change?
    (state : Value)
    (write : TriedWrite) :
    Option StateChange :=
  match (write.result state).2 with
  | .ok _ =>
      some
        { path := Path.normalize write.path,
          new := some write.value,
          old := Path.resolve? state (Path.stateSegments write.path) }
  | .error _ =>
      none

theorem apply_eq
    (store : Store)
    (write : TriedWrite) :
    write.apply store.state =
      (store.set write.path write.value).1.state := by
  rw [Store.set_eq]
  rfl

theorem change?_of_error
    {store : Store}
    {write : TriedWrite}
    {failure : Failure}
    (refused : (store.set write.path write.value).2 = .error failure) :
    write.change? store.state = none := by
  rw [Store.set_eq] at refused
  simp only at refused
  rw [change?, result, refused]

/-- A write that succeeds makes the change that it tells of. -/
theorem change?_of_ok
    {store : Store}
    {write : TriedWrite}
    {made : StateWrite}
    (succeeds : (store.set write.path write.value).2 = .ok made) :
    write.change? store.state =
      some ⟨made.path, some write.value, made.old⟩ := by
  rw [(Store.eq_of_set succeeds).1]
  rw [Store.set_eq] at succeeds
  simp only at succeeds
  rw [change?, result, succeeds]
  rfl

/-- The changes that writes make one after another. -/
def changes
    (state : Value) : List TriedWrite → List StateChange
  | [] =>
      []
  | write :: writes =>
      (write.change? state).toList ++
        changes (write.apply state) writes

theorem changes_append
    (state : Value)
    (earlier later : List TriedWrite) :
    changes state (earlier ++ later) =
      changes state earlier ++
        changes (earlier.foldl apply state) later := by
  induction earlier generalizing state with
  | nil =>
      rfl
  | cons write earlier inductionHypothesis =>
      simp [changes, inductionHypothesis]

end TriedWrite

/-! ## Rebuilding the state -/

/-- A tree with the new value of a change assigned at its path. -/
def StateChange.assignTo
    (root : Value)
    (change : StateChange) :
    Value :=
  match change.new with
  | some value =>
      (Path.assign root (Path.stateSegments change.path) value).root
  | none =>
      root

namespace TriedWrite

/-- Assigning the change that a write makes does what the write did. -/
theorem assignTo_change?
    (state : Value)
    (write : TriedWrite) :
    (write.change? state).toList.foldl StateChange.assignTo state =
      write.apply state := by
  let store : Store := ⟨state, []⟩
  cases outcome : (store.set write.path write.value).2 with
  | error failure =>
      have refused := change?_of_error outcome
      have stays := Store.set_of_error outcome
      rw [apply, result, stays, refused]
      rfl
  | ok made =>
      have succeeds := change?_of_ok outcome
      obtain ⟨told, assigned⟩ := Store.eq_of_set outcome
      rw [apply, result, assigned, succeeds, told]
      simp only [Option.toList_some, List.foldl_cons, List.foldl_nil,
        StateChange.assignTo, Path.stateSegments_normalize]
      rfl

/-- Assigning the changes of writes one after another rebuilds the state. -/
theorem foldl_assignTo_changes
    (state : Value)
    (writes : List TriedWrite) :
    (changes state writes).foldl StateChange.assignTo state =
      writes.foldl apply state := by
  induction writes generalizing state with
  | nil =>
      rfl
  | cons write writes inductionHypothesis =>
      rw [changes, List.foldl_append, assignTo_change?,
        inductionHypothesis, List.foldl_cons]

end TriedWrite

end Mockup
