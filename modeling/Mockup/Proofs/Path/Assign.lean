import Mockup.Path.Assign
import Mockup.Proofs.Entries

namespace Mockup

namespace Path

/-!
# What a write does to a tree

A write that succeeds tells what was at its place, and a write that fails
leaves the tree as it is: it fails only where the way leads into a list, and
up to there every part was present already.
-/

/-! ## The last segment -/

/-- Writing a part tells what the part was before. -/
theorem child?_of_assignPart
    {container value : Value}
    {segment : String}
    {old : Option Value}
    (succeeds : (assignPart container segment value).outcome = .ok old) :
    child? container segment = old := by
  unfold assignPart at succeeds
  split at succeeds
  · rename_i items
    split at succeeds
    · cases succeeds
    · rename_i index isOrdinal
      split at succeeds
      · cases succeeds
        simp [child?, isOrdinal]
      · split at succeeds
        · rename_i isEnd
          cases succeeds
          simp [child?, isOrdinal, isEnd]
        · cases succeeds
  · rename_i notList
    cases succeeds
    cases container with
    | map fields =>
        rfl
    | list items =>
        exact (notList items rfl).elim
    | _ =>
        rfl

/-- Only a list refuses a part, and it stays as it is. -/
theorem root_of_assignPart_error
    {container value : Value}
    {segment : String}
    {error : AssignError}
    (fails : (assignPart container segment value).outcome = .error error) :
    (assignPart container segment value).root = container := by
  unfold assignPart at fails ⊢
  split
  · split
    · rfl
    · split
      · simp_all
      · split
        · simp_all
        · rfl
  · simp at fails

/-! ## All segments -/

/-- An item is named by its position. -/
theorem item?_eq_some
    {items : List Value}
    {segment : String}
    {index : Nat}
    {part : Value}
    (found : item? items segment = some (index, part)) :
    Text.ordinal? segment = some index ∧ items[index]? = some part := by
  unfold item? at found
  split at found
  · rename_i position isOrdinal
    obtain ⟨item, isItem, same⟩ := Option.map_eq_some_iff.mp found
    cases same
    exact ⟨isOrdinal, isItem⟩
  · cases found

/-- The parts of what is no list are its entries. -/
theorem child?_of_ne_list
    {root : Value}
    (notList : ∀ items, root ≠ .list items)
    (segment : String) :
    child? root segment = Entries.get? root.entries segment := by
  cases root with
  | list items =>
      exact (notList items rfl).elim
  | _ =>
      rfl

/-- What is no list is walked by its entries; a missing one is made. -/
theorem assign_of_ne_list
    {root : Value}
    (notList : ∀ items, root ≠ .list items)
    (segment next : String)
    (rest : List String)
    (value : Value) :
    let part := (Entries.get? root.entries segment).getD (.map [])
    let below := assign part (next :: rest) value
    assign root (segment :: next :: rest) value =
      ⟨.map (Entries.insert root.entries segment below.root),
        below.outcome⟩ := by
  cases root with
  | list items =>
      exact (notList items rfl).elim
  | _ =>
      rfl

/-- A list is walked by its items, which must be there. -/
theorem assign_item
    {items : List Value}
    {segment : String}
    {index : Nat}
    {part : Value}
    (found : item? items segment = some (index, part))
    (next : String)
    (rest : List String)
    (value : Value) :
    let below := assign part (next :: rest) value
    assign (.list items) (segment :: next :: rest) value =
      ⟨.list (items.set index below.root), below.outcome⟩ := by
  simp [assign, found]

theorem assign_of_no_item
    {items : List Value}
    {segment : String}
    (missing : item? items segment = none)
    (next : String)
    (rest : List String)
    (value : Value) :
    assign (.list items) (segment :: next :: rest) value =
      ⟨.list items, .error (.noSuchItem segment items.length)⟩ := by
  simp [assign, missing]

/-- A write below a map leaves a map. -/
theorem exists_map_assign
    (fields : Entries Value)
    (segment : String)
    (rest : List String)
    (value : Value) :
    ∃ left,
      (assign (.map fields) (segment :: rest) value).root = .map left := by
  cases rest <;> exact ⟨_, rfl⟩

/-- A write succeeds below what has no parts: its way is made for it. -/
theorem exists_old_of_bare
    {root : Value}
    (bare : root.entries = [])
    (notList : ∀ items, root ≠ .list items)
    (place : List String)
    (value : Value) :
    ∃ old, (assign root place value).outcome = .ok old := by
  induction place generalizing root with
  | nil =>
      exact ⟨some root, rfl⟩
  | cons segment rest inductionHypothesis =>
      cases rest with
      | nil =>
          cases root with
          | list items =>
              exact (notList items rfl).elim
          | _ =>
              exact ⟨_, rfl⟩
      | cons next rest =>
          rw [assign_of_ne_list notList, bare]
          exact inductionHypothesis rfl (by simp [Entries.get?])

/-- A write that succeeds tells what was at its place. -/
theorem eq_resolve?_of_assign
    {root value : Value}
    {place : List String}
    {old : Option Value}
    (succeeds : (assign root place value).outcome = .ok old) :
    old = resolve? root place := by
  induction place generalizing root with
  | nil =>
      cases succeeds
      rfl
  | cons segment rest inductionHypothesis =>
      cases rest with
      | nil =>
          have part := child?_of_assignPart succeeds
          cases old <;> simp [resolve?, part]
      | cons next rest =>
          rw [resolve?.eq_2 _ segment]
          by_cases isList : ∃ items, root = .list items
          · obtain ⟨items, rfl⟩ := isList
            cases found : item? items segment with
            | none =>
                rw [assign_of_no_item found] at succeeds
                cases succeeds
            | some item =>
                rw [assign_item found] at succeeds
                obtain ⟨isOrdinal, atIndex⟩ := item?_eq_some found
                have isPart :
                    child? (.list items) segment = some item.2 := by
                  simp [child?, isOrdinal, atIndex]
                rw [isPart]
                exact inductionHypothesis succeeds
          · have notList := not_exists.mp isList
            rw [assign_of_ne_list notList] at succeeds
            have below := inductionHypothesis succeeds
            rw [child?_of_ne_list notList]
            cases found : Entries.get? root.entries segment with
            | some part =>
                simpa [found] using below
            | none =>
                -- What is missing is made as an empty map.
                simpa [found, resolve?, child?, Entries.get?] using below

/-- A write that fails leaves the tree as it is. -/
theorem root_of_assign_error
    {root value : Value}
    {place : List String}
    {error : AssignError}
    (fails : (assign root place value).outcome = .error error) :
    (assign root place value).root = root := by
  induction place generalizing root with
  | nil =>
      cases fails
  | cons segment rest inductionHypothesis =>
      cases rest with
      | nil =>
          exact root_of_assignPart_error fails
      | cons next rest =>
          by_cases isList : ∃ items, root = .list items
          · obtain ⟨items, rfl⟩ := isList
            cases found : item? items segment with
            | none =>
                rw [assign_of_no_item found]
            | some item =>
                rw [assign_item found] at fails ⊢
                obtain ⟨inside, isItem⟩ :=
                  List.getElem?_eq_some_iff.mp (item?_eq_some found).2
                rw [inductionHypothesis fails, ← isItem,
                  List.set_getElem_self]
          · have notList := not_exists.mp isList
            rw [assign_of_ne_list notList] at fails ⊢
            cases found : Entries.get? root.entries segment with
            | none =>
                -- Nothing fails below a part that has just been made.
                rw [found, Option.getD_none] at fails
                have isMap : ∀ items, Value.map [] ≠ .list items := by
                  simp
                obtain ⟨old, succeeds⟩ :=
                  exists_old_of_bare rfl isMap (next :: rest) value
                rw [fails] at succeeds
                cases succeeds
            | some part =>
                simp only [found, Option.getD_some] at fails ⊢
                rw [inductionHypothesis fails,
                  Entries.insert_found found]
                cases root with
                | map fields =>
                    rfl
                | _ =>
                    simp [Value.entries, Entries.get?] at found

end Path

end Mockup
