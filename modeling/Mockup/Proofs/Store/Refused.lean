import Mockup.Proofs.Store.ReadBack

namespace Mockup

namespace Path

/-!
# Writes that are refused

Only a list refuses a write, and only a list that the way leads to through
parts that are there: whatever a write makes on its way is a map, and a map
takes every key.  So a write is refused before anything has been changed, and
leaves the tree and the store around it exactly as they were.
-/

/--
Why a list lets no write through at a segment.  The last segment may name the
place behind the items; on the way, with segments left behind it, a segment
names an item that is there.
-/
inductive Refuses
    (items : List Value)
    (segment : String) :
    List String → AssignError → Prop where
  | noSuchItem
      {next : String}
      {rest : List String} :
      item? items segment = none →
      Refuses items segment (next :: rest)
        (.noSuchItem segment items.length)
  | notAnIndex :
      Text.ordinal? segment = none →
      Refuses items segment [] (.notAnIndex segment)
  | beyondEnd
      {index : Nat} :
      Text.ordinal? segment = some index →
      items.length < index →
      Refuses items segment [] (.beyondEnd index items.length)

/-- A list that is there on the way to a place refuses the write. -/
def BlockedBy
    (root : Value)
    (place : List String)
    (error : AssignError) :
    Prop :=
  ∃ way segment rest items,
    place = way ++ segment :: rest ∧
      resolve? root way = some (.list items) ∧
      Refuses items segment rest error

/-! ## One step down -/

/-- What blocks a write is met at the root, or below the part it goes into. -/
theorem blockedBy_cons
    {root : Value}
    {segment : String}
    {rest : List String}
    {error : AssignError} :
    BlockedBy root (segment :: rest) error ↔
      (∃ items,
        root = .list items ∧ Refuses items segment rest error) ∨
        ∃ part,
          child? root segment = some part ∧ BlockedBy part rest error := by
  constructor
  · rintro ⟨way, refused, left, items, split, resolved, refuses⟩
    cases way with
    | nil =>
        cases split
        cases resolved
        exact Or.inl ⟨items, rfl, refuses⟩
    | cons first way =>
        cases split
        rw [resolve?_cons_eq_bind] at resolved
        obtain ⟨part, reached, below⟩ := Option.bind_eq_some_iff.mp resolved
        exact Or.inr
          ⟨part, reached, way, refused, left, items, rfl, below, refuses⟩
  · rintro (⟨items, rfl, refuses⟩ | ⟨part, reached, blocked⟩)
    · exact ⟨[], segment, rest, items, rfl, rfl, refuses⟩
    · obtain ⟨way, refused, left, items, rfl, below, refuses⟩ := blocked
      refine ⟨segment :: way, refused, left, items, rfl, ?_, refuses⟩
      rw [resolve?_cons_eq_bind, reached, Option.bind_some, below]

/-- The root itself is always written. -/
theorem not_blockedBy_nil
    (root : Value)
    (error : AssignError) :
    ¬ BlockedBy root [] error := by
  rintro ⟨way, segment, rest, items, split, _⟩
  simp at split

/-- At the last segment exactly a list refuses, and no part is gone into. -/
theorem assignPart_error_iff
    {container value : Value}
    {segment : String}
    {error : AssignError} :
    (assignPart container segment value).outcome = .error error ↔
      ∃ items,
        container = .list items ∧ Refuses items segment [] error := by
  constructor
  · intro fails
    unfold assignPart at fails
    split at fails
    · rename_i items
      refine ⟨items, rfl, ?_⟩
      split at fails
      · rename_i notOrdinal
        cases fails
        exact .notAnIndex notOrdinal
      · rename_i index isOrdinal
        split at fails
        · cases fails
        · split at fails
          · cases fails
          · cases fails
            exact .beyondEnd isOrdinal (by omega)
    · cases fails
  · rintro ⟨items, rfl, refuses⟩
    cases refuses with
    | notAnIndex notOrdinal =>
        simp [assignPart, notOrdinal]
    | @beyondEnd index isOrdinal beyond =>
        have notInside : ¬ index < items.length := by
          omega
        have notEnd : index ≠ items.length := by
          omega
        simp [assignPart, isOrdinal, notInside, notEnd]

/-- The part of a list that a segment names is the item at its position. -/
theorem child?_list
    (items : List Value)
    (segment : String) :
    child? (.list items) segment = (item? items segment).map Prod.snd := by
  unfold child? item?
  cases Text.ordinal? segment with
  | none =>
      rfl
  | some index =>
      cases atIndex : items[index]? <;> simp [atIndex]

/-- On the way, a write fares below a part that is there as it does in it. -/
theorem outcome_assign_of_child
    {root part : Value}
    {segment : String}
    (reached : child? root segment = some part)
    (next : String)
    (rest : List String)
    (value : Value) :
    (assign root (segment :: next :: rest) value).outcome =
      (assign part (next :: rest) value).outcome := by
  by_cases isList : ∃ items, root = .list items
  · obtain ⟨items, rfl⟩ := isList
    rw [child?_list] at reached
    obtain ⟨item, found, rfl⟩ := Option.map_eq_some_iff.mp reached
    rw [assign_item found]
  · have notList := not_exists.mp isList
    rw [child?_of_ne_list notList] at reached
    rw [assign_of_ne_list notList, reached, Option.getD_some]

/-- On the way, what is missing is refused by a list and made elsewhere. -/
theorem assign_error_iff_of_missing
    {root value : Value}
    {segment next : String}
    {rest : List String}
    {error : AssignError}
    (missing : child? root segment = none) :
    (assign root (segment :: next :: rest) value).outcome = .error error ↔
      ∃ items,
        root = .list items ∧
          Refuses items segment (next :: rest) error := by
  constructor
  · intro fails
    by_cases isList : ∃ items, root = .list items
    · obtain ⟨items, rfl⟩ := isList
      rw [child?_list, Option.map_eq_none_iff] at missing
      rw [assign_of_no_item missing] at fails
      cases fails
      exact ⟨items, rfl, .noSuchItem missing⟩
    · have notList := not_exists.mp isList
      rw [child?_of_ne_list notList] at missing
      rw [assign_of_ne_list notList, missing, Option.getD_none] at fails
      -- Below an empty map that has just been made, a write succeeds.
      have isMap : ∀ items, Value.map [] ≠ .list items := by
        simp
      obtain ⟨old, succeeds⟩ :=
        exists_old_of_bare rfl isMap (next :: rest) value
      rw [succeeds] at fails
      cases fails
  · rintro ⟨items, rfl, refuses⟩
    cases refuses with
    | noSuchItem noItem =>
        rw [assign_of_no_item noItem]

/-! ## All segments -/

/-- A list refuses no segment that leads on to an item. -/
theorem Refuses.child?_eq_none
    {items : List Value}
    {segment next : String}
    {rest : List String}
    {error : AssignError}
    (refuses : Refuses items segment (next :: rest) error) :
    child? (.list items) segment = none := by
  cases refuses with
  | noSuchItem noItem =>
      rw [child?_list, noItem, Option.map_none]

/-- A write is refused exactly when a list blocks its way. -/
theorem assign_error_iff
    {root : Value}
    {place : List String}
    {error : AssignError}
    (value : Value) :
    (assign root place value).outcome = .error error ↔
      BlockedBy root place error := by
  induction place generalizing root with
  | nil =>
      exact iff_of_false nofun (not_blockedBy_nil root error)
  | cons segment rest inductionHypothesis =>
      rw [blockedBy_cons]
      cases rest with
      | nil =>
          rw [assign, assignPart_error_iff]
          refine (or_iff_left ?_).symm
          rintro ⟨part, _, blocked⟩
          exact not_blockedBy_nil part error blocked
      | cons next rest =>
          cases reached : child? root segment with
          | some part =>
              rw [outcome_assign_of_child reached, inductionHypothesis]
              constructor
              · exact fun blocked => Or.inr ⟨part, rfl, blocked⟩
              · rintro (⟨items, rfl, refuses⟩ | ⟨_, ⟨⟩, blocked⟩)
                · rw [refuses.child?_eq_none] at reached
                  cases reached
                · exact blocked
          | none =>
              rw [assign_error_iff_of_missing reached]
              simp

end Path

namespace Store

/-- A write into a store is refused without a key, or as the tree refuses it. -/
theorem set_error_iff
    {store : Store}
    {path : String}
    {value : Value}
    {failure : Failure} :
    (store.set path value).2 = .error failure ↔
      Path.stateSegments path = [] ∧
          failure = .invalidAction
            ("state path '" ++ path ++ "' does not name a key") ∨
        ∃ error,
          failure = .unwritable error ∧
            Path.BlockedBy store.state
              (Path.stateSegments path) error := by
  simp only [← Path.assign_error_iff value]
  unfold set
  split
  · rename_i noKey
    simp [noKey, Path.assign, eq_comm]
  · rename_i segment rest place
    rw [place]
    simp only
    split
    · rename_i old succeeds
      simp [succeeds]
    · rename_i error fails
      simp [fails, eq_comm]

/--
A write into a tree is refused exactly when a list that is there on its way
refuses it, with the reason that the list gives, and then the tree is what it
was.  A write into a store is refused exactly when its path names no key or
when the tree refuses it, and then the whole store is what it was.
-/
theorem refused_changes_nothing :
    (∀ (root value : Value) (place : List String)
        (error : Path.AssignError),
      ((Path.assign root place value).outcome = .error error ↔
        Path.BlockedBy root place error) ∧
      ((Path.assign root place value).outcome = .error error →
        (Path.assign root place value).root = root)) ∧
    ∀ (store : Store) (path : String) (value : Value)
        (failure : Failure),
      ((store.set path value).2 = .error failure ↔
        Path.stateSegments path = [] ∧
            failure = .invalidAction
              ("state path '" ++ path ++ "' does not name a key") ∨
          ∃ error,
            failure = .unwritable error ∧
              Path.BlockedBy store.state
                (Path.stateSegments path) error) ∧
      ((store.set path value).2 = .error failure →
        (store.set path value).1 = store) := by
  refine ⟨?_, ?_⟩
  · intro root value place error
    exact ⟨Path.assign_error_iff value, Path.root_of_assign_error⟩
  · intro store path value failure
    exact ⟨set_error_iff, set_of_error⟩

/-- A list of two items has no place for an eighth one. -/
theorem refused_changes_nothing_pastEnd :
    let place := ["tags", "+7"]
    let assigned := Path.assign tagged.state place .null
    let tried := tagged.set "tags.+7" .null
    assigned.outcome = .error (.beyondEnd 7 2) ∧
      Path.BlockedBy tagged.state place (.beyondEnd 7 2) ∧
      assigned.root = tagged.state ∧
      tried.2 = .error (.unwritable (.beyondEnd 7 2)) ∧
      tried.1 = tagged := by
  intro place assigned tried
  have fails : assigned.outcome = .error (.beyondEnd 7 2) :=
    rfl
  have refused : tried.2 = .error (.unwritable (.beyondEnd 7 2)) :=
    rfl
  obtain ⟨blocked, stays⟩ :=
    refused_changes_nothing.1 tagged.state .null place (.beyondEnd 7 2)
  obtain ⟨_, storeStays⟩ :=
    refused_changes_nothing.2 tagged "tags.+7" .null _
  exact ⟨fails, blocked.mp fails, stays fails, refused, storeStays refused⟩

end Store

end Mockup
