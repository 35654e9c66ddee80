import Mockup.Proofs.Store

namespace Mockup

namespace Path

/-!
# Reading after a write

A value that has been written is read back at its place, and no place apart
from that one reads differently.  Two places are apart when they part at two
segments that do not name the same item of a list: an item has more than one
name, `1`, `01` and `+1`.
-/

/-- Two segments are ordinals of the same item. -/
def NameSameItem
    (segment other : String) :
    Prop :=
  ∃ index,
    Text.ordinal? segment = some index ∧
      Text.ordinal? other = some index

/-- Two places first differ at segments that do not name the same item. -/
inductive Apart : List String → List String → Prop where
  | here
      {segment other : String}
      {rest others : List String} :
      segment ≠ other →
      ¬ NameSameItem segment other →
      Apart (segment :: rest) (other :: others)
  | further
      {segment : String}
      {rest others : List String} :
      Apart rest others →
      Apart (segment :: rest) (segment :: others)

/-! ## The parts of a changed container -/

theorem child?_insert_same
    (fields : Entries Value)
    (segment : String)
    (value : Value) :
    child? (.map (Entries.insert fields segment value)) segment =
      some value := by
  simp [child?]

/-- What is no list keeps its other entries when it is made a map. -/
theorem child?_insert_other
    {root : Value}
    (notList : ∀ items, root ≠ .list items)
    {segment other : String}
    (different : segment ≠ other)
    (value : Value) :
    child? (.map (Entries.insert root.entries segment value)) other =
      child? root other := by
  rw [child?_of_ne_list notList, child?,
    Entries.get?_insert_other _ _ different.symm]

/-- A list with an item in place of another, or with one more. -/
inductive Places
    (items : List Value)
    (index : Nat)
    (value : Value) : List Value → Prop where
  | replaced :
      index < items.length →
      Places items index value (items.set index value)
  | appended :
      index = items.length →
      Places items index value (items ++ [value])

section

variable
  {items placed : List Value}
  {index : Nat}
  {value : Value}
  {segment other : String}

theorem Places.child?_same
    (places : Places items index value placed)
    (isOrdinal : Text.ordinal? segment = some index) :
    child? (.list placed) segment = some value := by
  cases places with
  | replaced inside =>
      simp [child?, isOrdinal, inside]
  | appended isEnd =>
      simp [child?, isOrdinal, isEnd]

theorem Places.child?_other
    (places : Places items index value placed)
    (isOrdinal : Text.ordinal? segment = some index)
    (different : ¬ NameSameItem segment other) :
    child? (.list placed) other = child? (.list items) other := by
  cases isOther : Text.ordinal? other with
  | none =>
      simp [child?, isOther]
  | some position =>
      have distinct : index ≠ position := by
        rintro rfl
        exact different ⟨index, isOrdinal, isOther⟩
      cases places with
      | replaced inside =>
          simp [child?, isOther, distinct]
      | appended isEnd =>
          -- Behind the new item there is nothing, as before.
          simp only [child?, isOther, List.getElem?_append]
          split
          · rfl
          · rename_i beyond
            rw [List.getElem?_eq_none (by simp; omega),
              List.getElem?_eq_none (by omega)]

end

/-! ## Writing one part -/

/-- What a write of one part comes to. -/
inductive WritesPart
    (container : Value)
    (segment : String)
    (value : Value) : Assigned → Prop where
  | placed
      {items placed : List Value}
      {index : Nat}
      {old : Option Value} :
      container = .list items →
      Text.ordinal? segment = some index →
      Places items index value placed →
      WritesPart container segment value ⟨.list placed, .ok old⟩
  | inserted
      {old : Option Value} :
      (∀ items, container ≠ .list items) →
      WritesPart container segment value
        ⟨.map (Entries.insert container.entries segment value), .ok old⟩
  | refused
      {error : AssignError} :
      WritesPart container segment value ⟨container, .error error⟩

theorem writesPart_assignPart
    (container : Value)
    (segment : String)
    (value : Value) :
    WritesPart container segment value
      (assignPart container segment value) := by
  unfold assignPart
  split
  · split
    · exact .refused
    · rename_i isOrdinal
      split
      · rename_i inside
        exact .placed rfl isOrdinal (.replaced inside)
      · split
        · rename_i isEnd
          exact .placed rfl isOrdinal (.appended isEnd)
        · exact .refused
  · rename_i notList
    exact .inserted notList

/-- A part that has been written is the value. -/
theorem child?_assignPart_same
    {container value : Value}
    {segment : String}
    {old : Option Value}
    (succeeds :
      (assignPart container segment value).outcome = .ok old) :
    child? (assignPart container segment value).root segment =
      some value := by
  have writes := writesPart_assignPart container segment value
  generalize assignPart container segment value = assigned
    at succeeds writes ⊢
  cases writes with
  | placed _ isOrdinal places =>
      exact places.child?_same isOrdinal
  | inserted _ =>
      exact child?_insert_same _ segment value
  | refused =>
      cases succeeds

/-- The other parts stay as they were. -/
theorem child?_assignPart_other
    (container : Value)
    {segment other : String}
    (different : segment ≠ other)
    (otherItem : ¬ NameSameItem segment other)
    (value : Value) :
    child? (assignPart container segment value).root other =
      child? container other := by
  have writes := writesPart_assignPart container segment value
  generalize assignPart container segment value = assigned
    at writes ⊢
  cases writes with
  | placed isList isOrdinal places =>
      rw [isList]
      exact places.child?_other isOrdinal otherItem
  | inserted notList =>
      exact child?_insert_other notList different value
  | refused =>
      rfl

/-! ## Going down into a part -/

/--
A write goes down into a part, which is made as an empty map when it is
missing, and the root is rebuilt around what has become of the part.
-/
structure Enters
    (root : Value)
    (segment : String)
    (part : Value)
    (rebuilt : Value → Value) :
    Prop where
  present :
    child? root segment = some part ∨
      child? root segment = none ∧ part = .map []
  same :
    ∀ changed, child? (rebuilt changed) segment = some changed
  others :
    ∀ changed other,
      segment ≠ other →
      ¬ NameSameItem segment other →
      child? (rebuilt changed) other = child? root other
  assign :
    ∀ next rest value,
      assign root (segment :: next :: rest) value =
        ⟨rebuilt (assign part (next :: rest) value).root,
          (assign part (next :: rest) value).outcome⟩

/-- A write goes down into a part, or it fails and leaves the root. -/
theorem enters_or_fails
    (root : Value)
    (segment : String) :
    (∃ part rebuilt, Enters root segment part rebuilt) ∨
      ∃ error,
        ∀ next rest value,
          assign root (segment :: next :: rest) value =
            ⟨root, .error error⟩ := by
  by_cases isList : ∃ items, root = .list items
  · obtain ⟨items, rfl⟩ := isList
    cases found : item? items segment with
    | none =>
        exact Or.inr ⟨_, assign_of_no_item found⟩
    | some item =>
        obtain ⟨isOrdinal, atIndex⟩ := item?_eq_some found
        have inside := (List.getElem?_eq_some_iff.mp atIndex).1
        exact Or.inl
          ⟨item.2, fun changed => .list (items.set item.1 changed),
            Or.inl (by simp [child?, isOrdinal, atIndex]),
            fun _ => (Places.replaced inside).child?_same isOrdinal,
            fun _ _ _ otherItem =>
              (Places.replaced inside).child?_other isOrdinal otherItem,
            assign_item found⟩
  · have notList := not_exists.mp isList
    refine Or.inl
      ⟨(Entries.get? root.entries segment).getD (.map []),
        fun changed => .map (Entries.insert root.entries segment changed),
        ?_, child?_insert_same _ segment,
        fun changed _ different _ =>
          child?_insert_other notList different changed,
        assign_of_ne_list notList segment⟩
    rw [child?_of_ne_list notList]
    cases Entries.get? root.entries segment <;> simp

/-! ## Writing at a place -/

theorem resolve?_cons_eq_bind
    (root : Value)
    (segment : String)
    (rest : List String) :
    resolve? root (segment :: rest) =
      (child? root segment).bind fun part => resolve? part rest := by
  rw [resolve?]
  cases child? root segment <;> rfl

/-- A value that has been written is read back. -/
theorem resolve?_assign_same
    {root value : Value}
    {place : List String}
    {old : Option Value}
    (succeeds : (assign root place value).outcome = .ok old) :
    resolve? (assign root place value).root place = some value := by
  induction place generalizing root with
  | nil =>
      rfl
  | cons segment rest inductionHypothesis =>
      cases rest with
      | nil =>
          have part := child?_assignPart_same succeeds
          simp [resolve?, assign, part]
      | cons next rest =>
          rcases enters_or_fails root segment with
              ⟨part, rebuilt, enters⟩ | ⟨error, fails⟩
          · rw [enters.assign] at succeeds ⊢
            rw [resolve?_cons_eq_bind, enters.same, Option.bind_some]
            exact inductionHypothesis succeeds
          · rw [fails] at succeeds
            cases succeeds

/-- A place that is apart from the written one reads as before. -/
theorem resolve?_assign_apart
    {place other : List String}
    (apart : Apart place other)
    (root value : Value) :
    resolve? (assign root place value).root other =
      resolve? root other := by
  induction apart generalizing root with
  | @here segment other rest others different otherItem =>
      have sameChild :
          child? (assign root (segment :: rest) value).root other =
            child? root other := by
        cases rest with
        | nil =>
            exact child?_assignPart_other root different otherItem value
        | cons next rest =>
            rcases enters_or_fails root segment with
                ⟨part, rebuilt, enters⟩ | ⟨error, fails⟩
            · rw [enters.assign]
              exact enters.others _ other different otherItem
            · rw [fails]
      rw [resolve?_cons_eq_bind, sameChild, resolve?_cons_eq_bind]
  | @further segment rest others apart inductionHypothesis =>
      cases rest with
      | nil =>
          cases apart
      | cons next rest =>
          rcases enters_or_fails root segment with
              ⟨part, rebuilt, enters⟩ | ⟨error, fails⟩
          · rw [enters.assign, resolve?_cons_eq_bind,
              resolve?_cons_eq_bind root, enters.same, Option.bind_some,
              inductionHypothesis]
            rcases enters.present with isPart | ⟨missing, rfl⟩
            · rw [isPart, Option.bind_some]
            · -- What is missing is made empty, and reads as missing.
              rw [missing]
              cases apart <;> rfl
          · rw [fails]

end Path

/-! ## Writing into the store -/

namespace Store

/-- A write below anything but a list leaves a map. -/
theorem exists_map_of_set
    {store : Store}
    (notList : ∀ items, store.state ≠ .list items)
    {path : String}
    {value : Value}
    {write : StateWrite}
    (succeeds : (store.set path value).2 = .ok write) :
    ∃ fields, (store.set path value).1.state = .map fields := by
  rw [(eq_of_set succeeds).2]
  cases place : Path.stateSegments path with
  | nil =>
      simp [set, place] at succeeds
  | cons segment rest =>
      cases rest with
      | nil =>
          cases root : store.state with
          | list items =>
              exact (notList items root).elim
          | _ =>
              exact ⟨_, rfl⟩
      | cons next rest =>
          rw [Path.assign_of_ne_list notList]
          exact ⟨_, rfl⟩

/-- A write into a store succeeds when it does so in the tree. -/
theorem exists_old_of_set
    {store : Store}
    {path : String}
    {value : Value}
    {write : StateWrite}
    (succeeds : (store.set path value).2 = .ok write) :
    ∃ old,
      (Path.assign store.state (Path.stateSegments path) value).outcome =
        .ok old := by
  unfold set at succeeds
  split at succeeds
  · cases succeeds
  · rename_i segment rest place
    rw [place]
    simp only at succeeds
    split at succeeds
    · exact ⟨_, ‹_›⟩
    · cases succeeds

/-- A value that has been written into a store is read back. -/
theorem get?_of_set
    {store : Store}
    {path : String}
    {value : Value}
    {write : StateWrite}
    (succeeds : (store.set path value).2 = .ok write) :
    (store.set path value).1.get? path = some value := by
  obtain ⟨old, assigned⟩ := exists_old_of_set succeeds
  rw [get?, (eq_of_set succeeds).2]
  exact Path.resolve?_assign_same assigned

/--
A write that succeeds tells what was read at its place before.  Afterwards the
value is read there, and every place apart from it reads as before.  So a
value that has been written into a store is read under every spelling of its
path, and the root of the state is a map still.
-/
theorem reads_after_write :
    (∀ (root value : Value) (place : List String) (old : Option Value),
      (Path.assign root place value).outcome = .ok old →
        old = Path.resolve? root place ∧
          Path.resolve? (Path.assign root place value).root place =
            some value ∧
          ∀ other,
            Path.Apart place other →
            Path.resolve? (Path.assign root place value).root other =
              Path.resolve? root other) ∧
    ∀ (store : Store) (path : String) (value : Value)
        (write : StateWrite),
      (store.set path value).2 = .ok write →
        (∀ spelling,
          Path.normalize spelling = Path.normalize path →
          (store.set path value).1.get? spelling = some value) ∧
        ((∀ items, store.state ≠ .list items) →
          ∃ fields, (store.set path value).1.state = .map fields) := by
  refine ⟨?_, ?_⟩
  · intro root value place old succeeds
    exact
      ⟨Path.eq_resolve?_of_assign succeeds,
        Path.resolve?_assign_same succeeds,
        fun _ apart => Path.resolve?_assign_apart apart root value⟩
  · intro store path value write succeeds
    refine ⟨?_, fun notList => exists_map_of_set notList succeeds⟩
    intro spelling same
    -- Paths with the same canonical text name the same place.
    have samePlace :
        Path.stateSegments spelling = Path.stateSegments path := by
      rw [← Path.stateSegments_normalize, same,
        Path.stateSegments_normalize]
    rw [get?, samePlace]
    exact get?_of_set succeeds

/-- A state with a list of two items. -/
def tagged : Store where
  state :=
    .map [("tags", .list [.string "a", .string "b"])]

/-- A third item is appended under a name with a sign in front of it. -/
theorem reads_after_write_thirdItem :
    let place := ["tags", "+2"]
    let assigned := Path.assign tagged.state place (.bool true)
    let after := (tagged.set "tags.+2" (.bool true)).1
    assigned.outcome = .ok none ∧
      Path.resolve? tagged.state place = none ∧
      Path.resolve? assigned.root place = some (.bool true) ∧
      Path.resolve? assigned.root ["tags", "01"] =
        some (.string "b") ∧
      (tagged.set "tags.+2" (.bool true)).2 = .ok ⟨"/tags/+2", none⟩ ∧
      Path.normalize "/tags/+2" = Path.normalize "tags.+2" ∧
      after.get? "/tags/+2" = some (.bool true) ∧
      ∃ fields, after.state = .map fields := by
  intro place assigned after
  have assigns : assigned.outcome = .ok none :=
    rfl
  have sets :
      (tagged.set "tags.+2" (.bool true)).2 =
        .ok ⟨"/tags/+2", none⟩ :=
    rfl
  have same : Path.normalize "/tags/+2" = Path.normalize "tags.+2" := by
    decide +kernel
  have differs : ¬ Path.NameSameItem "+2" "01" := by
    rintro ⟨index, isThird, isSecond⟩
    have third : Text.ordinal? "+2" = some 2 := by
      decide +kernel
    have second : Text.ordinal? "01" = some 1 := by
      decide +kernel
    rw [third] at isThird
    rw [second] at isSecond
    cases isThird
    cases isSecond
  have apart : Path.Apart place ["tags", "01"] :=
    .further (.here (by decide) differs)
  have notList : ∀ items, tagged.state ≠ .list items := by
    rintro _ ⟨⟩
  obtain ⟨before, readBack, others⟩ :=
    reads_after_write.1 tagged.state (.bool true) place none assigns
  obtain ⟨spellings, isMap⟩ :=
    reads_after_write.2 tagged "tags.+2" (.bool true) _ sets
  exact
    ⟨assigns, before.symm, readBack, others _ apart, sets, same,
      spellings _ same, isMap notList⟩

end Store

end Mockup
