import Mockup.Proofs.Store.ReadBack
import Mockup.Proofs.Value.KeyOrder

namespace Mockup

namespace Path

open Value (Agrees)

/-!
# Writes that can change places

Two writes whose places part at different parts of what they share can be done
in either order.  A write fills a slot of the root with what comes of the part
in it; filling one slot leaves the others as they are, also the one behind the
last item of a list.  What the two orders can differ in is the order in which
new keys have been written.
-/

/--
In a tree, two places go the same way for a while and then part: at a list to
different items, and anywhere else to different keys.
-/
def ApartIn
    (root : Value)
    (place other : List String) :
    Prop :=
  ∃ way segment rest turn others,
    place = way ++ segment :: rest ∧
      other = way ++ turn :: others ∧
      segment ≠ turn ∧
      ∀ items,
        resolve? root way = some (.list items) →
        ¬ NameSameItem segment turn

/-! ## Slots -/

/--
What a segment leads to in a container: the part that is there, and how the
container is filled with another one.  Behind the last item of a list a place
can only end.
-/
inductive Slot :
    Value → String → List String → Option Value → (Value → Value) →
      Prop where
  | entry
      {root : Value}
      {segment : String}
      {rest : List String} :
      (∀ items, root ≠ .list items) →
      Slot root segment rest (Entries.get? root.entries segment)
        fun value => .map (Entries.insert root.entries segment value)
  | item
      {items : List Value}
      {segment : String}
      {rest : List String}
      {index : Nat}
      {part : Value} :
      Text.ordinal? segment = some index →
      items[index]? = some part →
      Slot (.list items) segment rest (some part)
        fun value => .list (items.set index value)
  | behind
      {items : List Value}
      {segment : String} :
      Text.ordinal? segment = some items.length →
      Slot (.list items) segment [] none
        fun value => .list (items ++ [value])

/-- What becomes of the part in a slot when the rest of a place is written. -/
def assignBelow
    (part? : Option Value)
    (rest : List String)
    (value : Value) :
    Assigned :=
  match rest with
  | [] =>
      ⟨value, .ok part?⟩
  | next :: rest =>
      assign (part?.getD (.map [])) (next :: rest) value

/-- Below a segment that is not the last one, what is missing is made. -/
theorem assignBelow_of_ne_nil
    {rest : List String}
    (further : rest ≠ [])
    (part? : Option Value)
    (value : Value) :
    assignBelow part? rest value =
      assign (part?.getD (.map [])) rest value := by
  cases rest with
  | nil =>
      exact (further rfl).elim
  | cons next rest =>
      rfl

namespace Slot

variable
  {root : Value}
  {segment turn : String}
  {rest others : List String}
  {part? turnPart? : Option Value}
  {fill turnFill : Value → Value}

/-- The part in a slot is the part that the segment names. -/
theorem child?_eq
    (slot : Slot root segment rest part? fill) :
    child? root segment = part? := by
  cases slot with
  | entry notList =>
      exact child?_of_ne_list notList segment
  | item named found =>
      simp [child?, named, found]
  | behind named =>
      simp [child?, named]

/-- A write fills a slot with what becomes of its part. -/
theorem assign_eq
    (slot : Slot root segment rest part? fill)
    (value : Value) :
    assign root (segment :: rest) value =
      ⟨fill (assignBelow part? rest value).root,
        (assignBelow part? rest value).outcome⟩ := by
  cases slot with
  | entry notList =>
      cases rest with
      | nil =>
          cases root with
          | list items =>
              exact (notList items rfl).elim
          | _ =>
              rfl
      | cons next rest =>
          exact assign_of_ne_list notList segment next rest value
  | item named found =>
      cases rest with
      | nil =>
          have inside := (List.getElem?_eq_some_iff.mp found).1
          simp [assign, assignPart, named, inside, assignBelow, ← found]
      | cons next rest =>
          exact assign_item (by simp [item?, named, found]) next rest value
  | behind named =>
      simp [assign, assignPart, named, assignBelow]

/-- A write that succeeds has found a slot. -/
theorem exists_of_assign
    {value : Value}
    {old : Option Value}
    (succeeds :
      (assign root (segment :: rest) value).outcome = .ok old) :
    ∃ part? fill, Slot root segment rest part? fill := by
  by_cases isList : ∃ items, root = .list items
  · obtain ⟨items, rfl⟩ := isList
    cases found : item? items segment with
    | some item =>
        obtain ⟨named, atIndex⟩ := item?_eq_some found
        exact ⟨_, _, .item named atIndex⟩
    | none =>
        cases rest with
        | cons next rest =>
            rw [assign_of_no_item found] at succeeds
            cases succeeds
        | nil =>
            simp only [assign, assignPart] at succeeds
            split at succeeds
            · cases succeeds
            · rename_i index named
              split at succeeds
              · rename_i inside
                simp [item?, named, inside] at found
              · split at succeeds
                · rename_i isEnd
                  exact ⟨_, _, .behind (isEnd ▸ named)⟩
                · cases succeeds
  · exact ⟨_, _, .entry (not_exists.mp isList)⟩

/-- A slot on the way is open to every place that goes further. -/
theorem onward
    (slot : Slot root segment rest part? fill)
    (further : rest ≠ [])
    (others : List String) :
    Slot root segment others part? fill := by
  cases slot with
  | entry notList =>
      exact .entry notList
  | item named found =>
      exact .item named found
  | behind _ =>
      exact (further rfl).elim

/-- After it has been filled a slot on the way holds the new part. -/
theorem filled
    (slot : Slot root segment rest part? fill)
    (further : rest ≠ [])
    (value : Value) :
    Slot (fill value) segment rest (some value) fill := by
  cases slot with
  | entry notList =>
      have again :
          Slot (.map (Entries.insert root.entries segment value))
            segment rest _ _ :=
        .entry nofun
      simpa [Value.entries] using again
  | @item items _ _ index _ named found =>
      have inside := (List.getElem?_eq_some_iff.mp found).1
      have again :
          Slot (.list (items.set index value)) segment rest (some value)
            fun next => .list ((items.set index value).set index next) :=
        .item named (by simp [inside])
      simpa using again
  | behind _ =>
      exact (further rfl).elim

/-- A write that goes further writes below the part in the slot. -/
theorem assign_further
    (slot : Slot root segment rest part? fill)
    (further : rest ≠ [])
    (value : Value) :
    assign root (segment :: rest) value =
      ⟨fill (assign (part?.getD (.map [])) rest value).root,
        (assign (part?.getD (.map [])) rest value).outcome⟩ := by
  rw [slot.assign_eq, assignBelow_of_ne_nil further]

/-- After it has been filled, a write goes into the new part. -/
theorem assign_filled
    (slot : Slot root segment rest part? fill)
    (further : rest ≠ [])
    (part value : Value) :
    assign (fill part) (segment :: rest) value =
      ⟨fill (assign part rest value).root,
        (assign part rest value).outcome⟩ := by
  rw [(slot.filled further part).assign_further further,
    Option.getD_some]

/-- A slot filled with values that agree gives containers that agree. -/
theorem agrees_fill
    (slot : Slot root segment rest part? fill)
    (further : rest ≠ [])
    {left right : Value}
    (agrees : Agrees Eq left right) :
    Agrees Eq (fill left) (fill right) := by
  cases slot with
  | entry _ =>
      exact Value.agrees_insert _ _ agrees
  | item _ _ =>
      exact Value.agrees_set _ _ agrees
  | behind _ =>
      exact (further rfl).elim

/-! ## Two slots of one container -/

/-- An entry that is written leaves the slot of another key as it is. -/
theorem entry_beside
    (fields : Entries Value)
    (different : segment ≠ turn)
    (value : Value)
    (others : List String) :
    Slot (.map (Entries.insert fields segment value)) turn others
      (Entries.get? fields turn)
      fun turnValue =>
        .map (Entries.insert
          (Entries.insert fields segment value) turn turnValue) := by
  rw [← Entries.get?_insert_other fields value different.symm]
  exact .entry nofun

section

variable
  {items : List Value}
  {index turnIndex : Nat}
  {part : Value}

/-- An item that is exchanged leaves the slots of the others as they are. -/
theorem item_beside_item
    (named : Text.ordinal? segment = some index)
    (found : items[index]? = some part)
    (apart : turnIndex ≠ index)
    (value : Value)
    (rest : List String) :
    Slot (.list (items.set turnIndex value)) segment rest (some part)
      fun changed => .list ((items.set turnIndex value).set index changed) :=
  .item named (by rw [List.getElem?_set_ne apart, found])

/-- An item that is appended leaves the slots of the others as they are. -/
theorem item_beside_behind
    (named : Text.ordinal? segment = some index)
    (found : items[index]? = some part)
    (value : Value)
    (rest : List String) :
    Slot (.list (items ++ [value])) segment rest (some part)
      fun changed => .list ((items ++ [value]).set index changed) := by
  have inside := (List.getElem?_eq_some_iff.mp found).1
  exact .item named (by rw [List.getElem?_append_left inside, found])

/-- An item that is exchanged leaves the end of its list where it is. -/
theorem behind_beside_item
    (named : Text.ordinal? segment = some items.length)
    (turnIndex : Nat)
    (value : Value) :
    Slot (.list (items.set turnIndex value)) segment [] none
      fun changed => .list (items.set turnIndex value ++ [changed]) :=
  .behind (by simpa using named)

end

/--
Filling one slot leaves another one as it is, and what comes of filling both
is the same in either order, the order of keys aside.
-/
theorem beside
    (slot : Slot root segment rest part? fill)
    (turnSlot : Slot root turn others turnPart? turnFill)
    (different : segment ≠ turn)
    (otherItem :
      ∀ items, root = .list items → ¬ NameSameItem segment turn)
    (value turnValue : Value) :
    ∃ fillThen turnFillThen,
      Slot (turnFill turnValue) segment rest part? fillThen ∧
        Slot (fill value) turn others turnPart? turnFillThen ∧
        Agrees Eq (turnFillThen turnValue) (fillThen value) := by
  cases slot with
  | entry notList =>
      cases turnSlot with
      | entry _ =>
          exact
            ⟨_, _, entry_beside _ different.symm turnValue rest,
              entry_beside _ different value others,
              Value.agrees_insert_insert _ different value turnValue⟩
      | item _ _ | behind _ =>
          exact (notList _ rfl).elim
  | @item items _ _ index _ named found =>
      have inside := (List.getElem?_eq_some_iff.mp found).1
      cases turnSlot with
      | entry notList =>
          exact (notList _ rfl).elim
      | @item _ _ _ turnIndex _ turnNamed turnFound =>
          have apart : index ≠ turnIndex := by
            rintro rfl
            exact otherItem items rfl ⟨index, named, turnNamed⟩
          refine
            ⟨_, _, item_beside_item named found apart.symm turnValue rest,
              item_beside_item turnNamed turnFound apart value others, ?_⟩
          rw [List.set_comm _ _ apart]
          exact Value.agrees_self _
      | behind turnNamed =>
          refine
            ⟨_, _, item_beside_behind named found turnValue rest,
              behind_beside_item turnNamed index value, ?_⟩
          rw [List.set_append_left _ _ inside]
          exact Value.agrees_self _
  | @behind items _ named =>
      cases turnSlot with
      | entry notList =>
          exact (notList _ rfl).elim
      | @item _ _ _ turnIndex _ turnNamed turnFound =>
          have inside := (List.getElem?_eq_some_iff.mp turnFound).1
          refine
            ⟨_, _, behind_beside_item named turnIndex turnValue,
              item_beside_behind turnNamed turnFound value others, ?_⟩
          rw [List.set_append_left _ _ inside]
          exact Value.agrees_self _
      | behind turnNamed =>
          exact (otherItem items rfl ⟨_, named, turnNamed⟩).elim

end Slot

/-! ## Two writes -/

section

variable
  {root value otherValue : Value}
  {old otherOld : Option Value}

/--
What two writes at places that part come to in one order and in the other: each
tells what it tells alone, and the trees agree but for the order of keys.
-/
structure InEitherOrder
    (root : Value)
    (place other : List String)
    (value otherValue : Value) :
    Prop where
  outcome_eq :
    (assign (assign root other otherValue).root place value).outcome =
      (assign root place value).outcome
  other_outcome_eq :
    (assign (assign root place value).root other otherValue).outcome =
      (assign root other otherValue).outcome
  agrees :
    Agrees Eq
      (assign (assign root place value).root other otherValue).root
      (assign (assign root other otherValue).root place value).root

/-- Writes into different slots of the root can change places. -/
theorem inEitherOrder_of_slots
    {segment turn : String}
    {rest others : List String}
    {part? turnPart? : Option Value}
    {fill turnFill : Value → Value}
    (slot : Slot root segment rest part? fill)
    (turnSlot : Slot root turn others turnPart? turnFill)
    (different : segment ≠ turn)
    (otherItem :
      ∀ items, root = .list items → ¬ NameSameItem segment turn) :
    InEitherOrder root (segment :: rest) (turn :: others)
      value otherValue := by
  obtain ⟨fillThen, turnFillThen, slotThen, turnSlotThen, agrees⟩ :=
    slot.beside turnSlot different otherItem
      (assignBelow part? rest value).root
      (assignBelow turnPart? others otherValue).root
  constructor
  · rw [turnSlot.assign_eq, slotThen.assign_eq, slot.assign_eq]
  · rw [slot.assign_eq, turnSlotThen.assign_eq, turnSlot.assign_eq]
  · rw [slot.assign_eq, turnSlotThen.assign_eq, turnSlot.assign_eq,
      slotThen.assign_eq]
    exact agrees

/-- Writes that can change places in a part can do so in the whole. -/
theorem InEitherOrder.inside
    {segment : String}
    {place other : List String}
    {part? : Option Value}
    {fill : Value → Value}
    (slot : Slot root segment place part? fill)
    (further : place ≠ [])
    (otherFurther : other ≠ [])
    (inPart :
      InEitherOrder (part?.getD (.map [])) place other
        value otherValue) :
    InEitherOrder root (segment :: place) (segment :: other)
      value otherValue := by
  have otherSlot := slot.onward further other
  constructor
  · rw [otherSlot.assign_further otherFurther,
      slot.assign_filled further, slot.assign_further further]
    exact inPart.outcome_eq
  · rw [slot.assign_further further,
      otherSlot.assign_filled otherFurther,
      otherSlot.assign_further otherFurther]
    exact inPart.other_outcome_eq
  · rw [slot.assign_further further,
      otherSlot.assign_filled otherFurther,
      otherSlot.assign_further otherFurther,
      slot.assign_filled further]
    exact slot.agrees_fill further inPart.agrees

/-- Places that part below a segment part in what the segment leads to. -/
theorem resolve?_of_part
    {segment : String}
    {way : List String}
    {items : List Value}
    (resolved :
      resolve? ((child? root segment).getD (.map [])) way =
        some (.list items)) :
    resolve? root (segment :: way) = some (.list items) := by
  rw [resolve?_cons_eq_bind]
  cases reached : child? root segment with
  | some part =>
      simpa [reached] using resolved
  | none =>
      -- What is missing is made as an empty map, and no list is in it.
      rw [reached, Option.getD_none] at resolved
      cases way with
      | nil =>
          cases resolved
      | cons next way =>
          simp [resolve?, child?, Entries.get?] at resolved

/-- Writes that each succeed alone can be done in either order. -/
theorem inEitherOrder_of_apartIn
    {place other : List String}
    (apart : ApartIn root place other)
    (succeeds : (assign root place value).outcome = .ok old)
    (otherSucceeds :
      (assign root other otherValue).outcome = .ok otherOld) :
    InEitherOrder root place other value otherValue := by
  obtain ⟨way, segment, rest, turn, others, rfl, rfl, different,
    otherItem⟩ := apart
  -- The induction is along the way that both places share.
  induction way generalizing root with
  | nil =>
      obtain ⟨part?, fill, slot⟩ := Slot.exists_of_assign succeeds
      obtain ⟨turnPart?, turnFill, turnSlot⟩ :=
        Slot.exists_of_assign otherSucceeds
      refine inEitherOrder_of_slots slot turnSlot different ?_
      rintro items rfl
      exact otherItem items rfl
  | cons first way inductionHypothesis =>
      rw [List.cons_append] at succeeds otherSucceeds ⊢
      have further : way ++ segment :: rest ≠ [] := by
        simp
      have otherFurther : way ++ turn :: others ≠ [] := by
        simp
      obtain ⟨part?, fill, slot⟩ := Slot.exists_of_assign succeeds
      have otherSlot := slot.onward further (way ++ turn :: others)
      rw [slot.assign_further further] at succeeds
      rw [otherSlot.assign_further otherFurther] at otherSucceeds
      refine .inside slot further otherFurther ?_
      refine inductionHypothesis succeeds otherSucceeds ?_
      intro items resolved
      rw [← slot.child?_eq] at resolved
      exact otherItem items (resolve?_of_part resolved)

/--
Two writes at places that part in a tree, each of which succeeds in it, succeed
in either order and tell what each tells alone.  The trees that come of the two
orders agree, the order of keys aside.
-/
theorem assign_assign_of_apartIn
    {place other : List String}
    (apart : ApartIn root place other)
    (succeeds : (assign root place value).outcome = .ok old)
    (otherSucceeds :
      (assign root other otherValue).outcome = .ok otherOld) :
    let first := assign root place value
    let otherFirst := assign root other otherValue
    (assign first.root other otherValue).outcome = .ok otherOld ∧
      (assign otherFirst.root place value).outcome = .ok old ∧
      Agrees Eq (assign first.root other otherValue).root
        (assign otherFirst.root place value).root := by
  have either := inEitherOrder_of_apartIn apart succeeds otherSucceeds
  refine ⟨?_, ?_, either.agrees⟩
  · rw [either.other_outcome_eq, otherSucceeds]
  · rw [either.outcome_eq, succeeds]

end

/-- A third item is appended, and a key is written in place of the second. -/
theorem assign_assign_of_apartIn_thirdItem :
    let root := Store.tagged.state
    let place := ["tags", "2"]
    let other := ["tags", "+1", "name"]
    let first := assign root place .null
    let otherFirst := assign root other (.bool true)
    ApartIn root place other ∧
      first.outcome = .ok none ∧
      otherFirst.outcome = .ok none ∧
      (assign first.root other (.bool true)).outcome = .ok none ∧
      (assign otherFirst.root place .null).outcome = .ok none ∧
      Agrees Eq (assign first.root other (.bool true)).root
        (assign otherFirst.root place .null).root := by
  intro root place other first otherFirst
  have apart : ApartIn root place other := by
    refine ⟨["tags"], "2", [], "+1", ["name"], rfl, rfl, by decide, ?_⟩
    rintro _ _ ⟨index, isThird, isSecond⟩
    have third : Text.ordinal? "2" = some 2 := by
      decide +kernel
    have second : Text.ordinal? "+1" = some 1 := by
      decide +kernel
    rw [third] at isThird
    rw [second] at isSecond
    cases isThird
    cases isSecond
  have succeeds : first.outcome = .ok none :=
    rfl
  have otherSucceeds : otherFirst.outcome = .ok none :=
    rfl
  exact
    ⟨apart, succeeds, otherSucceeds,
      assign_assign_of_apartIn apart succeeds otherSucceeds⟩

end Path

end Mockup
