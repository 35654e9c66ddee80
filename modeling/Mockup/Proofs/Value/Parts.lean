import Mockup.Proofs.Entries
import Mockup.Value.Basic

namespace Mockup

namespace Value

/-!
# The parts of a value

A container has parts, which are values again, and whatever holds of a value
once it holds of its parts holds of every value.  A value is *sound* when it
can stand in memory: every map has each key once, and the positions of every
list are machine words.
-/

/-- The values directly inside a container. -/
def parts : Value → List Value
  | .list items =>
      items
  | .map fields =>
      Entries.values fields
  | _ =>
      []

/-- What is found under a key of a map is a part of it. -/
theorem mem_parts_of_get?
    {fields : Entries Value}
    {key : String}
    {value : Value}
    (found : Entries.get? fields key = some value) :
    value ∈ (Value.map fields).parts :=
  List.mem_map.mpr ⟨_, Entries.mem_of_get?_eq_some found, rfl⟩

/-- A part is smaller than its container. -/
theorem sizeOf_lt_of_mem_parts
    {value part : Value}
    (member : part ∈ value.parts) :
    sizeOf part < sizeOf value := by
  cases value with
  | list items =>
      have inItems : part ∈ items :=
        member
      have smaller := List.sizeOf_lt_of_mem inItems
      simp only [list.sizeOf_spec]
      omega
  | map fields =>
      obtain ⟨entry, inFields, rfl⟩ := List.mem_map.mp member
      have smaller := List.sizeOf_lt_of_mem inFields
      rcases entry with ⟨key, part⟩
      simp only [Prod.mk.sizeOf_spec] at smaller
      simp only [map.sizeOf_spec]
      omega
  | null | bool _ | int _ | float _ | string _ =>
      simp [parts] at member

/-- What holds of a value once it holds of its parts holds of every value. -/
theorem induction_on_parts
    {motive : Value → Prop}
    (step :
      ∀ value, (∀ part ∈ value.parts, motive part) → motive value)
    (value : Value) :
    motive value :=
  step value fun part _ => induction_on_parts step part
termination_by sizeOf value
decreasing_by
  exact sizeOf_lt_of_mem_parts (by assumption)

/-- Something holds of a value and of everything inside it. -/
inductive Throughout (holds : Value → Prop) : Value → Prop where
  | intro
      {value : Value} :
      holds value →
      (∀ part ∈ value.parts, Throughout holds part) →
      Throughout holds value

namespace Throughout

variable {holds : Value → Prop}

theorem here
    {value : Value}
    (throughout : Throughout holds value) :
    holds value := by
  cases throughout with
  | intro here _ =>
      exact here

theorem part
    {value part : Value}
    (throughout : Throughout holds value)
    (member : part ∈ value.parts) :
    Throughout holds part := by
  cases throughout with
  | intro _ inside =>
      exact inside part member

theorem field
    {fields : Entries Value}
    {key : String}
    {value : Value}
    (throughout : Throughout holds (.map fields))
    (found : Entries.get? fields key = some value) :
    Throughout holds value :=
  throughout.part (mem_parts_of_get? found)

/-- A weaker property holds throughout as well. -/
theorem weaken
    {weaker : Value → Prop}
    (implies : ∀ value, holds value → weaker value)
    {value : Value}
    (throughout : Throughout holds value) :
    Throughout weaker value := by
  induction throughout with
  | intro here _ inductionHypothesis =>
      exact .intro (implies _ here) inductionHypothesis

theorem iff_parts
    {value : Value} :
    Throughout holds value ↔
      holds value ∧ ∀ part ∈ value.parts, Throughout holds part :=
  ⟨fun throughout => ⟨throughout.here, fun _ => throughout.part⟩,
    fun ⟨here, inside⟩ => .intro here inside⟩

@[simp] theorem list_iff
    {items : List Value} :
    Throughout holds (.list items) ↔
      holds (.list items) ∧ ∀ item ∈ items, Throughout holds item :=
  iff_parts

@[simp] theorem map_iff
    {fields : Entries Value} :
    Throughout holds (.map fields) ↔
      holds (.map fields) ∧
        ∀ entry ∈ fields, Throughout holds entry.2 := by
  rw [iff_parts, parts, Entries.values, List.forall_mem_map]

/-- What holds throughout a scalar holds of it. -/
theorem scalar_iff
    {value : Value}
    (isScalar : value.isContainer = false) :
    Throughout holds value ↔ holds value := by
  rw [iff_parts]
  cases value with
  | list _ | map _ =>
      simp [isContainer] at isScalar
  | null | bool _ | int _ | float _ | string _ =>
      simp [parts]

@[simp] theorem null_iff :
    Throughout holds .null ↔ holds .null :=
  scalar_iff rfl

@[simp] theorem bool_iff
    {value : Bool} :
    Throughout holds (.bool value) ↔ holds (.bool value) :=
  scalar_iff rfl

@[simp] theorem int_iff
    {value : Int64} :
    Throughout holds (.int value) ↔ holds (.int value) :=
  scalar_iff rfl

@[simp] theorem float_iff
    {value : Double} :
    Throughout holds (.float value) ↔ holds (.float value) :=
  scalar_iff rfl

@[simp] theorem string_iff
    {value : String} :
    Throughout holds (.string value) ↔ holds (.string value) :=
  scalar_iff rfl

end Throughout

/-! ## Sound values -/

/-- How many positions a list in memory may have. -/
def positionLimit : Nat :=
  Nat.pow 2 64

/-- The keys of a map are distinct, the positions of a list machine words. -/
def IsShaped : Value → Prop
  | .list items =>
      items.length < positionLimit
  | .map fields =>
      (Entries.names fields).Nodup
  | _ =>
      True

/-- Every container inside the value is as it can be in memory. -/
abbrev Sound : Value → Prop :=
  Throughout IsShaped

/-- Writing a sound value under a key of a sound map leaves it sound. -/
theorem Sound.insert
    {fields : Entries Value}
    (sound : Sound (.map fields))
    (key : String)
    {value : Value}
    (valueSound : Sound value) :
    Sound (.map (Entries.insert fields key value)) := by
  refine .intro (Entries.nodup_names_insert sound.here key value) ?_
  intro part member
  obtain ⟨entry, inInserted, rfl⟩ := List.mem_map.mp member
  rcases Entries.mem_insert inInserted with isWritten | wasThere
  · exact isWritten ▸ valueSound
  · exact sound.part (List.mem_map.mpr ⟨entry, wasThere, rfl⟩)

/-- Removing a key of a sound map leaves it sound. -/
theorem Sound.erase
    {fields : Entries Value}
    (sound : Sound (.map fields))
    (key : String) :
    Sound (.map (Entries.erase fields key)) := by
  refine .intro (Entries.nodup_names_erase sound.here key) ?_
  intro part member
  obtain ⟨entry, inErased, rfl⟩ := List.mem_map.mp member
  have wasThere := (Entries.erase_sublist fields key).subset inErased
  exact sound.part (List.mem_map.mpr ⟨entry, wasThere, rfl⟩)

/-! ## Values without what is not a number -/

/-- The value is not the double that is no number. -/
def IsNumeric : Value → Prop
  | .float number =>
      number.isNaN = false
  | _ =>
      True

/-- Every double inside the value is a number. -/
abbrev NaNFree : Value → Prop :=
  Throughout IsNumeric

end Value

end Mockup
