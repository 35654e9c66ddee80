import Mockup.Proofs.Value.Agreement

namespace Mockup

namespace Value

/-!
# Values that agree but for the order of their keys

Values agree up to equal scalars when they differ in the order of keys at most.
Every value agrees with itself in this way, and exchanging a part for one that
agrees with it keeps a container in agreement.
-/

/-- What holds of every value holds throughout every value. -/
theorem Throughout.of_forall
    {holds : Value → Prop}
    (always : ∀ value, holds value)
    (value : Value) :
    Throughout holds value :=
  induction_on_parts (fun value => .intro (always value)) value

/-- Every value agrees with itself. -/
theorem agrees_self
    (value : Value) :
    Agrees Eq value value :=
  .refl_of <| .of_forall (fun _ _ => rfl) value

/-! ## Maps -/

/-- Maps in which every look-up gives the same agree. -/
theorem agrees_map_of_get?_eq
    {lefts rights : Entries Value}
    (same : ∀ key, Entries.get? lefts key = Entries.get? rights key) :
    Agrees Eq (.map lefts) (.map rights) := by
  refine Agrees.map_iff.mpr fun key => ?_
  rw [same key]
  cases Entries.get? rights key with
  | none =>
      exact .none
  | some value =>
      exact .some (agrees_self value)

/-- Writing values that agree under a key leaves maps that agree. -/
theorem agrees_insert
    (fields : Entries Value)
    (key : String)
    {left right : Value}
    (agrees : Agrees Eq left right) :
    Agrees Eq (.map (Entries.insert fields key left))
      (.map (Entries.insert fields key right)) := by
  refine Agrees.map_iff.mpr fun other => ?_
  by_cases same : other = key
  · subst other
    rw [Entries.get?_insert_same, Entries.get?_insert_same]
    exact .some agrees
  · rw [Entries.get?_insert_other _ _ same,
      Entries.get?_insert_other _ _ same]
    exact Agrees.map_iff.mp (agrees_self (.map fields)) other

/-- Two keys can be written in either order. -/
theorem agrees_insert_insert
    (fields : Entries Value)
    {key other : String}
    (different : key ≠ other)
    (value otherValue : Value) :
    Agrees Eq
      (.map (Entries.insert
        (Entries.insert fields key value) other otherValue))
      (.map (Entries.insert
        (Entries.insert fields other otherValue) key value)) := by
  refine agrees_map_of_get?_eq fun name => ?_
  by_cases isOther : name = other
  · subst name
    rw [Entries.get?_insert_same,
      Entries.get?_insert_other _ _ different.symm,
      Entries.get?_insert_same]
  · rw [Entries.get?_insert_other _ _ isOther]
    by_cases isKey : name = key
    · subst name
      rw [Entries.get?_insert_same, Entries.get?_insert_same]
    · rw [Entries.get?_insert_other _ _ isKey,
        Entries.get?_insert_other _ _ isKey,
        Entries.get?_insert_other _ _ isOther]

/-- An entry that was removed and is written again comes last at most. -/
theorem agrees_insert_erase
    {fields : Entries Value}
    {key : String}
    {value : Value}
    (found : Entries.get? fields key = some value) :
    Agrees Eq
      (.map (Entries.insert (Entries.erase fields key) key value))
      (.map fields) := by
  refine agrees_map_of_get?_eq fun name => ?_
  by_cases same : name = key
  · subst name
    rw [Entries.get?_insert_same, found]
  · rw [Entries.get?_insert_other _ _ same,
      Entries.get?_erase_other _ same]

/-! ## Lists -/

/-- Lists with items that agree at one position agree. -/
theorem agrees_set
    (items : List Value)
    (index : Nat)
    {left right : Value}
    (agrees : Agrees Eq left right) :
    Agrees Eq (.list (items.set index left))
      (.list (items.set index right)) := by
  refine .list (by simp) ?_
  intro position leftItem rightItem atLeft atRight
  rw [List.getElem?_set] at atLeft atRight
  split at atLeft
  · rename_i isIndex
    rw [if_pos isIndex] at atRight
    split at atLeft
    · rename_i inside
      rw [if_pos inside] at atRight
      cases atLeft
      cases atRight
      exact agrees
    · cases atLeft
  · rename_i notIndex
    rw [if_neg notIndex, atLeft] at atRight
    cases atRight
    exact agrees_self leftItem

end Value

end Mockup
