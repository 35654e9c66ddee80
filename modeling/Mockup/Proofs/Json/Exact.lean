import Mockup.Proofs.Entries.Sorted
import Mockup.Proofs.Json.Bounds

namespace Mockup

/-!
# Exact trees

A tree is *exact* when its document value says all that the tree says: no key
is repeated, integers have 64 bits, and numbers are finite.  Then the value is
written as the same tree.  Putting the keys in ascending order leaves a tree
exact, and doing so twice is the same as doing so once.
-/

/-- An integer of 64 bits lies between the least and the greatest. -/
theorem Value.intBounds_toInt
    (value : Int64) :
    intBounds.1 ≤ value.toInt ∧ value.toInt ≤ intBounds.2 :=
  ⟨Int64.le_toInt value, Int.le_sub_one_of_lt (Int64.toInt_lt value)⟩

theorem Value.ofJsonFields_eq_mapValues
    (fields : Entries Json) :
    ofJsonFields fields = Entries.mapValues ofJson fields :=
  ofJsonFields_eq_map fields

namespace Json

theorem ofItems_eq_map
    (items : List Value) :
    ofItems items = items.map ofValue := by
  induction items with
  | nil =>
      rfl
  | cons item items inductionHypothesis =>
      rw [ofItems, inductionHypothesis, List.map_cons]

theorem ofFields_eq_mapValues
    (fields : Entries Value) :
    ofFields fields = Entries.mapValues ofValue fields := by
  induction fields with
  | nil =>
      rfl
  | cons field fields inductionHypothesis =>
      rw [ofFields, inductionHypothesis]
      rfl

theorem sortedItems_eq_map
    (items : List Json) :
    sortedItems items = items.map sorted := by
  induction items with
  | nil =>
      rfl
  | cons item items inductionHypothesis =>
      rw [sortedItems, inductionHypothesis, List.map_cons]

theorem sortedFields_eq_mapValues
    (fields : Entries Json) :
    sortedFields fields = Entries.mapValues sorted fields := by
  induction fields with
  | nil =>
      rfl
  | cons field fields inductionHypothesis =>
      rw [sortedFields, inductionHypothesis]
      rfl

theorem sorted_array
    (items : List Json) :
    (array items).sorted = .array (items.map sorted) := by
  rw [sorted, sortedItems_eq_map]

theorem sorted_object
    (fields : Entries Json) :
    (object fields).sorted =
      .object (Entries.sorted (Entries.mapValues sorted fields)) := by
  rw [sorted, sortedFields_eq_mapValues]

/-! ## Exactness -/

/-- A tree of which the document value says all. -/
inductive IsExact : Json → Prop where
  | null :
      IsExact .null
  | bool (value : Bool) :
      IsExact (.bool value)
  | integer
      {value : Int} :
      Value.intBounds.1 ≤ value →
      value ≤ Value.intBounds.2 →
      IsExact (.integer value)
  | number
      {value : Double} :
      value.isFinite = true →
      IsExact (.number value)
  | string (value : String) :
      IsExact (.string value)
  | array
      {items : List Json} :
      (∀ item ∈ items, IsExact item) →
      IsExact (.array items)
  | object
      {fields : Entries Json} :
      (Entries.names fields).Nodup →
      (∀ field ∈ fields, IsExact field.2) →
      IsExact (.object fields)

namespace IsExact

theorem items
    {items : List Json}
    (exact : IsExact (.array items)) :
    ∀ item ∈ items, item.IsExact := by
  cases exact with
  | array exactItems =>
      exact exactItems

theorem distinct
    {fields : Entries Json}
    (exact : IsExact (.object fields)) :
    (Entries.names fields).Nodup := by
  cases exact with
  | object distinct _ =>
      exact distinct

theorem fields
    {fields : Entries Json}
    (exact : IsExact (.object fields)) :
    ∀ field ∈ fields, field.2.IsExact := by
  cases exact with
  | object _ exactFields =>
      exact exactFields

/-- Sorting keys keeps a tree exact. -/
theorem sorted
    {json : Json}
    (exact : json.IsExact) :
    json.sorted.IsExact := by
  induction exact with
  | null =>
      exact .null
  | bool value =>
      exact .bool value
  | integer least greatest =>
      exact .integer least greatest
  | number finite =>
      exact .number finite
  | string value =>
      exact .string value
  | @array items _ inductionHypothesis =>
      rw [sorted_array]
      refine .array ?_
      rw [List.forall_mem_map]
      exact inductionHypothesis
  | @object fields distinct _ inductionHypothesis =>
      rw [sorted_object]
      refine .object (Entries.nodup_names_sorted (by simpa using distinct)) ?_
      intro field member
      have inFields := (Entries.sorted_perm _).mem_iff.mp member
      obtain ⟨source, isSource, rfl⟩ := List.mem_map.mp inFields
      exact inductionHypothesis source isSource

end IsExact

/-- Sorting the keys of an exact tree twice is sorting them once. -/
theorem sorted_sorted
    {json : Json}
    (exact : json.IsExact) :
    json.sorted.sorted = json.sorted := by
  induction exact with
  | null | bool _ | integer _ _ | number _ | string _ =>
      simp only [sorted]
  | @array items _ inductionHypothesis =>
      rw [sorted_array, sorted_array, List.map_map]
      refine congrArg array (List.map_congr_left ?_)
      exact inductionHypothesis
  | @object fields distinct _ inductionHypothesis =>
      have again :
          Entries.mapValues sorted (Entries.mapValues sorted fields) =
            Entries.mapValues sorted fields := by
        rw [Entries.mapValues_mapValues]
        exact Entries.mapValues_congr inductionHypothesis
      rw [sorted_object, sorted_object, ← Entries.sorted_mapValues, again,
        Entries.sorted_sorted (by simpa using distinct)]

/-- An exact tree is what its document value is written as. -/
theorem ofValue_ofJson
    {json : Json}
    (exact : json.IsExact) :
    ofValue (Value.ofJson json) = json := by
  induction exact with
  | null | bool _ | string _ =>
      simp only [Value.ofJson, ofValue]
  | @integer value least greatest =>
      have inBounds :
          (Value.intBounds.1 ≤ value && value ≤ Value.intBounds.2) =
            true := by
        rw [Bool.and_eq_true, decide_eq_true_eq, decide_eq_true_eq]
        exact ⟨least, greatest⟩
      rw [Value.ofJson, Value.ofInteger, if_pos inBounds, ofValue,
        Int64.toInt_ofInt_of_le least (Int.lt_of_le_sub_one greatest)]
  | number finite =>
      rw [Value.ofJson, ofValue, if_pos finite]
  | @array items _ inductionHypothesis =>
      rw [Value.ofJson, Value.ofJsonItems_eq_map, ofValue, ofItems_eq_map,
        List.map_map]
      refine congrArg array ?_
      exact (List.map_congr_left inductionHypothesis).trans
        (List.map_id items)
  | @object fields distinct _ inductionHypothesis =>
      have same :
          Entries.mapValues ofValue
              (Entries.mapValues Value.ofJson fields) =
            fields := by
        rw [Entries.mapValues_mapValues]
        exact (Entries.mapValues_congr inductionHypothesis).trans
          (Entries.mapValues_id fields)
      rw [Value.ofJson, Value.ofJsonFields_eq_mapValues,
        Entries.ofList_of_nodup (by simpa using distinct), ofValue,
        ofFields_eq_mapValues, same]

/-- A sound document value is written as an exact tree. -/
theorem exact_ofValue
    {value : Value}
    (sound : value.Sound) :
    (ofValue value).IsExact := by
  induction sound with
  | @intro value shaped _ inductionHypothesis =>
      cases value with
      | null =>
          exact .null
      | bool value =>
          exact .bool value
      | int value =>
          exact .integer (Value.intBounds_toInt value).1
            (Value.intBounds_toInt value).2
      | float value =>
          rw [ofValue]
          split
          · rename_i finite
            exact .number finite
          · exact .null
      | string value =>
          exact .string value
      | list items =>
          rw [ofValue, ofItems_eq_map]
          refine .array ?_
          rw [List.forall_mem_map]
          exact inductionHypothesis
      | map fields =>
          rw [ofValue, ofFields_eq_mapValues]
          have distinct : (Entries.names fields).Nodup :=
            shaped
          refine .object (by simpa using distinct) ?_
          intro field member
          obtain ⟨source, isSource, rfl⟩ := List.mem_map.mp member
          exact inductionHypothesis source.2
            (List.mem_map.mpr ⟨source, isSource, rfl⟩)

end Json

end Mockup
