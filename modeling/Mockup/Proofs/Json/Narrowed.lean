import Mockup.Proofs.Json.Rewritten

namespace Mockup

/-!
# Trees with integers of 64 bits

The value of a tree has no integers beyond 64 bits: it has doubles in their
place.  The same may be done to the tree itself.  Where no key is repeated
that is all that is lost on the way to a value, so the narrowed tree is exact.
-/

namespace Json

mutual

/-- The same tree with doubles in place of integers beyond 64 bits. -/
def narrowed : Json → Json
  | .null =>
      .null
  | .bool value =>
      .bool value
  | .integer value =>
      if Value.intBounds.1 ≤ value && value ≤ Value.intBounds.2 then
        .integer value
      else
        .number (.ofInt value)
  | .number value =>
      .number value
  | .string value =>
      .string value
  | .array items =>
      .array (narrowedItems items)
  | .object fields =>
      .object (narrowedFields fields)

/-- The items of an array, narrowed. -/
def narrowedItems : List Json → List Json
  | [] =>
      []
  | item :: items =>
      narrowed item :: narrowedItems items

/-- The members of an object, narrowed. -/
def narrowedFields :
    List (String × Json) → List (String × Json)
  | [] =>
      []
  | (key, value) :: fields =>
      (key, narrowed value) :: narrowedFields fields

end

theorem narrowed_array
    (items : List Json) :
    (array items).narrowed = .array (items.map narrowed) := by
  have each : narrowedItems items = items.map narrowed := by
    induction items with
    | nil =>
        rfl
    | cons item items inductionHypothesis =>
        rw [narrowedItems, inductionHypothesis, List.map_cons]
  rw [narrowed, each]

theorem narrowed_object
    (fields : Entries Json) :
    (object fields).narrowed =
      .object (Entries.mapValues narrowed fields) := by
  have each : narrowedFields fields = Entries.mapValues narrowed fields := by
    induction fields with
    | nil =>
        rfl
    | cons field fields inductionHypothesis =>
        rw [narrowedFields, inductionHypothesis]
        rfl
  rw [narrowed, each]

/-! ## Narrowed trees and their values -/

/-- A narrowed tree has the same value. -/
theorem ofJson_narrowed
    {json : Json}
    (finite : json.HasFiniteNumbers) :
    Value.ofJson json.narrowed = .ofJson json := by
  induction finite with
  | @scalar part isScalar =>
      cases part with
      | null | bool _ | number _ | string _ =>
          rfl
      | integer value =>
          rw [narrowed, Value.ofJson, Value.ofInteger]
          split
          · rename_i within
            rw [Value.ofJson, Value.ofInteger, if_pos within]
          · rw [Value.ofJson]
      | array _ | object _ =>
          cases isScalar
  | @array items _ inductionHypothesis =>
      rw [narrowed_array, Value.ofJson, Value.ofJson,
        Value.ofJsonItems_eq_map, Value.ofJsonItems_eq_map, List.map_map]
      exact congrArg Value.list (List.map_congr_left inductionHypothesis)
  | @object fields _ inductionHypothesis =>
      have each :
          Entries.mapValues Value.ofJson
              (Entries.mapValues narrowed fields) =
            Entries.mapValues Value.ofJson fields := by
        rw [Entries.mapValues_mapValues]
        exact Entries.mapValues_congr inductionHypothesis
      rw [narrowed_object, Value.ofJson, Value.ofJson,
        Value.ofJsonFields_eq_mapValues, Value.ofJsonFields_eq_mapValues,
        each]

/-- Keys may be sorted before a tree is narrowed or after. -/
theorem sorted_narrowed
    {json : Json}
    (finite : json.HasFiniteNumbers) :
    json.narrowed.sorted = json.sorted.narrowed := by
  induction finite with
  | @scalar part isScalar =>
      cases part with
      | null | bool _ | number _ | string _ =>
          simp only [narrowed, sorted]
      | integer value =>
          rw [narrowed, sorted, narrowed]
          split <;> rw [sorted]
      | array _ | object _ =>
          cases isScalar
  | @array items _ inductionHypothesis =>
      rw [narrowed_array, sorted_array, sorted_array, narrowed_array,
        List.map_map, List.map_map]
      exact congrArg array (List.map_congr_left inductionHypothesis)
  | @object fields _ inductionHypothesis =>
      have each :
          Entries.mapValues sorted (Entries.mapValues narrowed fields) =
            Entries.mapValues narrowed (Entries.mapValues sorted fields) := by
        rw [Entries.mapValues_mapValues, Entries.mapValues_mapValues]
        exact Entries.mapValues_congr inductionHypothesis
      rw [narrowed_object, sorted_object, sorted_object, narrowed_object,
        each, Entries.sorted_mapValues]

/-! ## Distinct keys -/

/-- A tree in which no key is repeated. -/
inductive HasDistinctKeys : Json → Prop where
  | null :
      HasDistinctKeys .null
  | bool (value : Bool) :
      HasDistinctKeys (.bool value)
  | integer (value : Int) :
      HasDistinctKeys (.integer value)
  | number (value : Double) :
      HasDistinctKeys (.number value)
  | string (value : String) :
      HasDistinctKeys (.string value)
  | array
      {items : List Json} :
      (∀ item ∈ items, HasDistinctKeys item) →
      HasDistinctKeys (.array items)
  | object
      {fields : Entries Json} :
      (Entries.names fields).Nodup →
      (∀ field ∈ fields, HasDistinctKeys field.2) →
      HasDistinctKeys (.object fields)

/-- Without repeated keys a narrowed tree is exact. -/
theorem exact_narrowed
    {json : Json}
    (finite : json.HasFiniteNumbers)
    (distinct : json.HasDistinctKeys) :
    json.narrowed.IsExact := by
  induction distinct with
  | null =>
      exact .null
  | bool value =>
      exact .bool value
  | integer value =>
      rw [narrowed]
      split
      · rename_i within
        rw [Bool.and_eq_true, decide_eq_true_eq, decide_eq_true_eq]
          at within
        exact .integer within.1 within.2
      · cases finite with
        | scalar isFinite =>
            exact .number isFinite
  | number value =>
      cases finite with
      | scalar isFinite =>
          exact .number isFinite
  | string value =>
      exact .string value
  | @array items _ inductionHypothesis =>
      rw [narrowed_array]
      refine .array ?_
      rw [List.forall_mem_map]
      exact fun item member =>
        inductionHypothesis item member (finite.items item member)
  | @object fields distinct _ inductionHypothesis =>
      rw [narrowed_object]
      refine .object (by simpa using distinct) ?_
      unfold Entries.mapValues
      rw [List.forall_mem_map]
      exact fun field member =>
        inductionHypothesis field member (finite.fields field member)

/-- No key is repeated in an exact tree. -/
theorem IsExact.hasDistinctKeys
    {json : Json}
    (exact : json.IsExact) :
    json.HasDistinctKeys := by
  induction exact with
  | null =>
      exact .null
  | bool value =>
      exact .bool value
  | integer _ _ =>
      exact .integer _
  | number _ =>
      exact .number _
  | string value =>
      exact .string value
  | array _ inductionHypothesis =>
      exact .array inductionHypothesis
  | object distinct _ inductionHypothesis =>
      exact .object distinct inductionHypothesis

/-- An exact tree is narrow already. -/
theorem IsExact.narrowed_eq
    {json : Json}
    (exact : json.IsExact) :
    json.narrowed = json := by
  induction exact with
  | null | bool _ | number _ | string _ =>
      simp only [narrowed]
  | integer least greatest =>
      rw [narrowed, if_pos (by simp [least, greatest])]
  | @array items _ inductionHypothesis =>
      rw [narrowed_array]
      refine congrArg Json.array ?_
      exact (List.map_congr_left inductionHypothesis).trans
        (List.map_id items)
  | @object fields _ _ inductionHypothesis =>
      rw [narrowed_object]
      refine congrArg Json.object ?_
      exact (Entries.mapValues_congr inductionHypothesis).trans
        (Entries.mapValues_id fields)

/-! ## Reading narrowed trees -/

/-- The fields of a narrowed record are those of the record, narrowed. -/
theorem record?_narrowed
    (known : List String)
    (json : Json) :
    json.narrowed.record? known =
      (json.record? known).map (Entries.mapValues narrowed) := by
  cases json with
  | array items =>
      have zipped :
          known.zip (items.map narrowed) =
            Entries.mapValues narrowed (known.zip items) :=
        List.zip_map_right
      rw [narrowed_array, record?, record?, List.length_map, zipped]
      split <;> rfl
  | object fields =>
      have unrepeated :
          isUnrepeated (Entries.mapValues narrowed fields) =
            isUnrepeated fields := by
        funext name
        rw [Bool.eq_iff_iff, isUnrepeated_iff, isUnrepeated_iff,
          Entries.names_mapValues]
      rw [narrowed_object, record?, members?, unrepeated, record?, members?]
      · split <;> rfl
      · simp
      · simp
  | integer value =>
      rw [narrowed]
      split <;> rfl
  | null | bool _ | number _ | string _ =>
      rfl

/-- The reader takes doubles where integers are beyond 64 bits. -/
def TakesNarrowed
    (read? : Json → Option α) :
    Prop :=
  ∀ json : Json,
    json.HasFiniteNumbers → read? json.narrowed = read? json

theorem takesNarrowed_string :
    TakesNarrowed asString? := by
  rintro (_ | _ | value | _ | _ | _ | _) _
  case integer =>
    rw [narrowed]
    split <;> rfl
  all_goals rfl

theorem takesNarrowed_value :
    TakesNarrowed asValue? :=
  fun _ finite => congrArg some (ofJson_narrowed finite)

theorem TakesNarrowed.list
    {read? : Json → Option α}
    (takes : TakesNarrowed read?) :
    TakesNarrowed (asList? read?) := by
  intro json finite
  cases json with
  | array items =>
      have each := finite.items
      rw [narrowed_array, asList?, asList?]
      clear finite
      induction items with
      | nil =>
          rfl
      | cons item items inductionHypothesis =>
          obtain ⟨finiteItem, finiteItems⟩ := List.forall_mem_cons.mp each
          rw [List.map_cons, List.mapM_cons, List.mapM_cons,
            takes item finiteItem, inductionHypothesis finiteItems]
  | integer value =>
      rw [narrowed]
      split <;> rfl
  | object fields =>
      rw [narrowed_object]
      rfl
  | null | bool _ | number _ | string _ =>
      rfl

/-- In a field too it does. -/
theorem TakesNarrowed.field
    {read? : Json → Option α}
    (takes : TakesNarrowed read?)
    {fields : Entries Json}
    (finite : ∀ field ∈ fields, field.2.HasFiniteNumbers)
    (name : String) :
    ∀ part,
      Entries.get? fields name = some part →
      read? part.narrowed = read? part :=
  fun part found =>
    takes part (finite _ (Entries.mem_of_get?_eq_some found))

section

variable
  {fields : Entries Json}
  {name : String}
  {read? : Json → Option α}
  (same :
    ∀ part,
      Entries.get? fields name = some part →
      read? part.narrowed = read? part)
include same

theorem required?_narrowed :
    required? (Entries.mapValues narrowed fields) name read? =
      required? fields name read? := by
  unfold required?
  rw [Entries.get?_mapValues]
  cases found : Entries.get? fields name with
  | none =>
      rfl
  | some part =>
      exact same part found

theorem defaulted?_narrowed
    (default : α) :
    defaulted? (Entries.mapValues narrowed fields) name default read? =
      defaulted? fields name default read? := by
  unfold defaulted?
  rw [Entries.get?_mapValues]
  cases found : Entries.get? fields name with
  | none =>
      rfl
  | some part =>
      exact same part found

end

/-- An optional field that is narrow already is read as it is. -/
theorem optional?_narrowed
    {fields : Entries Json}
    {name : String}
    (narrow :
      ∀ part, Entries.get? fields name = some part → part.narrowed = part)
    (read? : Json → Option α) :
    optional? (Entries.mapValues narrowed fields) name read? =
      optional? fields name read? := by
  have found :
      Entries.get? (Entries.mapValues narrowed fields) name =
        Entries.get? fields name := by
    rw [Entries.get?_mapValues]
    cases isPart : Entries.get? fields name with
    | none =>
        rfl
    | some part =>
        exact congrArg some (narrow part isPart)
  rw [optional?, optional?, found]

end Json

end Mockup
