import Mockup.Path.Basic
import Mockup.Proofs.Json.Exact
import Mockup.Proofs.Value.Agreement

namespace Mockup

namespace Value

/-!
# Values with their keys in ascending order

A document value that is written as a tree with sorted keys comes back
*arranged*: the keys of every map are in ascending order and nothing else has
changed, as long as the keys are distinct and the doubles finite.  Every
place is then where it was, and what is found there is arranged.
-/

mutual

/-- The same value with the keys of every map in ascending order. -/
def arranged : Value → Value
  | .list items =>
      .list (arrangedItems items)
  | .map fields =>
      .map (Entries.sorted (arrangedFields fields))
  | scalar =>
      scalar

/-- Items with the keys below them in ascending order. -/
def arrangedItems : List Value → List Value
  | [] =>
      []
  | item :: items =>
      arranged item :: arrangedItems items

/-- Entries with the keys below them in ascending order. -/
def arrangedFields :
    List (String × Value) → List (String × Value)
  | [] =>
      []
  | (key, value) :: fields =>
      (key, arranged value) :: arrangedFields fields

end

theorem arranged_list
    (items : List Value) :
    (list items).arranged = .list (items.map arranged) := by
  rw [arranged]
  congr 1
  induction items with
  | nil =>
      rfl
  | cons item items inductionHypothesis =>
      rw [arrangedItems, inductionHypothesis, List.map_cons]

theorem arranged_map
    (fields : Entries Value) :
    (map fields).arranged =
      .map (Entries.sorted (Entries.mapValues arranged fields)) := by
  rw [arranged]
  congr 2
  induction fields with
  | nil =>
      rfl
  | cons field fields inductionHypothesis =>
      rw [arrangedFields, inductionHypothesis]
      rfl

theorem arranged_of_scalar
    {value : Value}
    (isScalar : value.isContainer = false) :
    value.arranged = value := by
  cases value with
  | list _ | map _ =>
      cases isScalar
  | null | bool _ | int _ | float _ | string _ =>
      rw [arranged] <;> simp

/-! ## Portable values -/

/-- The keys of a map are distinct, and a double is finite. -/
def IsPortable : Value → Prop
  | .map fields =>
      (Entries.names fields).Nodup
  | .float number =>
      number.isFinite = true
  | _ =>
      True

/-- A value of which a tree can say everything. -/
abbrev Portable : Value → Prop :=
  Throughout IsPortable

/-- Written with sorted keys, a portable value comes back arranged. -/
theorem ofJson_sorted_ofValue
    {value : Value}
    (portable : value.Portable) :
    ofJson (Json.ofValue value).sorted = value.arranged := by
  induction portable with
  | @intro value here _ inductionHypothesis =>
      cases value with
      | null | bool _ | string _ =>
          simp only [Json.ofValue, Json.sorted, ofJson, arranged]
      | int number =>
          have inBounds :
              (intBounds.1 ≤ number.toInt &&
                number.toInt ≤ intBounds.2) = true := by
            rw [Bool.and_eq_true, decide_eq_true_eq, decide_eq_true_eq]
            exact intBounds_toInt number
          rw [Json.ofValue, Json.sorted, ofJson, ofInteger, if_pos inBounds,
            Int64.ofInt_toInt, arranged_of_scalar rfl]
      | float number =>
          have finite : number.isFinite = true :=
            here
          simp only [Json.ofValue, finite, if_true, Json.sorted, ofJson,
            arranged]
      | list items =>
          rw [Json.ofValue, Json.ofItems_eq_map, Json.sorted_array, ofJson,
            ofJsonItems_eq_map, arranged_list, List.map_map, List.map_map]
          exact congrArg list (List.map_congr_left inductionHypothesis)
      | map fields =>
          have distinct : (Entries.names fields).Nodup :=
            here
          have each :
              Entries.mapValues ofJson
                  (Entries.mapValues Json.sorted
                    (Entries.mapValues Json.ofValue fields)) =
                Entries.mapValues arranged fields := by
            rw [Entries.mapValues_mapValues, Entries.mapValues_mapValues]
            refine Entries.mapValues_congr fun field member => ?_
            exact inductionHypothesis field.2
              (List.mem_map.mpr ⟨field, member, rfl⟩)
          rw [Json.ofValue, Json.ofFields_eq_mapValues, Json.sorted_object,
            ofJson, ofJsonFields_eq_mapValues, arranged_map,
            ← Entries.sorted_mapValues, each, Entries.ofList_of_nodup]
          exact Entries.nodup_names_sorted (by simpa using distinct)

/-! ## Places -/

theorem get?_arranged
    {fields : Entries Value}
    (portable : Portable (.map fields))
    (key : String) :
    Entries.get? (Entries.sorted (Entries.mapValues arranged fields)) key =
      (Entries.get? fields key).map arranged := by
  have distinct : (Entries.names fields).Nodup :=
    portable.here
  rw [Entries.get?_sorted (by simpa using distinct),
    Entries.get?_mapValues]

theorem child?_arranged
    {value : Value}
    (portable : value.Portable)
    (segment : String) :
    Path.child? value.arranged segment =
      (Path.child? value segment).map arranged := by
  cases value with
  | list items =>
      rw [arranged_list]
      simp only [Path.child?]
      cases Text.ordinal? segment with
      | none =>
          rfl
      | some index =>
          exact List.getElem?_map
  | map fields =>
      rw [arranged_map]
      exact get?_arranged portable segment
  | null | bool _ | int _ | float _ | string _ =>
      simp [arranged, Path.child?]

/-- A child is a part. -/
theorem mem_parts_of_child?
    {value child : Value}
    {segment : String}
    (found : Path.child? value segment = some child) :
    child ∈ value.parts := by
  cases value with
  | list items =>
      simp only [Path.child?] at found
      split at found
      · exact List.mem_of_getElem? found
      · cases found
  | map fields =>
      exact mem_parts_of_get? found
  | null | bool _ | int _ | float _ | string _ =>
      cases found

/-- At every place of an arranged value stands what stood there, arranged. -/
theorem resolve?_arranged
    {value : Value}
    (portable : value.Portable)
    (place : List String) :
    Path.resolve? value.arranged place =
      (Path.resolve? value place).map arranged := by
  induction place generalizing value with
  | nil =>
      rfl
  | cons segment place inductionHypothesis =>
      rw [Path.resolve?, Path.resolve?, child?_arranged portable]
      cases found : Path.child? value segment with
      | none =>
          rfl
      | some child =>
          exact inductionHypothesis
            (portable.part (mem_parts_of_child? found))

theorem Portable.resolve?
    {value found : Value}
    (portable : value.Portable)
    {place : List String}
    (resolves : Path.resolve? value place = some found) :
    found.Portable := by
  induction place generalizing value with
  | nil =>
      cases resolves
      exact portable
  | cons segment place inductionHypothesis =>
      rw [Path.resolve?] at resolves
      split at resolves
      · rename_i child isChild
        exact inductionHypothesis
          (portable.part (mem_parts_of_child? isChild)) resolves
      · cases resolves

/-! ## Comparing -/

/-- An arranged value agrees with the value, the order of keys aside. -/
theorem Portable.agrees_arranged
    {value : Value}
    (portable : value.Portable) :
    Agrees Eq value.arranged value := by
  induction portable with
  | @intro value here inside inductionHypothesis =>
      cases value with
      | list items =>
          rw [arranged_list, Agrees.list_iff, List.forall₂_map_left_iff,
            List.forall₂_same]
          exact inductionHypothesis
      | map fields =>
          rw [arranged_map, Agrees.map_iff]
          intro key
          rw [get?_arranged (.intro here inside)]
          cases found : Entries.get? fields key with
          | none =>
              exact .none
          | some part =>
              exact .some
                (inductionHypothesis part (mem_parts_of_get? found))
      | null | bool _ | int _ | float _ | string _ =>
          rw [arranged_of_scalar rfl]
          exact .scalar rfl rfl rfl

theorem strictEqItems_arranged
    {lefts rights : List Value}
    (each :
      ∀ left ∈ lefts, ∀ right ∈ rights,
        left.strictEq right.arranged = left.strictEq right) :
    strictEqItems lefts (rights.map arranged) =
      strictEqItems lefts rights := by
  induction lefts generalizing rights with
  | nil =>
      cases rights <;> rfl
  | cons left lefts inductionHypothesis =>
      cases rights with
      | nil =>
          rfl
      | cons right rights =>
          have rest :=
            inductionHypothesis fun left inLefts right inRights =>
              each left (List.mem_cons_of_mem _ inLefts) right
                (List.mem_cons_of_mem _ inRights)
          rw [List.map_cons, strictEqItems, strictEqItems, rest,
            each left List.mem_cons_self right List.mem_cons_self]

theorem strictEqFields_arranged
    {lefts rights : Entries Value}
    (portable : Portable (.map rights))
    (each :
      ∀ entry ∈ lefts, ∀ right ∈ (map rights).parts,
        entry.2.strictEq right.arranged = entry.2.strictEq right) :
    strictEqFields lefts
        (Entries.sorted (Entries.mapValues arranged rights)) =
      strictEqFields lefts rights := by
  induction lefts with
  | nil =>
      rfl
  | cons entry lefts inductionHypothesis =>
      have rest :=
        inductionHypothesis fun entry member =>
          each entry (List.mem_cons_of_mem _ member)
      rcases entry with ⟨key, left⟩
      rw [strictEqFields, strictEqFields, rest, get?_arranged portable]
      cases found : Entries.get? rights key with
      | none =>
          rfl
      | some right =>
          have head :=
            each _ List.mem_cons_self right (mem_parts_of_get? found)
          simp only [Option.map_some, head]

/-- Strict equality does not see in which order the right keys stand. -/
theorem strictEq_arranged
    (left : Value)
    {right : Value}
    (portable : right.Portable) :
    left.strictEq right.arranged = left.strictEq right := by
  induction left using induction_on_parts generalizing right with
  | step left inductionHypothesis =>
      cases right with
      | null | bool _ | int _ | float _ | string _ =>
          rw [arranged_of_scalar rfl]
      | list rights =>
          rw [arranged_list]
          cases left with
          | list lefts =>
              rw [strictEq, strictEq]
              exact strictEqItems_arranged
                fun left isLeft right isRight =>
                  inductionHypothesis left isLeft (portable.part isRight)
          | null | bool _ | int _ | float _ | string _ | map _ =>
              simp only [strictEq]
      | map rights =>
          rw [arranged_map]
          cases left with
          | map lefts =>
              have sameLength :
                  (Entries.sorted
                    (Entries.mapValues arranged rights)).length =
                    rights.length :=
                (Entries.sorted_perm _).length_eq.trans (List.length_map _)
              rw [strictEq, strictEq, sameLength,
                strictEqFields_arranged portable]
              intro entry member right isRight
              exact inductionHypothesis entry.2
                (List.mem_map.mpr ⟨entry, member, rfl⟩)
                (portable.part isRight)
          | null | bool _ | int _ | float _ | string _ | list _ =>
              simp only [strictEq]

end Value

end Mockup
