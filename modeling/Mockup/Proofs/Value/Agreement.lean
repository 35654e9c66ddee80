import Mathlib.Data.List.Forall2
import Mockup.Proofs.Value.Parts
import Mockup.Value.Equality

namespace Mockup

/-!
# Agreement of values

Two values agree when their scalars are related in a given way, their lists
agree item by item, and their maps have the same keys, in whatever order, with
values that agree.  Strict equality is agreement up to strict equality of
scalars.  Numbers *coincide* when they are equal as doubles; unlike strict
equality this is transitive.
-/

/-- Doubles that equal the same double are equal. -/
theorem Double.equals_trans
    {left middle right : Double}
    (first : left.equals middle = true)
    (second : middle.equals right = true) :
    left.equals right = true := by
  cases left <;> cases middle <;> cases right <;>
    simp_all [Double.equals, Double.signedRank?]

namespace Value

/-- Agreement of two values whose scalars are related. -/
inductive Agrees (related : Value → Value → Prop) : Value → Value → Prop where
  | scalar
      {left right : Value} :
      left.isContainer = false →
      right.isContainer = false →
      related left right →
      Agrees related left right
  | list
      {lefts rights : List Value} :
      lefts.length = rights.length →
      (∀ (index : Nat) left right,
        lefts[index]? = some left →
        rights[index]? = some right →
        Agrees related left right) →
      Agrees related (.list lefts) (.list rights)
  | map
      {lefts rights : Entries Value} :
      (∀ key,
        key ∈ Entries.names lefts ↔ key ∈ Entries.names rights) →
      (∀ key left right,
        Entries.get? lefts key = some left →
        Entries.get? rights key = some right →
        Agrees related left right) →
      Agrees related (.map lefts) (.map rights)

namespace Agrees

variable {related : Value → Value → Prop}

/-! ## Lists -/

/-- Lists agree exactly when their items agree one by one. -/
theorem list_iff
    {lefts rights : List Value} :
    Agrees related (.list lefts) (.list rights) ↔
      List.Forall₂ (Agrees related) lefts rights := by
  constructor
  · intro agrees
    cases agrees with
    | scalar leftScalar _ _ =>
        simp [isContainer] at leftScalar
    | list sameLength items =>
        induction lefts generalizing rights with
        | nil =>
            cases rights with
            | nil =>
                exact .nil
            | cons right rights =>
                simp at sameLength
        | cons left lefts inductionHypothesis =>
            cases rights with
            | nil =>
                simp at sameLength
            | cons right rights =>
                have head := items 0 left right rfl rfl
                have tail :=
                  inductionHypothesis (by simpa using sameLength)
                    fun index => items (index + 1)
                exact .cons head tail
  · intro items
    induction items with
    | nil =>
        exact .list rfl (by simp)
    | @cons left right lefts rights head tail inductionHypothesis =>
        have sameLength : lefts.length = rights.length := by
          cases inductionHypothesis with
          | scalar leftScalar _ _ =>
              simp [isContainer] at leftScalar
          | list sameLength _ =>
              exact sameLength
        refine .list (by simp [sameLength]) ?_
        intro index
        cases index with
        | zero =>
            simp only [List.getElem?_cons_zero, Option.some.injEq]
            rintro _ _ rfl rfl
            exact head
        | succ index =>
            cases inductionHypothesis with
            | scalar leftScalar _ _ =>
                simp [isContainer] at leftScalar
            | list _ items =>
                simpa using items index

/-! ## Maps -/

/-- Maps agree exactly when they agree under every key. -/
theorem map_iff
    {lefts rights : Entries Value} :
    Agrees related (.map lefts) (.map rights) ↔
      ∀ key,
        Option.Rel (Agrees related)
          (Entries.get? lefts key) (Entries.get? rights key) := by
  constructor
  · intro agrees key
    cases agrees with
    | scalar leftScalar _ _ =>
        simp [isContainer] at leftScalar
    | map sameNames values =>
        have sameKey := sameNames key
        simp only [← Entries.get?_isSome_iff] at sameKey
        cases atLeft : Entries.get? lefts key with
        | none =>
            cases atRight : Entries.get? rights key with
            | none =>
                exact .none
            | some right =>
                simp [atLeft, atRight] at sameKey
        | some left =>
            cases atRight : Entries.get? rights key with
            | none =>
                simp [atLeft, atRight] at sameKey
            | some right =>
                exact .some (values key left right atLeft atRight)
  · intro under
    refine .map ?_ ?_
    · intro key
      have underKey := under key
      simp only [← Entries.get?_isSome_iff]
      generalize Entries.get? lefts key = atLeft at underKey
      generalize Entries.get? rights key = atRight at underKey
      cases underKey <;> simp
    · intro key left right atLeft atRight
      have underKey := under key
      rw [atLeft, atRight] at underKey
      cases underKey with
      | some agrees =>
          exact agrees

/-! ## Shapes -/

/-- What agrees with a list is a list. -/
theorem exists_list
    {held : Value}
    {items : List Value}
    (agrees : Agrees related held (.list items)) :
    ∃ helds,
      held = .list helds ∧
        List.Forall₂ (Agrees related) helds items := by
  cases agrees with
  | scalar _ rightScalar _ =>
      simp [isContainer] at rightScalar
  | @list lefts _ sameLength inside =>
      exact ⟨lefts, rfl, list_iff.mp (.list sameLength inside)⟩

theorem exists_map
    {held : Value}
    {fields : Entries Value}
    (agrees : Agrees related held (.map fields)) :
    ∃ helds,
      held = .map helds ∧
        ∀ key,
          Option.Rel (Agrees related)
            (Entries.get? helds key) (Entries.get? fields key) := by
  cases agrees with
  | scalar _ rightScalar _ =>
      simp [isContainer] at rightScalar
  | @map lefts _ sameNames values =>
      exact ⟨lefts, rfl, map_iff.mp (.map sameNames values)⟩

/-- What agrees with a scalar is a scalar related to it. -/
theorem of_scalar
    {held value : Value}
    (agrees : Agrees related held value)
    (isScalar : value.isContainer = false) :
    held.isContainer = false ∧ related held value := by
  cases agrees with
  | scalar leftScalar _ scalars =>
      exact ⟨leftScalar, scalars⟩
  | list _ _ =>
      simp [isContainer] at isScalar
  | map _ _ =>
      simp [isContainer] at isScalar

/-- A value agrees with itself when the scalars in it are self-related. -/
theorem refl_of
    {value : Value}
    (throughout :
      Throughout
        (fun part => part.isContainer = false → related part part)
        value) :
    Agrees related value value := by
  induction throughout with
  | @intro value here _ inductionHypothesis =>
      cases value with
      | list items =>
          refine .list rfl ?_
          intro index left right atLeft atRight
          obtain rfl : left = right := by
            simpa [atLeft] using atRight
          exact inductionHypothesis left
            (List.mem_of_getElem? atLeft)
      | map fields =>
          refine .map (fun _ => Iff.rfl) ?_
          intro key left right atLeft atRight
          obtain rfl : left = right := by
            simpa [atLeft] using atRight
          exact inductionHypothesis left (mem_parts_of_get? atLeft)
      | null | bool _ | int _ | float _ | string _ =>
          exact .scalar rfl rfl (here rfl)

end Agrees

/-! ## Strict equality -/

/-- Strict equality of two values as a relation. -/
def StrictlyEqual
    (left right : Value) :
    Prop :=
  left.strictEq right = true

/-- Lists are strictly equal when their items are one by one. -/
theorem strictEqItems_iff
    {lefts rights : List Value} :
    strictEqItems lefts rights = true ↔
      List.Forall₂ StrictlyEqual lefts rights := by
  induction lefts generalizing rights with
  | nil =>
      cases rights <;> simp [strictEqItems]
  | cons left lefts inductionHypothesis =>
      cases rights with
      | nil =>
          simp [strictEqItems]
      | cons right rights =>
          rw [strictEqItems, Bool.and_eq_true, List.forall₂_cons,
            inductionHypothesis, StrictlyEqual]

/-- Entries are strictly equal when each has an equal under its key. -/
theorem strictEqFields_iff
    {lefts rights : Entries Value} :
    strictEqFields lefts rights = true ↔
      ∀ key left, (key, left) ∈ lefts →
        ∃ right,
          Entries.get? rights key = some right ∧
            StrictlyEqual left right := by
  induction lefts with
  | nil =>
      simp [strictEqFields]
  | cons entry lefts inductionHypothesis =>
      rcases entry with ⟨key, left⟩
      rw [strictEqFields, Bool.and_eq_true, inductionHypothesis]
      constructor
      · rintro ⟨head, tail⟩ other value member
        rcases List.mem_cons.mp member with isFirst | inRest
        · cases isFirst
          cases found : Entries.get? rights key with
          | none =>
              simp [found] at head
          | some right =>
              rw [found] at head
              exact ⟨right, rfl, head⟩
        · exact tail other value inRest
      · intro fields
        obtain ⟨right, found, equal⟩ := fields key left (by simp)
        refine ⟨by rw [found]; exact equal, ?_⟩
        exact fun other value member =>
          fields other value (List.mem_cons_of_mem _ member)

/-- Sound values that agree up to strictly equal scalars are strictly equal. -/
theorem strictlyEqual_of_agrees
    {left right : Value}
    (leftSound : Sound left)
    (rightSound : Sound right)
    (agrees : Agrees StrictlyEqual left right) :
    StrictlyEqual left right := by
  induction agrees with
  | scalar _ _ equal =>
      exact equal
  | @list lefts rights sameLength items inductionHypothesis =>
      have equalItems :
          List.Forall₂ StrictlyEqual lefts rights := by
        refine List.forall₂_iff_get.mpr ⟨sameLength, ?_⟩
        intro index inLeft inRight
        exact inductionHypothesis index _ _
          (List.getElem?_eq_getElem inLeft)
          (List.getElem?_eq_getElem inRight)
          (leftSound.part (List.getElem_mem inLeft))
          (rightSound.part (List.getElem_mem inRight))
      simpa [StrictlyEqual, strictEq] using
        strictEqItems_iff.mpr equalItems
  | @map lefts rights sameNames values inductionHypothesis =>
      have sameLength : lefts.length = rights.length :=
        Entries.length_eq_of_same_names
          leftSound.here rightSound.here sameNames
      have equalFields : strictEqFields lefts rights = true := by
        refine strictEqFields_iff.mpr ?_
        intro key leftValue member
        have atLeft : Entries.get? lefts key = some leftValue :=
          Entries.get?_eq_some_of_mem leftSound.here member
        have named : key ∈ Entries.names rights :=
          (sameNames key).mp
            (Entries.get?_isSome_iff.mp (by simp [atLeft]))
        obtain ⟨rightValue, atRight⟩ :=
          Option.isSome_iff_exists.mp
            (Entries.get?_isSome_iff.mpr named)
        exact ⟨rightValue, atRight,
          inductionHypothesis key leftValue rightValue atLeft atRight
            (leftSound.field atLeft) (rightSound.field atRight)⟩
      simp [StrictlyEqual, strictEq, sameLength, equalFields]

/-- A scalar that is no exception to numbers is strictly equal to itself. -/
theorem strictlyEqual_self_of_scalar
    {value : Value}
    (isScalar : value.isContainer = false)
    (numeric : IsNumeric value) :
    StrictlyEqual value value := by
  cases value with
  | list _ | map _ =>
      simp [isContainer] at isScalar
  | float number =>
      cases number with
      | nan =>
          simp [IsNumeric, Double.isNaN] at numeric
      | ranked negative rank =>
          simp [StrictlyEqual, strictEq, Double.equals,
            Double.signedRank?]
  | null | bool _ | int _ | string _ =>
      simp [StrictlyEqual, strictEq]

/-- Values of different shapes are never strictly equal. -/
theorem isContainer_eq_of_strictlyEqual
    {left right : Value}
    (equal : StrictlyEqual left right) :
    left.isContainer = right.isContainer := by
  cases left <;> cases right <;>
    simp_all [StrictlyEqual, strictEq, isContainer]

/-- A scalar agrees with what it is strictly equal to, and nothing else. -/
theorem agrees_iff_of_scalar
    {left right : Value}
    (isScalar : left.isContainer = false) :
    Agrees StrictlyEqual left right ↔ StrictlyEqual left right := by
  constructor
  · intro agrees
    cases agrees with
    | scalar _ _ equal =>
        exact equal
    | list _ _ | map _ _ =>
        cases isScalar
  · intro equal
    have sameKind := isContainer_eq_of_strictlyEqual equal
    exact .scalar isScalar (sameKind ▸ isScalar) equal

/-- Sound values are strictly equal exactly when they agree. -/
theorem strictlyEqual_iff_agrees
    {left right : Value}
    (leftSound : Sound left)
    (rightSound : Sound right) :
    StrictlyEqual left right ↔ Agrees StrictlyEqual left right := by
  refine ⟨?_, strictlyEqual_of_agrees leftSound rightSound⟩
  intro equal
  induction left using induction_on_parts generalizing right with
  | step left inductionHypothesis =>
      cases left with
      | list lefts =>
          cases right with
          | list rights =>
              have items : strictEqItems lefts rights = true := by
                simpa [StrictlyEqual, strictEq] using equal
              obtain ⟨sameLength, each⟩ :=
                List.forall₂_iff_get.mp (strictEqItems_iff.mp items)
              refine .list sameLength ?_
              intro index left right atLeft atRight
              obtain ⟨inLefts, rfl⟩ := List.getElem?_eq_some_iff.mp atLeft
              obtain ⟨inRights, rfl⟩ := List.getElem?_eq_some_iff.mp atRight
              exact inductionHypothesis _ (List.getElem_mem inLefts)
                (leftSound.part (List.getElem_mem inLefts))
                (rightSound.part (List.getElem_mem inRights))
                (each index inLefts inRights)
          | _ =>
              simp [StrictlyEqual, strictEq] at equal
      | map lefts =>
          cases right with
          | map rights =>
              simp only [StrictlyEqual, strictEq, Bool.and_eq_true,
                beq_iff_eq] at equal
              obtain ⟨sameLength, fields⟩ := equal
              refine Agrees.map_iff.mpr
                (Entries.rel_get?_of_matched leftSound.here sameLength ?_)
              intro key part member
              obtain ⟨other, found, partEqual⟩ :=
                strictEqFields_iff.mp fields key part member
              have isPart : part ∈ (Value.map lefts).parts :=
                List.mem_map.mpr ⟨_, member, rfl⟩
              exact ⟨other, found,
                inductionHypothesis part isPart (leftSound.part isPart)
                  (rightSound.field found) partEqual⟩
          | _ =>
              simp [StrictlyEqual, strictEq] at equal
      | null | bool _ | int _ | float _ | string _ =>
          exact (agrees_iff_of_scalar rfl).mpr equal

/-! ## Numbers that coincide -/

/-- Scalars coincide when they are equal, numbers after conversion. -/
def Coincide
    (left right : Value) :
    Prop :=
  match left.asDouble?, right.asDouble? with
  | some leftNumber, some rightNumber =>
      leftNumber.equals rightNumber = true
  | _, _ =>
      left = right

/-- Strictly equal scalars coincide. -/
theorem coincide_of_strictlyEqual
    {left right : Value}
    (isScalar : left.isContainer = false)
    (equal : StrictlyEqual left right) :
    Coincide left right := by
  cases left with
  | list _ | map _ =>
      simp [isContainer] at isScalar
  | int leftNumber =>
      cases right with
      | int rightNumber =>
          obtain rfl : leftNumber = rightNumber := by
            simpa [StrictlyEqual, strictEq] using equal
          simp [Coincide, asDouble?, doubleOfInt, Double.ofInt,
            Double.ofRatio, Double.ofUnits, Double.ofRank, Double.equals,
            Double.signedRank?]
      | float rightNumber =>
          simpa [StrictlyEqual, strictEq, Coincide, asDouble?] using equal
      | _ =>
          simp [StrictlyEqual, strictEq] at equal
  | null | bool _ | float _ | string _ =>
      cases right <;>
        simp_all [StrictlyEqual, strictEq, Coincide, asDouble?]

/-- Values that coincide with the same value coincide. -/
theorem Coincide.trans
    {left middle right : Value}
    (first : Coincide left middle)
    (second : Coincide middle right) :
    Coincide left right := by
  unfold Coincide at first second ⊢
  cases atLeft : left.asDouble? with
  | none =>
      have same : left = middle := by
        simpa [atLeft] using first
      subst same
      simpa [atLeft] using second
  | some leftNumber =>
      cases atMiddle : middle.asDouble? with
      | none =>
          have same : left = middle := by
            simpa [atMiddle] using first
          simp [same, atMiddle] at atLeft
      | some middleNumber =>
          cases atRight : right.asDouble? with
          | none =>
              have same : middle = right := by
                simpa [atRight] using second
              simp [same, atRight] at atMiddle
          | some rightNumber =>
              simp only [atLeft, atMiddle, atRight] at first second ⊢
              exact Double.equals_trans first second

end Value

end Mockup
