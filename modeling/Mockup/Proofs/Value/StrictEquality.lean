import Mockup.Proofs.Number.Integers
import Mockup.Proofs.Value.Agreement
import Mockup.Proofs.Value.Same

namespace Mockup

/-!
# The laws of strict equality

Strict equality compares an integer with a double by the double nearest to the
integer, but two integers exactly.  So it comes in two parts: the values
coincide, which is an equivalence of values without what is not a number, and
nowhere do they hold different integers.  The second part is symmetric, but
not transitive: a double may be strictly equal to two different integers.
-/

namespace Double

theorem equals_symm
    {left right : Double}
    (equal : left.equals right = true) :
    right.equals left = true := by
  cases left <;> cases right <;>
    simp_all [equals, signedRank?]

end Double

namespace Value

/-! ## Agreement -/

namespace Agrees

variable {related : Value → Value → Prop}

/-- Agreement is symmetric when its relation of scalars is. -/
theorem symm
    {left right : Value}
    (agrees : Agrees related left right)
    (symmetric : ∀ {left right}, related left right → related right left) :
    Agrees related right left := by
  induction agrees with
  | scalar leftScalar rightScalar scalars =>
      exact .scalar rightScalar leftScalar (symmetric scalars)
  | list sameLength _ inductionHypothesis =>
      exact .list sameLength.symm fun index right left atRight atLeft =>
        inductionHypothesis index left right atLeft atRight
  | map sameNames _ inductionHypothesis =>
      exact .map (fun key => (sameNames key).symm)
        fun key right left atRight atLeft =>
          inductionHypothesis key left right atLeft atRight

/-- Agreement is transitive when its relation of scalars is. -/
theorem trans
    {left middle right : Value}
    (first : Agrees related left middle)
    (second : Agrees related middle right)
    (transitive :
      ∀ {left middle right},
        related left middle → related middle right → related left right) :
    Agrees related left right := by
  induction first generalizing right with
  | @scalar left middle leftScalar middleScalar scalars =>
      cases second with
      | scalar _ rightScalar others =>
          exact .scalar leftScalar rightScalar (transitive scalars others)
      | list _ _ | map _ _ =>
          cases middleScalar
  | @list lefts middles sameLength _ inductionHypothesis =>
      cases second with
      | scalar middleScalar _ _ =>
          cases middleScalar
      | @list _ rights otherLength items =>
          refine .list (sameLength.trans otherLength) ?_
          intro index left right atLeft atRight
          have inMiddles : index < middles.length :=
            sameLength ▸ (List.getElem?_eq_some_iff.mp atLeft).1
          have atMiddle := List.getElem?_eq_getElem inMiddles
          exact inductionHypothesis index left _ atLeft atMiddle
            (items index _ right atMiddle atRight)
  | @map lefts middles sameNames _ inductionHypothesis =>
      cases second with
      | scalar middleScalar _ _ =>
          cases middleScalar
      | @map _ rights otherNames values =>
          refine .map (fun key => (sameNames key).trans (otherNames key)) ?_
          intro key left right atLeft atRight
          have named : key ∈ Entries.names middles :=
            (sameNames key).mp
              (Entries.get?_isSome_iff.mp (by simp [atLeft]))
          obtain ⟨middle, atMiddle⟩ :=
            Option.isSome_iff_exists.mp (Entries.get?_isSome_iff.mpr named)
          exact inductionHypothesis key left middle atLeft atMiddle
            (values key middle right atMiddle atRight)

end Agrees

/-! ## Coinciding -/

theorem Coincide.symm
    {left right : Value}
    (coincide : Coincide left right) :
    Coincide right left := by
  unfold Coincide at coincide ⊢
  cases atLeft : left.asDouble? with
  | none =>
      have same : left = right := by
        simpa [atLeft] using coincide
      subst same
      simp [atLeft]
  | some leftNumber =>
      cases atRight : right.asDouble? with
      | none =>
          have same : left = right := by
            simpa [atLeft, atRight] using coincide
          exact same.symm
      | some rightNumber =>
          simp only [atLeft, atRight] at coincide ⊢
          exact Double.equals_symm coincide

/-! ## Different integers -/

/-- At some place the two values hold integers that are not the same. -/
inductive IntegersDiffer : Value → Value → Prop where
  | integers
      {left right : Int64} :
      left ≠ right →
      IntegersDiffer (.int left) (.int right)
  | item
      {lefts rights : List Value}
      {index : Nat}
      {left right : Value} :
      lefts[index]? = some left →
      rights[index]? = some right →
      IntegersDiffer left right →
      IntegersDiffer (.list lefts) (.list rights)
  | field
      {lefts rights : Entries Value}
      {key : String}
      {left right : Value} :
      Entries.get? lefts key = some left →
      Entries.get? rights key = some right →
      IntegersDiffer left right →
      IntegersDiffer (.map lefts) (.map rights)

theorem IntegersDiffer.symm
    {left right : Value}
    (differ : IntegersDiffer left right) :
    IntegersDiffer right left := by
  induction differ with
  | integers different =>
      exact .integers different.symm
  | item atLeft atRight _ inductionHypothesis =>
      exact .item atRight atLeft inductionHypothesis
  | field atLeft atRight _ inductionHypothesis =>
      exact .field atRight atLeft inductionHypothesis

/-- Scalars are strictly equal when they coincide and do not differ. -/
theorem strictlyEqual_iff_of_scalar
    {left right : Value}
    (leftScalar : left.isContainer = false) :
    StrictlyEqual left right ↔
      Coincide left right ∧ ¬ IntegersDiffer left right := by
  constructor
  · intro equal
    refine ⟨coincide_of_strictlyEqual leftScalar equal, ?_⟩
    intro differ
    cases differ with
    | integers different =>
        exact different (by simpa [StrictlyEqual, strictEq] using equal)
    | item _ _ _ | field _ _ _ =>
        cases leftScalar
  · rintro ⟨coincide, sameIntegers⟩
    cases left with
    | list _ | map _ =>
        cases leftScalar
    | int leftNumber =>
        cases right with
        | int rightNumber =>
            have same : leftNumber = rightNumber :=
              Classical.byContradiction fun different =>
                sameIntegers (.integers different)
            simp [StrictlyEqual, strictEq, same]
        | _ =>
            simp_all [StrictlyEqual, strictEq, Coincide, asDouble?]
    | null | bool _ | float _ | string _ =>
        cases right <;>
          simp_all [StrictlyEqual, strictEq, Coincide, asDouble?]

/-- Values agree strictly when they coincide and hold no other integers. -/
theorem agrees_strictlyEqual_iff
    {left right : Value} :
    Agrees StrictlyEqual left right ↔
      Agrees Coincide left right ∧ ¬ IntegersDiffer left right := by
  constructor
  · intro agrees
    induction agrees with
    | scalar leftScalar rightScalar equal =>
        obtain ⟨coincide, sameIntegers⟩ :=
          (strictlyEqual_iff_of_scalar leftScalar).mp equal
        exact ⟨.scalar leftScalar rightScalar coincide, sameIntegers⟩
    | list sameLength _ inductionHypothesis =>
        refine ⟨.list sameLength fun index left right atLeft atRight =>
          (inductionHypothesis index left right atLeft atRight).1, ?_⟩
        intro differ
        cases differ with
        | item atLeft atRight inside =>
            exact (inductionHypothesis _ _ _ atLeft atRight).2 inside
    | map sameNames _ inductionHypothesis =>
        refine ⟨.map sameNames fun key left right atLeft atRight =>
          (inductionHypothesis key left right atLeft atRight).1, ?_⟩
        intro differ
        cases differ with
        | field atLeft atRight inside =>
            exact (inductionHypothesis _ _ _ atLeft atRight).2 inside
  · rintro ⟨agrees, sameIntegers⟩
    induction agrees with
    | scalar leftScalar rightScalar coincide =>
        exact .scalar leftScalar rightScalar
          ((strictlyEqual_iff_of_scalar leftScalar).mpr
            ⟨coincide, sameIntegers⟩)
    | list sameLength _ inductionHypothesis =>
        exact .list sameLength fun index left right atLeft atRight =>
          inductionHypothesis index left right atLeft atRight
            fun inside => sameIntegers (.item atLeft atRight inside)
    | map sameNames _ inductionHypothesis =>
        exact .map sameNames fun key left right atLeft atRight =>
          inductionHypothesis key left right atLeft atRight
            fun inside => sameIntegers (.field atLeft atRight inside)

/-- Strict equality is coinciding without holding different integers. -/
theorem strictlyEqual_iff_coincide
    {left right : Value}
    (leftSound : Sound left)
    (rightSound : Sound right) :
    StrictlyEqual left right ↔
      Agrees Coincide left right ∧ ¬ IntegersDiffer left right :=
  (strictlyEqual_iff_agrees leftSound rightSound).trans
    agrees_strictlyEqual_iff

/-! ## Reflexive and symmetric -/

/-- A value without what is not a number is strictly equal to itself. -/
theorem strictlyEqual_refl
    {value : Value}
    (sound : Sound value)
    (nanFree : NaNFree value) :
    StrictlyEqual value value :=
  strictlyEqual_of_agrees sound sound
    (.refl_of
      (nanFree.weaken fun _ numeric isScalar =>
        strictlyEqual_self_of_scalar isScalar numeric))

theorem strictlyEqual_symm
    {left right : Value}
    (leftSound : Sound left)
    (rightSound : Sound right)
    (equal : StrictlyEqual left right) :
    StrictlyEqual right left := by
  rw [strictlyEqual_iff_coincide leftSound rightSound] at equal
  rw [strictlyEqual_iff_coincide rightSound leftSound]
  exact ⟨equal.1.symm Coincide.symm,
    fun differ => equal.2 differ.symm⟩

/-- Values strictly equal to a third one are so when no integers differ. -/
theorem strictlyEqual_iff_of_strictlyEqual
    {left middle right : Value}
    (leftSound : Sound left)
    (middleSound : Sound middle)
    (rightSound : Sound right)
    (first : StrictlyEqual left middle)
    (second : StrictlyEqual middle right) :
    StrictlyEqual left right ↔ ¬ IntegersDiffer left right := by
  rw [strictlyEqual_iff_coincide leftSound middleSound] at first
  rw [strictlyEqual_iff_coincide middleSound rightSound] at second
  rw [strictlyEqual_iff_coincide leftSound rightSound]
  exact and_iff_right (first.1.trans second.1 Coincide.trans)

/-! ## The same values -/

theorem strictEqItems_of_sameItems
    {lefts rights : List Value}
    (each :
      ∀ left ∈ lefts, ∀ right,
        left.same right = true → StrictlyEqual left right)
    (alike : sameItems lefts rights = true) :
    strictEqItems lefts rights = true := by
  induction lefts generalizing rights with
  | nil =>
      cases rights with
      | nil =>
          rfl
      | cons _ _ =>
          simp [sameItems] at alike
  | cons left lefts inductionHypothesis =>
      cases rights with
      | nil =>
          simp [sameItems] at alike
      | cons right rights =>
          rw [sameItems, Bool.and_eq_true] at alike
          rw [strictEqItems, Bool.and_eq_true]
          exact ⟨each left List.mem_cons_self right alike.1,
            inductionHypothesis
              (fun other member => each other (List.mem_cons_of_mem _ member))
              alike.2⟩

/-- Values that are the same kind by kind are strictly equal. -/
theorem strictlyEqual_of_same
    {left right : Value}
    (alike : left.same right = true) :
    StrictlyEqual left right := by
  induction left using induction_on_parts generalizing right with
  | step left inductionHypothesis =>
      cases left with
      | list lefts =>
          cases right with
          | list rights =>
              rw [same] at alike
              rw [StrictlyEqual, strictEq]
              exact strictEqItems_of_sameItems
                (fun part member right => inductionHypothesis part member)
                alike
          | _ =>
              simp [same] at alike
      | map lefts =>
          cases right with
          | map rights =>
              rw [same, Bool.and_eq_true] at alike
              rw [StrictlyEqual, strictEq, Bool.and_eq_true]
              refine ⟨alike.1, strictEqFields_iff.mpr ?_⟩
              intro key part member
              obtain ⟨other, found, partAlike⟩ :=
                exists_same_of_mem alike.2 member
              exact ⟨other, found,
                inductionHypothesis part
                  (List.mem_map.mpr ⟨_, member, rfl⟩) partAlike⟩
          | _ =>
              simp [same] at alike
      | null | bool _ | int _ | float _ | string _ =>
          cases right <;> simp_all [same, StrictlyEqual, strictEq]

/-! ## Integers with doubles of their own -/

/-- The value is no integer beyond `2 ^ 53`. -/
def HasOwnDouble : Value → Prop
  | .int number =>
      number.toInt.natAbs ≤ 2 ^ 53
  | _ =>
      True

/-- Integers with doubles of their own do not differ when they coincide. -/
theorem not_integersDiffer_of_coincide
    {left right : Value}
    (agrees : Agrees Coincide left right)
    (leftOwn : Throughout HasOwnDouble left)
    (rightOwn : Throughout HasOwnDouble right) :
    ¬ IntegersDiffer left right := by
  intro differ
  induction differ with
  | @integers left right different =>
      have coincide := (agrees.of_scalar rfl).2
      have shared :
          Double.rankOfInt left.toInt = Double.rankOfInt right.toInt := by
        simpa [Coincide, asDouble?, doubleOfInt, Double.equals,
          Double.signedRank?_ofInt] using coincide
      exact different (Int64.toInt_inj.mp
        (Double.eq_of_rankOfInt_eq leftOwn.here rightOwn.here shared))
  | item atLeft atRight _ inductionHypothesis =>
      cases agrees with
      | scalar leftScalar _ _ =>
          cases leftScalar
      | list _ items =>
          exact inductionHypothesis (items _ _ _ atLeft atRight)
            (leftOwn.part (List.mem_of_getElem? atLeft))
            (rightOwn.part (List.mem_of_getElem? atRight))
  | field atLeft atRight _ inductionHypothesis =>
      cases agrees with
      | scalar leftScalar _ _ =>
          cases leftScalar
      | map _ values =>
          exact inductionHypothesis (values _ _ _ atLeft atRight)
            (leftOwn.field atLeft) (rightOwn.field atRight)

/-! ## The laws -/

/--
On values without what is not a number strict equality is reflexive and
symmetric, and values that are the same are strictly equal.  Two values that
are strictly equal to a third one are strictly equal unless they hold
different integers at some place, which no two values do whose integers go up
to `2 ^ 53`.
-/
theorem strictEq_laws
    {left middle right : Value}
    (leftSound : Sound left)
    (middleSound : Sound middle)
    (rightSound : Sound right)
    (nanFree : NaNFree left) :
    left.strictEq left = true ∧
      (left.strictEq right = true → right.strictEq left = true) ∧
      (left.same right = true → left.strictEq right = true) ∧
      (left.strictEq middle = true → middle.strictEq right = true →
        (left.strictEq right = true ↔ ¬ IntegersDiffer left right)) ∧
      (left.strictEq middle = true → middle.strictEq right = true →
        Throughout HasOwnDouble left → Throughout HasOwnDouble right →
        left.strictEq right = true) := by
  have chained :=
    strictlyEqual_iff_of_strictlyEqual leftSound middleSound rightSound
  refine ⟨strictlyEqual_refl leftSound nanFree,
    strictlyEqual_symm leftSound rightSound, strictlyEqual_of_same,
    chained, ?_⟩
  intro first second leftOwn rightOwn
  have firstParts := (strictlyEqual_iff_coincide leftSound middleSound).mp first
  have secondParts :=
    (strictlyEqual_iff_coincide middleSound rightSound).mp second
  exact (chained first second).mpr
    (not_integersDiffer_of_coincide
      (firstParts.1.trans secondParts.1 Coincide.trans) leftOwn rightOwn)

/-- Documents with reordered keys and numbers of both kinds are chained. -/
theorem strictEq_laws_reordered :
    let left : Value :=
      .map [("a", .int 1), ("b", .list [.null, .float .zero])]
    let middle : Value :=
      .map [("b", .list [.null, .int 0]), ("a", .float .one)]
    let right : Value :=
      .map [("b", .list [.null, .float (.ofRank true 0)]), ("a", .int 1)]
    Sound left ∧ Sound middle ∧ Sound right ∧ NaNFree left ∧
      left.strictEq middle = true ∧ middle.strictEq right = true ∧
      left.strictEq left = true ∧ left.strictEq right = true := by
  intro left middle right
  have leftSound : Sound left := by
    simp [left, IsShaped, positionLimit]
  have middleSound : Sound middle := by
    simp [middle, IsShaped, positionLimit]
  have rightSound : Sound right := by
    simp [right, IsShaped, positionLimit]
  have nanFree : NaNFree left := by
    simp [left, IsNumeric, Double.isNaN, Double.zero, Double.ofRank]
  have first : left.strictEq middle = true := by
    decide +kernel
  have second : middle.strictEq right = true := by
    decide +kernel
  have leftOwn : Throughout HasOwnDouble left := by
    simp [left, HasOwnDouble]
  have rightOwn : Throughout HasOwnDouble right := by
    simp [right, HasOwnDouble]
  obtain ⟨self, _, _, _, chained⟩ :=
    strictEq_laws leftSound middleSound rightSound nanFree
  exact ⟨leftSound, middleSound, rightSound, nanFree, first, second, self,
    chained first second leftOwn rightOwn⟩

/-- A double is strictly equal to two neighbours that are not equal. -/
theorem strictEq_not_transitive :
    let left : Value := .int 9007199254740992
    let middle : Value := .float (doubleOfInt 9007199254740992)
    let right : Value := .int 9007199254740993
    Sound left ∧ Sound middle ∧ Sound right ∧
      NaNFree left ∧ NaNFree middle ∧ NaNFree right ∧
      left.strictEq middle = true ∧ middle.strictEq right = true ∧
      left.strictEq right = false := by
  intro left middle right
  have numeric : (doubleOfInt 9007199254740992).isNaN = false := by
    decide +kernel
  refine ⟨by simp [left, IsShaped], by simp [middle, IsShaped],
    by simp [right, IsShaped], by simp [left, IsNumeric],
    by simp [middle, IsNumeric, numeric], by simp [right, IsNumeric],
    ?_, ?_, ?_⟩ <;>
    decide +kernel

end Value

end Mockup
