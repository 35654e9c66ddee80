import Mockup.Comparison
import Mockup.Proofs.Number.Integers

namespace Mockup

namespace Comparison

/-!
# Comparing integers

Two integers are equal when they are the same, but they are ordered by their
nearest doubles.  The six comparisons follow the integers as long as different
integers have different doubles, which is so up to `2 ^ 53`.  Neighbours
beyond may share a double: then neither is greater, neither is less, and they
are not equal, though each is at least and at most the other.
-/

/-- Whether a comparison holds of two integers. -/
def Relates
    (relation : Relation)
    (subject operand : Int64) :
    Prop :=
  holds ⟨relation, .int operand⟩ (some (.int subject)) = true

/-- The six comparisons of two integers agree with the integers. -/
structure FollowsIntegers
    (subject operand : Int64) :
    Prop where
  atLeastOne :
    Relates .equal subject operand ∨
      Relates .greater subject operand ∨
      Relates .less subject operand
  notGreater :
    Relates .equal subject operand → ¬ Relates .greater subject operand
  notLess :
    Relates .equal subject operand → ¬ Relates .less subject operand
  notBoth :
    ¬ (Relates .greater subject operand ∧ Relates .less subject operand)
  notEqual_iff :
    Relates .notEqual subject operand ↔ ¬ Relates .equal subject operand
  greater_iff :
    Relates .greater subject operand ↔ operand.toInt < subject.toInt
  less_iff :
    Relates .less subject operand ↔ subject.toInt < operand.toInt
  greaterOrEqual_iff :
    Relates .greaterOrEqual subject operand ↔
      Relates .greater subject operand ∨ Relates .equal subject operand
  lessOrEqual_iff :
    Relates .lessOrEqual subject operand ↔
      Relates .less subject operand ∨ Relates .equal subject operand

section

variable (subject operand : Int64)

/-! ## What each comparison looks at -/

theorem relates_equal_iff :
    Relates .equal subject operand ↔ subject = operand := by
  simp [Relates, holds, isEqual, Value.strictEq]

theorem relates_notEqual_iff :
    Relates .notEqual subject operand ↔ subject ≠ operand := by
  simp [Relates, holds, isEqual, Value.strictEq]

/-- Integers stand in the order of the ranks of their doubles. -/
theorem order?_int :
    order? (.int subject) (.int operand) =
      some (compare
        (Double.rankOfInt subject.toInt)
        (Double.rankOfInt operand.toInt)) := by
  simp [order?, Value.toNumber?, Value.doubleOfInt, Double.order?,
    Double.signedRank?_ofInt]

theorem relates_greater_iff :
    Relates .greater subject operand ↔
      Double.rankOfInt operand.toInt < Double.rankOfInt subject.toInt := by
  simp [Relates, holds, ordered, order?_int, Int.compare_eq_gt]

theorem relates_less_iff :
    Relates .less subject operand ↔
      Double.rankOfInt subject.toInt < Double.rankOfInt operand.toInt := by
  simp [Relates, holds, ordered, order?_int, Int.compare_eq_lt]

theorem relates_greaterOrEqual_iff :
    Relates .greaterOrEqual subject operand ↔
      Double.rankOfInt operand.toInt ≤ Double.rankOfInt subject.toInt := by
  simp [Relates, holds, ordered, order?_int, Int.compare_eq_lt]

theorem relates_lessOrEqual_iff :
    Relates .lessOrEqual subject operand ↔
      Double.rankOfInt subject.toInt ≤ Double.rankOfInt operand.toInt := by
  simp [Relates, holds, ordered, order?_int, Int.compare_eq_gt]

/-- The doubles of two integers are equal when they have the same rank. -/
theorem equals_doubleOfInt_iff :
    (Value.doubleOfInt subject).equals (Value.doubleOfInt operand) = true ↔
      Double.rankOfInt subject.toInt = Double.rankOfInt operand.toInt := by
  simp [Value.doubleOfInt, Double.equals, Double.signedRank?_ofInt]

/-! ## When the comparisons follow the integers -/

variable {subject operand : Int64}

/-- Integers with doubles of their own are compared as integers. -/
theorem followsIntegers_of_apart
    (apart :
      Double.rankOfInt subject.toInt = Double.rankOfInt operand.toInt →
        subject = operand) :
    FollowsIntegers subject operand := by
  have upward :
      subject.toInt ≤ operand.toInt →
        Double.rankOfInt subject.toInt ≤ Double.rankOfInt operand.toInt :=
    Double.rankOfInt_mono
  have downward :
      operand.toInt ≤ subject.toInt →
        Double.rankOfInt operand.toInt ≤ Double.rankOfInt subject.toInt :=
    Double.rankOfInt_mono
  rw [← Int64.toInt_inj] at apart
  constructor <;>
    simp only [relates_equal_iff, relates_notEqual_iff,
      relates_greater_iff, relates_less_iff, relates_greaterOrEqual_iff,
      relates_lessOrEqual_iff, ne_eq, ← Int64.toInt_inj] <;>
    omega

/-- Integers that share a double are in no order, and not equal either. -/
theorem relates_of_shared
    (different : subject ≠ operand)
    (shared :
      Double.rankOfInt subject.toInt = Double.rankOfInt operand.toInt) :
    Relates .greaterOrEqual subject operand ∧
      Relates .lessOrEqual subject operand ∧
      ¬ Relates .equal subject operand ∧
      ¬ Relates .greater subject operand ∧
      ¬ Relates .less subject operand := by
  rw [relates_greaterOrEqual_iff, relates_lessOrEqual_iff,
    relates_equal_iff, relates_greater_iff, relates_less_iff, shared]
  exact ⟨Int.le_refl _, Int.le_refl _, different, Int.lt_irrefl _,
    Int.lt_irrefl _⟩

end

/--
The six comparisons of two integers follow the integers exactly when the two
do not share a double, or are the same.  If they do share one, each is at
least and at most the other and no more.  Integers up to `2 ^ 53` never share
a double.
-/
theorem followsIntegers_iff
    (subject operand : Int64) :
    (FollowsIntegers subject operand ↔
        ((Value.doubleOfInt subject).equals (Value.doubleOfInt operand) =
            true →
          subject = operand)) ∧
      (¬ FollowsIntegers subject operand →
        Relates .greaterOrEqual subject operand ∧
          Relates .lessOrEqual subject operand ∧
          ¬ Relates .equal subject operand ∧
          ¬ Relates .greater subject operand ∧
          ¬ Relates .less subject operand) ∧
      (subject.toInt.natAbs ≤ 2 ^ 53 →
        operand.toInt.natAbs ≤ 2 ^ 53 →
        FollowsIntegers subject operand) := by
  rw [equals_doubleOfInt_iff]
  have apart :
      FollowsIntegers subject operand ↔
        (Double.rankOfInt subject.toInt = Double.rankOfInt operand.toInt →
          subject = operand) := by
    refine ⟨fun follows shared => ?_, followsIntegers_of_apart⟩
    refine Classical.byContradiction fun different => ?_
    obtain ⟨_, _, notEqual, notGreater, notLess⟩ :=
      relates_of_shared different shared
    rcases follows.atLeastOne with equal | greater | less
    · exact notEqual equal
    · exact notGreater greater
    · exact notLess less
  refine ⟨apart, ?_, ?_⟩
  · intro strays
    rw [apart, Classical.not_imp] at strays
    exact relates_of_shared strays.2 strays.1
  · intro subjectSmall operandSmall
    exact followsIntegers_of_apart fun shared =>
      Int64.toInt_inj.mp
        (Double.eq_of_rankOfInt_eq subjectSmall operandSmall shared)

/-- At the limit, neighbours are still told apart. -/
theorem followsIntegers_iff_atLimit :
    let subject : Int64 := 9007199254740992
    let operand : Int64 := 9007199254740991
    subject.toInt.natAbs ≤ 2 ^ 53 ∧ operand.toInt.natAbs ≤ 2 ^ 53 ∧
      FollowsIntegers subject operand := by
  intro subject operand
  have subjectSmall : subject.toInt.natAbs ≤ 2 ^ 53 := by
    decide
  have operandSmall : operand.toInt.natAbs ≤ 2 ^ 53 := by
    decide
  exact ⟨subjectSmall, operandSmall,
    (followsIntegers_iff subject operand).2.2 subjectSmall operandSmall⟩

/-- Beyond the limit, a greater integer may not be greater, nor unequal. -/
theorem not_followsIntegers_beyondLimit :
    let subject : Int64 := 9007199254740993
    let operand : Int64 := 9007199254740992
    operand.toInt < subject.toInt ∧
      ¬ Relates .greater subject operand ∧
      ¬ Relates .equal subject operand ∧
      ¬ Relates .less subject operand ∧
      ¬ FollowsIntegers subject operand := by
  intro subject operand
  have shared :
      Double.rankOfInt subject.toInt = Double.rankOfInt operand.toInt := by
    decide +kernel
  obtain ⟨_, _, notEqual, notGreater, notLess⟩ :=
    relates_of_shared (by decide) shared
  have greater : operand.toInt < subject.toInt := by
    decide
  exact ⟨greater, notGreater, notEqual, notLess,
    fun follows => notGreater (follows.greater_iff.mpr greater)⟩

end Comparison

end Mockup
