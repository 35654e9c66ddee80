import Mathlib.Algebra.Group.Nat.Defs
import Mockup.Number.Double

namespace Mockup

/-!
# Rounding

A greater quotient is rounded to no smaller rank: within a binade because the
nearest whole numbers keep their order, and across binades because each of
them begins where the one before has ended.  So a magnitude below one that
stays within the doubles stays within them too.
-/

namespace Double

/-! ## Quotients -/

theorem le_roundedQuotient
    (numerator denominator : Nat) :
    numerator / denominator ≤ roundedQuotient numerator denominator := by
  unfold roundedQuotient
  simp only
  split
  · exact Nat.le_refl _
  · split
    · exact Nat.le_succ _
    · exact Nat.le_add_right _ _

theorem roundedQuotient_le
    (numerator denominator : Nat) :
    roundedQuotient numerator denominator ≤
      numerator / denominator + 1 := by
  unfold roundedQuotient
  simp only
  split
  · exact Nat.le_succ _
  · split
    · exact Nat.le_refl _
    · have parity := Nat.mod_lt (numerator / denominator) Nat.two_pos
      omega

/-- Quotients keep their order when they are cut to whole numbers. -/
theorem div_le_div_of_cross
    {numerator denominator numerator' denominator' : Nat}
    (positive : 0 < denominator)
    (positive' : 0 < denominator')
    (le : numerator * denominator' ≤ numerator' * denominator) :
    numerator / denominator ≤ numerator' / denominator' := by
  rw [Nat.le_div_iff_mul_le positive']
  refine Nat.le_of_mul_le_mul_right ?_ positive
  calc numerator / denominator * denominator' * denominator
      = numerator / denominator * denominator * denominator' := by
        rw [Nat.mul_right_comm]
    _ ≤ numerator * denominator' :=
        Nat.mul_le_mul_right _ (Nat.div_mul_le_self _ _)
    _ ≤ numerator' * denominator :=
        le

/-- What is at least half of a denominator is so in a greater fraction. -/
theorem twice_le_of_cross
    {rest denominator rest' denominator' : Nat}
    (positive : 0 < denominator)
    (le : rest * denominator' ≤ rest' * denominator)
    (half : denominator ≤ 2 * rest) :
    denominator' ≤ 2 * rest' := by
  refine Nat.le_of_mul_le_mul_right ?_ positive
  calc denominator' * denominator
      = denominator * denominator' :=
        Nat.mul_comm _ _
    _ ≤ 2 * rest * denominator' :=
        Nat.mul_le_mul_right _ half
    _ = 2 * (rest * denominator') :=
        Nat.mul_assoc _ _ _
    _ ≤ 2 * (rest' * denominator) :=
        Nat.mul_le_mul_left _ le
    _ = 2 * rest' * denominator :=
        (Nat.mul_assoc _ _ _).symm

theorem twice_lt_of_cross
    {rest denominator rest' denominator' : Nat}
    (positive' : 0 < denominator')
    (le : rest * denominator' ≤ rest' * denominator)
    (overHalf : denominator < 2 * rest) :
    denominator' < 2 * rest' := by
  refine Nat.lt_of_mul_lt_mul_right (a := denominator) ?_
  calc denominator' * denominator
      = denominator * denominator' :=
        Nat.mul_comm _ _
    _ < 2 * rest * denominator' :=
        Nat.mul_lt_mul_of_pos_right overHalf positive'
    _ = 2 * (rest * denominator') :=
        Nat.mul_assoc _ _ _
    _ ≤ 2 * (rest' * denominator) :=
        Nat.mul_le_mul_left _ le
    _ = 2 * rest' * denominator :=
        (Nat.mul_assoc _ _ _).symm

/-- With the same whole part, what is left over keeps its order. -/
theorem mod_cross_of_div_eq
    {numerator denominator numerator' denominator' : Nat}
    (same : numerator / denominator = numerator' / denominator')
    (le : numerator * denominator' ≤ numerator' * denominator) :
    numerator % denominator * denominator' ≤
      numerator' % denominator' * denominator := by
  have split := Nat.div_add_mod numerator denominator
  have split' := Nat.div_add_mod numerator' denominator'
  rw [← split, ← split', same, Nat.add_mul, Nat.add_mul] at le
  have wholes :
      denominator * (numerator' / denominator') * denominator' =
        denominator' * (numerator' / denominator') * denominator := by
    rw [Nat.mul_right_comm, Nat.mul_comm denominator denominator',
      Nat.mul_right_comm]
  rw [wholes] at le
  exact Nat.le_of_add_le_add_left le

/-- Quotients keep their order when they are rounded to whole numbers. -/
theorem roundedQuotient_mono
    {numerator denominator numerator' denominator' : Nat}
    (positive : 0 < denominator)
    (positive' : 0 < denominator')
    (le : numerator * denominator' ≤ numerator' * denominator) :
    roundedQuotient numerator denominator ≤
      roundedQuotient numerator' denominator' := by
  rcases Nat.lt_or_ge
      (numerator / denominator) (numerator' / denominator') with
      less | notLess
  · exact Nat.le_trans (roundedQuotient_le _ _)
      (Nat.le_trans less (le_roundedQuotient _ _))
  · have same : numerator / denominator = numerator' / denominator' :=
      Nat.le_antisymm (div_le_div_of_cross positive positive' le) notLess
    have rests := mod_cross_of_div_eq same le
    have atHalf := twice_le_of_cross positive rests
    have overHalf := twice_lt_of_cross positive' rests
    have parity := Nat.mod_lt (numerator' / denominator') Nat.two_pos
    simp only [roundedQuotient, same]
    split <;> split <;> (try split) <;> (try split) <;> omega

/-! ## Ranks -/

/-- A significand that has been halved often enough has 53 bits. -/
theorem significand_lt
    (numerator denominator : Nat) :
    numerator /
        (denominator * Nat.pow 2 (halvings numerator denominator)) <
      2 ^ 53 := by
  rw [← Nat.div_div_eq_div_mul]
  refine Nat.div_lt_of_lt_mul ?_
  have bits : numerator / denominator <
      2 ^ ((numerator / denominator).log2 + 1) :=
    Nat.lt_log2_self
  refine Nat.lt_of_lt_of_le bits ?_
  change _ ≤ 2 ^ halvings numerator denominator * 2 ^ 53
  rw [← Nat.pow_add]
  refine Nat.pow_le_pow_right Nat.two_pos ?_
  unfold halvings
  omega

/-- A significand that has been halved has 53 bits, and not fewer. -/
theorem le_significand
    {numerator denominator : Nat}
    (halved : 0 < halvings numerator denominator) :
    2 ^ 52 ≤
      numerator /
        (denominator * Nat.pow 2 (halvings numerator denominator)) := by
  rw [← Nat.div_div_eq_div_mul, Nat.pow_eq,
    Nat.le_div_iff_mul_le (Nat.pow_pos Nat.two_pos), ← Nat.pow_add]
  unfold halvings at halved ⊢
  have nonzero : numerator / denominator ≠ 0 := by
    intro isZero
    simp [isZero] at halved
  rw [← Nat.le_log2 nonzero]
  omega

/-- A rank is at most the first of the binade after the next. -/
theorem nearestRank_le
    (numerator denominator : Nat) :
    nearestRank numerator denominator ≤
      (halvings numerator denominator + 2) * Nat.pow 2 52 := by
  have rounded :=
    roundedQuotient_le numerator
      (denominator *
        Nat.pow 2 (halvings numerator denominator))
  have significand := significand_lt numerator denominator
  unfold nearestRank
  have power : Nat.pow 2 52 = 4503599627370496 :=
    rfl
  simp only [power] at *
  omega

/-- A rank is at least the first of its binade. -/
theorem le_nearestRank
    {numerator denominator : Nat}
    (halved : 0 < halvings numerator denominator) :
    (halvings numerator denominator + 1) * Nat.pow 2 52 ≤
      nearestRank numerator denominator := by
  have significand := le_significand halved
  have rounded :=
    le_roundedQuotient numerator
      (denominator * Nat.pow 2 (halvings numerator denominator))
  unfold nearestRank
  rw [Nat.add_mul, Nat.one_mul]
  exact Nat.add_le_add_left (Nat.le_trans significand rounded) _

theorem halvings_mono
    {numerator denominator numerator' denominator' : Nat}
    (positive : 0 < denominator)
    (positive' : 0 < denominator')
    (le : numerator * denominator' ≤ numerator' * denominator) :
    halvings numerator denominator ≤
      halvings numerator' denominator' := by
  have quotients := div_le_div_of_cross positive positive' le
  refine Nat.sub_le_sub_right ?_ 52
  by_cases isZero : numerator / denominator = 0
  · simp [isZero]
  · have nonzero' : numerator' / denominator' ≠ 0 :=
      Nat.ne_of_gt
        (Nat.lt_of_lt_of_le (Nat.pos_of_ne_zero isZero) quotients)
    rw [Nat.le_log2 nonzero']
    exact Nat.le_trans (Nat.log2_self_le isZero) quotients

/-- Greater quotients have no smaller ranks. -/
theorem nearestRank_mono
    {numerator denominator numerator' denominator' : Nat}
    (positive : 0 < denominator)
    (positive' : 0 < denominator')
    (le : numerator * denominator' ≤ numerator' * denominator) :
    nearestRank numerator denominator ≤
      nearestRank numerator' denominator' := by
  have fewer := halvings_mono positive positive' le
  rcases Nat.eq_or_lt_of_le fewer with same | more
  · unfold nearestRank
    rw [same]
    refine Nat.add_le_add_left (roundedQuotient_mono ?_ ?_ ?_) _
    · exact Nat.mul_pos positive (Nat.pow_pos Nat.two_pos)
    · exact Nat.mul_pos positive' (Nat.pow_pos Nat.two_pos)
    · rw [← Nat.mul_assoc, ← Nat.mul_assoc]
      exact Nat.mul_le_mul_right _ le
  · calc nearestRank numerator denominator
        ≤ (halvings numerator denominator + 2) * Nat.pow 2 52 :=
          nearestRank_le _ _
      _ ≤ (halvings numerator' denominator' + 1) * Nat.pow 2 52 :=
          Nat.mul_le_mul_right _ (Nat.succ_le_succ more)
      _ ≤ nearestRank numerator' denominator' :=
          le_nearestRank (Nat.lt_of_le_of_lt (Nat.zero_le _) more)

/-- The finite doubles are those of the ranks below infinity. -/
theorem isFinite_ofRank_iff
    (negative : Bool)
    (rank : Nat) :
    (ofRank negative rank).isFinite = true ↔ rank < infinityRank := by
  have inside : min rank infinityRank < infinityRank + 1 :=
    Nat.lt_succ_of_le (Nat.min_le_right _ _)
  simp only [ofRank, isFinite, Fin.ofNat, bne_iff_ne,
    Nat.mod_eq_of_lt inside]
  omega

/-- One is a power of two units. -/
theorem exists_unitsPerOne_eq :
    ∃ places, places = 1074 ∧ unitsPerOne = 2 ^ places := by
  -- The exponent is named lest the power is evaluated.
  obtain ⟨places, isPlaces⟩ : ∃ places, places = 1074 :=
    ⟨_, rfl⟩
  refine ⟨places, isPlaces, ?_⟩
  delta unitsPerOne
  rw [← isPlaces, Nat.pow_eq]

theorem unitsPerOne_pos :
    0 < unitsPerOne := by
  obtain ⟨places, _, units⟩ := exists_unitsPerOne_eq
  rw [units]
  exact Nat.pow_pos Nat.two_pos

/-- An integer of up to 64 bits is a finite double. -/
theorem isFinite_ofInt
    {value : Int}
    (fits : value.natAbs ≤ Nat.pow 2 64) :
    (ofInt value).isFinite = true := by
  have few : halvings (value.natAbs * unitsPerOne) 1 ≤ 1086 := by
    obtain ⟨places, isPlaces, units⟩ := exists_unitsPerOne_eq
    have bits : (value.natAbs * 2 ^ places).log2 < places + 65 := by
      by_cases isZero : value.natAbs * 2 ^ places = 0
      · rw [isZero, Nat.log2_zero]
        omega
      · rw [Nat.log2_lt isZero]
        refine Nat.lt_of_le_of_lt (Nat.mul_le_mul_right _ fits) ?_
        rw [Nat.pow_eq, ← Nat.pow_add]
        exact Nat.pow_lt_pow_right Nat.one_lt_two (by omega)
    rw [units, halvings, Nat.div_one]
    omega
  have finite :
      nearestRank (value.natAbs * unitsPerOne) 1 < infinityRank := by
    refine Nat.lt_of_le_of_lt (nearestRank_le _ _) ?_
    have power : Nat.pow 2 52 = 4503599627370496 :=
      rfl
    simp only [infinityRank, power]
    omega
  exact (isFinite_ofRank_iff _ _).mpr finite

end Double

end Mockup
