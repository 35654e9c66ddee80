import Mockup.Number.Scaling
import Mockup.Proofs.Number.Integers

namespace Mockup

/-!
# Scaled decimals beyond the doubles

A decimal that is read by scaling overflows when a product does.  Every step
keeps the order of magnitudes, so a greater exponent keeps an overflow; and
what is divided by a power of ten grows no greater, so an exponent that is
small enough brings every decimal back.
-/

namespace Double

/-! ## Ranks and their units -/

/-- Every rank is made of a significand that has been doubled some times. -/
theorem exists_binade
    (rank : Nat) :
    ∃ shift significand,
      rank = shift * Nat.pow 2 52 + significand ∧
        significand < 2 ^ 53 ∧
        (2 ^ 52 ≤ significand ∨ shift = 0) := by
  have power : Nat.pow 2 52 = 4503599627370496 :=
    rfl
  rw [power]
  by_cases small : rank < 4503599627370496
  · exact ⟨0, rank, by omega, by omega, .inr rfl⟩
  · exact ⟨rank / 4503599627370496 - 1,
      rank % 4503599627370496 + 4503599627370496, by omega, by omega,
      .inl (by omega)⟩

/-- A significand that has been doubled is halved as often again. -/
theorem halvings_binade
    {shift significand : Nat}
    (fits : significand < 2 ^ 53)
    (full : 2 ^ 52 ≤ significand ∨ shift = 0) :
    halvings (significand * 2 ^ shift) 1 = shift := by
  have upper := log2_lt fits shift
  unfold halvings
  rw [Nat.div_one]
  rcases full with full | rfl
  · have nonzero : significand * 2 ^ shift ≠ 0 :=
      Nat.mul_ne_zero (by omega)
        (Nat.ne_of_gt (Nat.pow_pos Nat.two_pos))
    have lower : 52 + shift ≤ (significand * 2 ^ shift).log2 := by
      rw [Nat.le_log2 nonzero, Nat.pow_add]
      exact Nat.mul_le_mul_right _ full
    omega
  · omega

/-- The units of a rank have that rank. -/
theorem nearestRank_unitsOfRank
    (rank : Nat) :
    nearestRank (unitsOfRank rank) 1 = rank := by
  obtain ⟨shift, significand, rfl, fits, full⟩ := exists_binade rank
  have rounded :
      roundedQuotient (significand * 2 ^ shift) (1 * Nat.pow 2 shift) =
        significand := by
    rw [Nat.one_mul, Nat.pow_eq]
    exact roundedQuotient_mul significand (Nat.pow_pos Nat.two_pos)
  rw [unitsOfRank_binade fits full, nearestRank,
    halvings_binade fits full]
  exact congrArg (shift * Nat.pow 2 52 + ·) rounded

/-- Greater ranks have no fewer units. -/
theorem unitsOfRank_mono
    {less greater : Nat}
    (le : less ≤ greater) :
    unitsOfRank less ≤ unitsOfRank greater := by
  refine Nat.le_of_not_lt fun fewer => ?_
  have ranks :=
    nearestRank_mono Nat.one_pos Nat.one_pos
      (Nat.mul_le_mul_right 1 (Nat.le_of_lt fewer))
  rw [nearestRank_unitsOfRank, nearestRank_unitsOfRank] at ranks
  obtain rfl := Nat.le_antisymm le ranks
  exact Nat.lt_irrefl _ fewer

/-! ## Powers of ten -/

theorem rankOfPower_mono
    {less greater : Nat}
    (le : less ≤ greater) :
    rankOfPower less ≤ rankOfPower greater := by
  refine nearestRank_mono Nat.one_pos Nat.one_pos
    (Nat.mul_le_mul_right 1 (Nat.mul_le_mul_right unitsPerOne ?_))
  exact Nat.pow_le_pow_right (by decide) le

/-- One is a double. -/
theorem unitsOfRank_rankOfPower_zero :
    unitsOfRank (rankOfPower 0) = unitsPerOne := by
  obtain ⟨places, _, units⟩ := exists_unitsPerOne_eq
  unfold rankOfPower rankOfNat
  rw [units, Nat.pow_eq, Nat.pow_zero]
  have one := unitsOfRank_nearestRank (by decide : 1 < 2 ^ 53) places
  rwa [Nat.one_mul] at one ⊢

/-- No power of ten is below one. -/
theorem unitsPerOne_le_units
    (exponent : Nat) :
    unitsPerOne ≤ unitsOfRank (rankOfPower exponent) := by
  calc unitsPerOne
      = unitsOfRank (rankOfPower 0) :=
        unitsOfRank_rankOfPower_zero.symm
    _ ≤ unitsOfRank (rankOfPower exponent) :=
        unitsOfRank_mono (rankOfPower_mono (Nat.zero_le exponent))

/-- What is divided by a power of ten grows no greater. -/
theorem rankOfQuotient_le
    (rank exponent : Nat) :
    rankOfQuotient rank (rankOfPower exponent) ≤ rank := by
  have divisor := unitsPerOne_le_units exponent
  calc rankOfQuotient rank (rankOfPower exponent)
      ≤ nearestRank (unitsOfRank rank) 1 := by
        refine nearestRank_mono
          (Nat.lt_of_lt_of_le unitsPerOne_pos divisor) Nat.one_pos ?_
        rw [Nat.mul_one]
        exact Nat.mul_le_mul_left _ divisor
    _ = rank :=
        nearestRank_unitsOfRank rank

theorem loweredFar_le
    (times rank : Nat) :
    loweredFar times rank ≤ rank := by
  induction times generalizing rank with
  | zero =>
      exact Nat.le_refl rank
  | succ times inductionHypothesis =>
      rw [loweredFar]
      split
      · exact Nat.zero_le rank
      · exact Nat.le_trans (inductionHypothesis _)
          (rankOfQuotient_le rank _)

theorem lowered_le
    (rank exponent : Nat) :
    lowered rank exponent ≤ rank :=
  Nat.le_trans (rankOfQuotient_le _ _) (loweredFar_le _ rank)

/-- Zero is rounded to zero. -/
theorem nearestRank_zero
    {denominator : Nat}
    (positive : 0 < denominator) :
    nearestRank 0 denominator = 0 := by
  simp [nearestRank, halvings, roundedQuotient, positive]

/-- Zero does not overflow. -/
theorem raised_zero
    (exponent : Nat) :
    raised 0 exponent = 0 := by
  have zero : unitsOfRank 0 = 0 :=
    rfl
  unfold raised rankOfProduct
  rw [zero, Nat.zero_mul, nearestRank_zero unitsPerOne_pos]
  split
  · rfl
  · rfl

/-- What overflows does so when it is raised further. -/
theorem infinityRank_le_raised
    {rank less greater : Nat}
    (le : less ≤ greater)
    (overflows : infinityRank ≤ raised rank less) :
    infinityRank ≤ raised rank greater := by
  by_cases isZero : rank = 0
  · rw [isZero, raised_zero] at overflows
    exact absurd overflows (by decide)
  · by_cases within : greater ≤ greatestExponent
    · have lessWithin : less ≤ greatestExponent :=
        Nat.le_trans le within
      unfold raised at overflows ⊢
      rw [if_pos lessWithin] at overflows
      rw [if_pos within]
      have factors := unitsOfRank_mono (rankOfPower_mono le)
      refine Nat.le_trans overflows
        (nearestRank_mono unitsPerOne_pos unitsPerOne_pos ?_)
      exact Nat.mul_le_mul_right _ (Nat.mul_le_mul_left _ factors)
    · simp only [raised, if_neg within, if_neg isZero]
      exact Nat.le_refl infinityRank

/-- A smaller exponent keeps a finite magnitude finite. -/
theorem shifted_lt_of_le
    {rank : Nat}
    {less greater : Int}
    (isFinite : rank < infinityRank)
    (le : less ≤ greater)
    (finite : shifted rank greater < infinityRank) :
    shifted rank less < infinityRank := by
  by_cases natural : 0 ≤ less
  · unfold shifted at finite ⊢
    rw [if_pos (Int.le_trans natural le)] at finite
    rw [if_pos natural]
    refine Nat.lt_of_not_le fun overflows => ?_
    have further :=
      infinityRank_le_raised (Int.toNat_le_toNat le) overflows
    exact Nat.lt_irrefl _ (Nat.lt_of_lt_of_le finite further)
  · rw [shifted, if_neg natural]
    exact Nat.lt_of_le_of_lt (lowered_le rank _) isFinite

end Double

namespace DecimalText

/-! ## Significands -/

theorem fill_le
    {significand : Nat}
    (fits : significand ≤ greatestSignificand)
    (digits : List Char) :
    (fill significand digits).1 ≤ greatestSignificand := by
  induction digits generalizing significand with
  | nil =>
      exact fits
  | cons digit digits inductionHypothesis =>
      unfold fill
      simp only
      split
      · rename_i nextFits
        exact inductionHypothesis nextFits
      · exact fits

theorem length_fill_le
    (significand : Nat)
    (digits : List Char) :
    (fill significand digits).2.length ≤ digits.length := by
  induction digits generalizing significand with
  | nil =>
      exact Nat.le_refl 0
  | cons digit digits inductionHypothesis =>
      unfold fill
      simp only
      split
      · exact Nat.le_succ_of_le (inductionHypothesis _)
      · exact Nat.le_refl _

/-- The double nearest to a significand is finite. -/
theorem rankOfNat_significand_lt
    (text : DecimalText) :
    Double.rankOfNat text.significand.1 < infinityRank := by
  have fits : text.significand.1 ≤ greatestSignificand :=
    fill_le (fill_le (Nat.zero_le _) text.whole) text.fraction
  have isFinite :
      (Double.ofInt text.significand.1).isFinite = true := by
    refine Double.isFinite_ofInt ?_
    rw [Int.natAbs_natCast]
    exact Nat.le_trans fits (Nat.sub_le _ _)
  exact (Double.isFinite_ofRank_iff _ _).mp isFinite

/-- The point is moved by no more digits than stand before it. -/
theorem shift_le
    (text : DecimalText) :
    text.significand.2 ≤ (text.whole.length : Int) := by
  have wholeLeft := length_fill_le 0 text.whole
  have fractionLeft :=
    length_fill_le (fill 0 text.whole).1 text.fraction
  simp only [significand]
  omega

/-! ## Scaled decimals -/

section

variable {whole fraction : List Char}

/-- A smaller exponent keeps a decimal within the doubles. -/
theorem scaledRank_lt_of_le
    {less greater : Int}
    (le : less ≤ greater)
    (finite : scaledRank ⟨whole, fraction, greater⟩ < infinityRank) :
    scaledRank ⟨whole, fraction, less⟩ < infinityRank :=
  Double.shifted_lt_of_le
    (rankOfNat_significand_lt ⟨whole, fraction, less⟩)
    (Int.add_le_add_right le _) finite

/-- A decimal whose digits all stand behind the point is within them. -/
theorem scaledRank_lt_of_small
    {exponent : Int}
    (small : exponent + whole.length < 0) :
    scaledRank ⟨whole, fraction, exponent⟩ < infinityRank := by
  have shift :
      (significand ⟨whole, fraction, exponent⟩).2 ≤
        (whole.length : Int) :=
    shift_le _
  have belowZero :
      ¬ 0 ≤ exponent +
        (significand ⟨whole, fraction, exponent⟩).2 := by
    omega
  simp only [scaledRank, Double.shifted, if_neg belowZero]
  exact Nat.lt_of_le_of_lt (Double.lowered_le _ _)
    (rankOfNat_significand_lt _)

end

end DecimalText

end Mockup
