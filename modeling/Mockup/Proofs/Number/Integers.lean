import Mockup.Proofs.Number.Rounding

namespace Mockup

namespace Double

/-!
# The doubles of integers

Every integer has a nearest double, and greater integers have no smaller ones.
Up to `2 ^ 53` an integer is its own nearest double, so different integers
have different doubles there; beyond, neighbours may share one.
-/

/-! ## Exact quotients -/

theorem roundedQuotient_mul
    (quotient : Nat)
    {denominator : Nat}
    (positive : 0 < denominator) :
    roundedQuotient (quotient * denominator) denominator = quotient := by
  simp [roundedQuotient, Nat.mul_div_cancel _ positive, positive]

/-- A rank is read back as the significand that it was made of. -/
theorem unitsOfRank_binade
    {shift significand : Nat}
    (fits : significand < 2 ^ 53)
    (full : 2 ^ 52 ≤ significand ∨ shift = 0) :
    unitsOfRank (shift * Nat.pow 2 52 + significand) =
      significand * 2 ^ shift := by
  have power : Nat.pow 2 52 = 4503599627370496 :=
    rfl
  unfold unitsOfRank
  rw [power]
  split
  · obtain rfl : shift = 0 := by
      omega
    simp
  · have binade :
        (shift * 4503599627370496 + significand) / 4503599627370496 =
          shift + 1 := by
      omega
    have inBinade :
        (shift * 4503599627370496 + significand) % 4503599627370496 +
            4503599627370496 =
          significand := by
      omega
    rw [binade, inBinade, Nat.add_sub_cancel, Nat.pow_eq]

/-- Units that are halved without remainder are the units of their rank. -/
theorem unitsOfRank_nearestRank_of_dvd
    {units : Nat}
    (halves : 2 ^ halvings units 1 ∣ units) :
    unitsOfRank (nearestRank units 1) = units := by
  obtain ⟨significand, isProduct⟩ := halves
  have positive : 0 < 2 ^ halvings units 1 :=
    Nat.pow_pos Nat.two_pos
  have product : units = significand * 2 ^ halvings units 1 := by
    rw [Nat.mul_comm]
    exact isProduct
  have quotient :
      units / (1 * Nat.pow 2 (halvings units 1)) = significand := by
    rw [Nat.one_mul, Nat.pow_eq]
    exact Nat.div_eq_of_eq_mul_left positive product
  have rounded :
      roundedQuotient units (1 * Nat.pow 2 (halvings units 1)) =
        significand := by
    rw [Nat.one_mul, Nat.pow_eq]
    exact (congrArg (roundedQuotient · _) product).trans
      (roundedQuotient_mul significand positive)
  have fits := significand_lt units 1
  have full : 2 ^ 52 ≤ significand ∨ halvings units 1 = 0 := by
    rcases Nat.eq_zero_or_pos (halvings units 1) with isZero | halved
    · exact .inr isZero
    · exact .inl (quotient ▸ le_significand halved)
  rw [quotient] at fits
  have rank :
      nearestRank units 1 =
        halvings units 1 * Nat.pow 2 52 + significand :=
    congrArg (halvings units 1 * Nat.pow 2 52 + ·) rounded
  rw [rank, unitsOfRank_binade fits full]
  exact product.symm

/-- A significand gains a bit with every doubling. -/
theorem log2_lt
    {significand : Nat}
    (fits : significand < 2 ^ 53)
    (places : Nat) :
    (significand * 2 ^ places).log2 < 53 + places := by
  by_cases isZero : significand * 2 ^ places = 0
  · rw [isZero, Nat.log2_zero]
    omega
  · rw [Nat.log2_lt isZero, Nat.pow_add]
    exact Nat.mul_lt_mul_of_pos_right fits (Nat.pow_pos Nat.two_pos)

/-- A number with 53 bits is its own nearest double. -/
theorem unitsOfRank_nearestRank
    {significand : Nat}
    (fits : significand < 2 ^ 53)
    (places : Nat) :
    unitsOfRank (nearestRank (significand * 2 ^ places) 1) =
      significand * 2 ^ places := by
  refine unitsOfRank_nearestRank_of_dvd
    (Nat.dvd_mul_left_of_dvd (Nat.pow_dvd_pow 2 ?_) significand)
  have bits := log2_lt fits places
  unfold halvings
  rw [Nat.div_one]
  omega

/-! ## Integers -/

/-- The rank of the double nearest to an integer, with the integer's sign. -/
def rankOfInt
    (value : Int) :
    Int :=
  let rank : Int :=
    ((min (nearestRank (value.natAbs * unitsPerOne) 1) infinityRank : Nat) :
      Int)
  if value < 0 then -rank else rank

theorem signedRank?_ofInt
    (value : Int) :
    (ofInt value).signedRank? = some (rankOfInt value) := by
  simp only [ofInt, ofRatio, ofUnits, ofRank, signedRank?, rankOfInt,
    Fin.ofNat, decide_eq_true_eq]
  rw [Nat.mod_eq_of_lt (Nat.lt_succ_of_le (Nat.min_le_right _ _))]

/-- The doubles of integers keep their order. -/
theorem rankOfInt_mono
    {less greater : Int}
    (le : less ≤ greater) :
    rankOfInt less ≤ rankOfInt greater := by
  have ranks :
      ∀ {small great : Nat}, small ≤ great →
        min (nearestRank (small * unitsPerOne) 1) infinityRank ≤
          min (nearestRank (great * unitsPerOne) 1) infinityRank := by
    intro small great isLess
    have rank :=
      nearestRank_mono Nat.one_pos Nat.one_pos
        (Nat.mul_le_mul_right 1 (Nat.mul_le_mul_right unitsPerOne isLess))
    omega
  unfold rankOfInt
  simp only
  by_cases lessNegative : less < 0
  · by_cases greaterNegative : greater < 0
    · have magnitudes : greater.natAbs ≤ less.natAbs := by
        omega
      have rank := ranks magnitudes
      rw [if_pos lessNegative, if_pos greaterNegative]
      omega
    · rw [if_pos lessNegative, if_neg greaterNegative]
      omega
  · have magnitudes : less.natAbs ≤ greater.natAbs := by
      omega
    have rank := ranks magnitudes
    rw [if_neg lessNegative, if_neg (by omega)]
    omega

/-- Up to `2 ^ 53` the rank of an integer tells its magnitude. -/
theorem unitsOfRank_natAbs_rankOfInt
    {value : Int}
    (small : value.natAbs ≤ 2 ^ 53) :
    unitsOfRank (rankOfInt value).natAbs =
      value.natAbs * unitsPerOne := by
  have finite : nearestRank (value.natAbs * unitsPerOne) 1 < infinityRank := by
    refine (isFinite_ofRank_iff (decide (value < 0)) _).mp ?_
    exact isFinite_ofInt
      (Nat.le_trans small (Nat.pow_le_pow_right Nat.two_pos (by decide)))
  have magnitude :
      (rankOfInt value).natAbs =
        nearestRank (value.natAbs * unitsPerOne) 1 := by
    unfold rankOfInt
    rw [Nat.min_eq_left (Nat.le_of_lt finite)]
    simp only
    split <;> omega
  rw [magnitude]
  obtain ⟨places, _, units⟩ := exists_unitsPerOne_eq
  rw [units]
  rcases Nat.lt_or_eq_of_le small with fits | isLimit
  · exact unitsOfRank_nearestRank fits places
  · have halved : 2 ^ 53 * 2 ^ places = 2 ^ 52 * 2 ^ (places + 1) := by
      rw [Nat.pow_succ 2 places]
      omega
    rw [isLimit, halved]
    exact unitsOfRank_nearestRank (by decide) (places + 1)

section

variable
  {less greater : Int}
  (lessSmall : less.natAbs ≤ 2 ^ 53)
  (greaterSmall : greater.natAbs ≤ 2 ^ 53)

include lessSmall greaterSmall

theorem natAbs_eq_of_rankOfInt_eq
    (same : rankOfInt less = rankOfInt greater) :
    less.natAbs = greater.natAbs := by
  have lessUnits := unitsOfRank_natAbs_rankOfInt lessSmall
  have greaterUnits := unitsOfRank_natAbs_rankOfInt greaterSmall
  refine Nat.mul_right_cancel unitsPerOne_pos ?_
  rw [← lessUnits, ← greaterUnits, same]

/-- Up to `2 ^ 53` greater integers have greater doubles. -/
theorem rankOfInt_lt
    (lt : less < greater) :
    rankOfInt less < rankOfInt greater := by
  refine Int.lt_iff_le_and_ne.mpr
    ⟨rankOfInt_mono (Int.le_of_lt lt), fun same => ?_⟩
  have magnitudes :=
    natAbs_eq_of_rankOfInt_eq lessSmall greaterSmall same
  -- They are opposite, so zero is between them and has their rank too.
  have belowZero : rankOfInt less ≤ rankOfInt 0 :=
    rankOfInt_mono (by omega)
  have aboveZero : rankOfInt 0 ≤ rankOfInt greater :=
    rankOfInt_mono (by omega)
  have zero : rankOfInt less = rankOfInt 0 := by
    omega
  have isZero := natAbs_eq_of_rankOfInt_eq lessSmall (by decide) zero
  omega

end

/-- Up to `2 ^ 53` integers with the same double are the same. -/
theorem eq_of_rankOfInt_eq
    {left right : Int}
    (leftSmall : left.natAbs ≤ 2 ^ 53)
    (rightSmall : right.natAbs ≤ 2 ^ 53)
    (same : rankOfInt left = rankOfInt right) :
    left = right := by
  rcases Int.lt_trichotomy left right with less | equal | greater
  · have lower := rankOfInt_lt leftSmall rightSmall less
    omega
  · exact equal
  · have higher := rankOfInt_lt rightSmall leftSmall greater
    omega

end Double

end Mockup
