namespace Mockup

/-!
# Doubles

A double is either not a number or a sign with a rank.  The rank counts the
non-negative doubles in ascending order: zero has rank 0, the next larger
double has the next rank, and infinity has the last one.  Comparing doubles
is therefore comparing signed ranks, and both zeros have the signed rank 0.

Every finite magnitude is a whole number of *units*, where a unit is the
smallest positive double, `2 ^ (-1074)`.  Rounding is stated on units: the
nearest double to an exact quotient, a tie going to the even neighbour.
-/

/-- The rank of infinity: ranks `e * 2 ^ 52 + f` for exponents below 2047. -/
abbrev infinityRank : Nat := 2047 * Nat.pow 2 52

/-- Numbers with 53 significant bits. -/
inductive Double where
  | nan
  | ranked
      (negative : Bool)
      (rank : Fin (infinityRank + 1))
  deriving Repr, DecidableEq, Inhabited

namespace Double

/-- How many units make one: a unit is the smallest positive double. -/
def unitsPerOne : Nat :=
  Nat.pow 2 1074

/-- The quotient of two naturals, a tie going to the even neighbour. -/
def roundedQuotient
    (numerator denominator : Nat) :
    Nat :=
  let below := numerator / denominator
  let rest := numerator % denominator
  if 2 * rest < denominator then
    below
  else if denominator < 2 * rest then
    below + 1
  else
    below + below % 2

/--
The number of halvings after which `numerator / denominator` units have at
most 53 bits.
-/
def halvings
    (numerator denominator : Nat) :
    Nat :=
  (numerator / denominator).log2 - 52

/--
The rank nearest to `numerator / denominator` units.  A significand that
rounds up to `2 ^ 53` carries into the next binade by the addition alone.
-/
def nearestRank
    (numerator denominator : Nat) :
    Nat :=
  let shift := halvings numerator denominator
  shift * Nat.pow 2 52 +
    roundedQuotient numerator (denominator * Nat.pow 2 shift)

/-- The double of a rank; ranks past infinity are infinity. -/
def ofRank
    (negative : Bool)
    (rank : Nat) :
    Double :=
  .ranked negative (Fin.ofNat (infinityRank + 1) (min rank infinityRank))

/-- The double nearest to `numerator / denominator` units. -/
def ofUnits
    (negative : Bool)
    (numerator denominator : Nat) :
    Double :=
  ofRank negative (nearestRank numerator denominator)

/-- The double nearest to the magnitude `numerator / denominator`. -/
def ofRatio
    (negative : Bool)
    (numerator denominator : Nat) :
    Double :=
  ofUnits negative (numerator * unitsPerOne) denominator

/-- The double nearest to an integer. -/
def ofInt
    (value : Int) :
    Double :=
  ofRatio (decide (value < 0)) value.natAbs 1

/-- Positive zero. -/
def zero : Double :=
  ofRank false 0

/-- One. -/
def one : Double :=
  ofInt 1

/-- Infinity with a sign. -/
def infinity
    (negative : Bool) :
    Double :=
  ofRank negative infinityRank

/-- Whether this is not a number. -/
def isNaN : Double → Bool
  | .nan =>
      true
  | .ranked _ _ =>
      false

/-- Whether this is neither an infinity nor not a number. -/
def isFinite : Double → Bool
  | .nan =>
      false
  | .ranked _ rank =>
      rank.val != infinityRank

/-- Whether the sign is set; zero has a sign too. -/
def isNegative : Double → Bool
  | .nan =>
      false
  | .ranked negative _ =>
      negative

/-- The number without its sign. -/
def magnitude : Double → Double
  | .nan =>
      .nan
  | .ranked _ rank =>
      .ranked false rank

/-- The rank with the sign of the number, none for what is not a number. -/
def signedRank? : Double → Option Int
  | .nan =>
      none
  | .ranked negative rank =>
      some (if negative then -(rank.val : Int) else rank.val)

/-- Numeric equality: the zeros are equal, nothing equals what is no number. -/
def equals
    (left right : Double) :
    Bool :=
  match left.signedRank?, right.signedRank? with
  | some leftRank, some rightRank =>
      leftRank == rightRank
  | _, _ =>
      false

/-- The order of two numbers, none when one of them is not a number. -/
def order?
    (left right : Double) :
    Option Ordering :=
  match left.signedRank?, right.signedRank? with
  | some leftRank, some rightRank =>
      some (compare leftRank rightRank)
  | _, _ =>
      none

/-- Whether this is one of the zeros. -/
def isZero
    (number : Double) :
    Bool :=
  number.equals zero

/-- Whether this is below zero. -/
def belowZero
    (number : Double) :
    Bool :=
  number.order? zero == some .lt

/-- The whole number of units with a given rank. -/
def unitsOfRank
    (rank : Nat) :
    Nat :=
  if rank < Nat.pow 2 52 then
    rank
  else
    (rank % Nat.pow 2 52 + Nat.pow 2 52) *
      Nat.pow 2 (rank / Nat.pow 2 52 - 1)

/-- The magnitude in units, none unless finite. -/
def units? : Double → Option Nat
  | .nan =>
      none
  | .ranked _ rank =>
      if rank.val = infinityRank then
        none
      else
        some (unitsOfRank rank.val)

/-- The integer part, none unless finite. -/
def truncated?
    (number : Double) :
    Option Int :=
  number.units?.map fun units =>
    let whole : Int := ((units / unitsPerOne : Nat) : Int)
    if number.isNegative then -whole else whole

/-- Whether this is a finite number without a fractional part. -/
def isIntegral
    (number : Double) :
    Bool :=
  match number.units? with
  | some units =>
      units % unitsPerOne == 0
  | none =>
      false

/-- The integer between `least` and `greatest` nearest to the integer part. -/
def toIntClamped
    (least greatest : Int)
    (number : Double) :
    Int :=
  match number with
  | .nan =>
      max least (min greatest 0)
  | .ranked negative _ =>
      match number.truncated? with
      | some whole =>
          max least (min greatest whole)
      | none =>
          if negative then least else greatest

/-- The product with a natural number, rounded once. -/
def scaled
    (number : Double)
    (factor : Nat) :
    Double :=
  match number with
  | .nan =>
      .nan
  | .ranked negative _ =>
      match number.units? with
      | some units =>
          ofUnits negative (units * factor) 1
      | none =>
          number

end Double

end Mockup
