import Mockup.Number.Decimal

namespace Mockup

/-!
# Decimals read by scaling

A written decimal may be read without long division.  As many of its digits as
64 bits hold are taken for an integer, whose nearest double is multiplied or
divided by the doubles of powers of ten.  Every step is rounded, so the result
may miss the nearest double by a little, and it may overflow where the nearest
double is finite.
-/

namespace Double

/-! ## Magnitudes -/

/-- The rank of the double nearest to a natural number. -/
def rankOfNat
    (number : Nat) :
    Nat :=
  nearestRank (number * unitsPerOne) 1

/-- The rank of the double nearest to a power of ten. -/
def rankOfPower
    (exponent : Nat) :
    Nat :=
  rankOfNat (Nat.pow 10 exponent)

/-- The rank of a product: that of the double nearest to it. -/
def rankOfProduct
    (rank factor : Nat) :
    Nat :=
  nearestRank (unitsOfRank rank * unitsOfRank factor) unitsPerOne

/-- The rank of a quotient: that of the double nearest to it. -/
def rankOfQuotient
    (rank divisor : Nat) :
    Nat :=
  nearestRank (unitsOfRank rank * unitsPerOne) (unitsOfRank divisor)

/-! ## Powers of ten -/

/-- The exponent of the greatest power of ten that is a finite double. -/
def greatestExponent : Nat :=
  308

/-- Multiply by a power of ten; beyond the greatest all but zero overflows. -/
def raised
    (rank exponent : Nat) :
    Nat :=
  if exponent ≤ greatestExponent then
    rankOfProduct rank (rankOfPower exponent)
  else if rank = 0 then
    0
  else
    infinityRank

/-- Divide by the greatest power of ten so many times, or until it is zero. -/
def loweredFar : Nat → Nat → Nat
  | 0, rank =>
      rank
  | times + 1, rank =>
      if rank = 0 then
        0
      else
        loweredFar times
          (rankOfQuotient rank (rankOfPower greatestExponent))

/-- Divide by a power of ten, as often by the greatest one as it takes. -/
def lowered
    (rank exponent : Nat) :
    Nat :=
  let times := (exponent - 1) / greatestExponent
  rankOfQuotient (loweredFar times rank)
    (rankOfPower (exponent - greatestExponent * times))

/-- Multiply or divide by a power of ten. -/
def shifted
    (rank : Nat)
    (exponent : Int) :
    Nat :=
  if 0 ≤ exponent then
    raised rank exponent.toNat
  else
    lowered rank (-exponent).toNat

end Double

namespace DecimalText

/-- The greatest significand that 64 bits hold. -/
def greatestSignificand : Nat :=
  Nat.pow 2 64 - 1

/--
Put digits behind a significand as long as 64 bits hold it; tells which digits
are left.
-/
def fill : Nat → List Char → Nat × List Char
  | significand, [] =>
      (significand, [])
  | significand, digit :: digits =>
      let next := significand * 10 + (digit.toNat - '0'.toNat)
      if next ≤ greatestSignificand then
        fill next digits
      else
        (significand, digit :: digits)

/--
The significand of a decimal, and how far its point is moved.  Digits before
the point that are left move it, and so do those behind it that are taken.
-/
def significand
    (text : DecimalText) :
    Nat × Int :=
  let (whole, wholeLeft) := fill 0 text.whole
  let (significand, fractionLeft) := fill whole text.fraction
  let taken : Int := text.fraction.length - fractionLeft.length
  (significand, wholeLeft.length - taken)

/-- The rank that scaling finds for a decimal. -/
def scaledRank
    (text : DecimalText) :
    Nat :=
  let (significand, shift) := text.significand
  Double.shifted (Double.rankOfNat significand) (text.exponent + shift)

end DecimalText

/-- Read a number by scaling: an optional sign, then a decimal. -/
def Double.ofScaledChars?
    (chars : List Char) :
    Option Double :=
  let (negative, body) := Decimal.signed chars
  (Decimal.text? body).map fun text =>
    .ofRank negative text.scaledRank

end Mockup
