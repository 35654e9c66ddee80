import Mockup.Number.Decimal

namespace Mockup

/-!
# The shortest decimal of a double

A finite double is written with the fewest digits that read back.  All
decimals that read back form an interval around the double; a grid of
decimals with a given number of digits meets that interval only if one of the
double's two neighbours on the grid lies in it, so trying 1, 2, … 17 digits
and the two neighbours of each grid finds the shortest decimal.
-/

namespace Double

/--
The decimals that read back as one double, as numbers of quarter units; the
ends belong to it exactly when the significand is even.
-/
structure ReadBack where
  least : Nat
  centre : Nat
  greatest : Nat
  closed : Bool
  deriving Repr, DecidableEq

/-- The distance from a rank to the next one, in units. -/
def spacing
    (rank : Nat) :
    Nat :=
  Nat.pow 2 (rank / Nat.pow 2 52 - 1)

/-- The interval that reads back as a positive rank. -/
def readBack
    (rank : Nat) :
    ReadBack where
  least :=
    4 * unitsOfRank rank - 2 * spacing (rank - 1)
  centre :=
    4 * unitsOfRank rank
  greatest :=
    4 * unitsOfRank rank + 2 * spacing rank
  closed :=
    rank % 2 == 0

/-- A scale for decimals: `number / per` is a count of grid steps. -/
structure Grid where
  factor : Nat
  per : Nat
  deriving Repr, DecidableEq

/-- The grid of multiples of `10 ^ exponent`, for quarter units. -/
def grid
    (exponent : Int) :
    Grid where
  factor :=
    Nat.pow 10 (-exponent).toNat
  per :=
    4 * unitsPerOne * Nat.pow 10 exponent.toNat

namespace ReadBack

/-- Whether `steps` steps of a grid read back. -/
def holds
    (range : ReadBack)
    (grid : Grid)
    (steps : Nat) :
    Bool :=
  let point := steps * grid.per
  if range.closed then
    range.least * grid.factor ≤ point &&
      point ≤ range.greatest * grid.factor
  else
    range.least * grid.factor < point &&
      point < range.greatest * grid.factor

/--
The nearest step of a grid that reads back, if one does; of two that are
equally near, the greater one.
-/
def step?
    (range : ReadBack)
    (grid : Grid) :
    Option Nat :=
  let centre := range.centre * grid.factor
  let below := centre / grid.per
  let above := below + 1
  match range.holds grid below, range.holds grid above with
  | true, true =>
      if 2 * (centre % grid.per) < grid.per then
        some below
      else
        some above
  | true, false =>
      some below
  | false, true =>
      some above
  | false, false =>
      none

/--
The first grid with a step that reads back, from grids of `digits` digits on;
`fuel` bounds the further digits to try.
-/
def search
    (range : ReadBack)
    (leading : Int)
    (digits : Nat) :
    Nat → Decimal
  | 0 =>
      ⟨0, 0⟩
  | fuel + 1 =>
      let exponent : Int := leading - digits
      match range.step? (grid exponent) with
      | some steps =>
          ⟨steps, exponent⟩
      | none =>
          search range leading (digits + 1) fuel

end ReadBack

/-- The exponent of the smallest power of ten above `units` units. -/
def leadingExponent
    (units : Nat) :
    Int :=
  if unitsPerOne ≤ units then
    Decimal.digitCount (units / unitsPerOne)
  else
    1 - (Decimal.digitCount ((unitsPerOne - 1) / units) : Int)

/-- The shortest decimal that reads back as a rank, zero for rank 0. -/
def shortestOfRank
    (rank : Nat) :
    Decimal :=
  if rank = 0 then
    ⟨0, 0⟩
  else
    (readBack rank).search
      (leadingExponent (unitsOfRank rank)) 1 17

/-- The shortest decimal of a finite double's magnitude. -/
def shortest? : Double → Option Decimal
  | .nan =>
      none
  | .ranked _ rank =>
      if rank.val = infinityRank then
        none
      else
        some (shortestOfRank rank.val)

end Double

end Mockup
