import Mockup.Number.Shortest

namespace Mockup

/-!
# How numbers are written

*Plain* text has the fewest digits that read back and never an exponent.
*Fixed* text has a given number of places and is exact on the value, a tie
going to the even neighbour.  *Document* text marks a double by a point or an
exponent, so that it is never read back as an integer.
-/

/-- Digits filled up with zeros in front to at least `width` digits. -/
def padDigits
    (width : Nat)
    (digits : List Char) :
    List Char :=
  List.replicate (width - digits.length) '0' ++ digits

/-- A natural number with a point before its last `places` digits. -/
def pointed
    (places : Nat)
    (number : Nat) :
    List Char :=
  let digits := padDigits (places + 1) (Nat.toDigits 10 number)
  let whole := digits.take (digits.length - places)
  let fraction := digits.drop (digits.length - places)
  if places = 0 then whole else whole ++ '.' :: fraction

namespace Decimal

/-- A decimal written without an exponent. -/
def plain
    (decimal : Decimal) :
    List Char :=
  if 0 ≤ decimal.exponent then
    Nat.toDigits 10 (decimal.digits * Nat.pow 10 decimal.exponent.toNat)
  else
    pointed (-decimal.exponent).toNat decimal.digits

/-- Take zeros off the end of the digits, at most `fuel` of them. -/
def dropZeros
    (decimal : Decimal) :
    Nat → Decimal
  | 0 =>
      decimal
  | fuel + 1 =>
      if decimal.digits ≠ 0 && decimal.digits % 10 = 0 then
        dropZeros ⟨decimal.digits / 10, decimal.exponent + 1⟩ fuel
      else
        decimal

/-- The same decimal without zeros at the end of its digits. -/
def reduced
    (decimal : Decimal) :
    Decimal :=
  decimal.dropZeros (digitCount decimal.digits)

end Decimal

namespace Double

/-- A minus sign for a set sign, also that of zero. -/
def signChars
    (number : Double) :
    List Char :=
  if number.isNegative then ['-'] else []

/-- Plain text, with words for what is not finite. -/
def plain
    (number : Double) :
    List Char :=
  match number.shortest? with
  | some decimal =>
      number.signChars ++ decimal.reduced.plain
  | none =>
      if number.isNaN then
        "NaN".toList
      else
        number.signChars ++ "Infinity".toList

/-- Fixed text of the magnitude. -/
def fixedMagnitude
    (places : Nat)
    (number : Double) :
    List Char :=
  match number.units? with
  | some units =>
      pointed places (roundedQuotient (units * Nat.pow 10 places) unitsPerOne)
  | none =>
      if number.isNaN then "NaN".toList else "inf".toList

/-- Fixed text with `places` digits after the point. -/
def fixed
    (places : Nat)
    (number : Double) :
    List Char :=
  number.signChars ++ number.fixedMagnitude places

/-- The least and the first unreachable leading exponent of positional text. -/
def positionalExponents : Int × Int :=
  (-4, 17)

/-- An exponent mark with a sign and at least two digits. -/
def exponentChars
    (exponent : Int) :
    List Char :=
  let sign := if exponent < 0 then '-' else '+'
  'e' :: sign :: padDigits 2 (Nat.toDigits 10 exponent.natAbs)

/-- A decimal with one digit before its point, and an exponent. -/
def scientific
    (decimal : Decimal) :
    List Char :=
  match Nat.toDigits 10 decimal.digits with
  | [] =>
      []
  | first :: others =>
      let mantissa :=
        if others.isEmpty then [first] else first :: '.' :: others
      mantissa ++
        exponentChars (decimal.exponent + others.length)

/-- Document text of a finite double, none otherwise. -/
def documentText?
    (number : Double) :
    Option (List Char) :=
  number.shortest?.map fun shortest =>
    let decimal := shortest.reduced
    let leading : Int :=
      decimal.exponent + Decimal.digitCount decimal.digits
    number.signChars ++
      if decimal.digits = 0 then
        "0.0".toList
      else if positionalExponents.1 ≤ leading &&
          leading < positionalExponents.2 then
        if 0 ≤ decimal.exponent then
          decimal.plain ++ ".0".toList
        else
          decimal.plain
      else
        scientific decimal

end Double

end Mockup
