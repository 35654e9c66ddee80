import Mockup.Number.Double
import Mockup.Text.Ordinal

namespace Mockup

/-!
# Decimal numbers

A decimal number is a natural number of tenth powers.  Written decimals are
read here, and the double nearest to a decimal is found by exact division.
-/

/-- A decimal as it is written, with the digits before and after its point. -/
structure DecimalText where
  whole : List Char
  fraction : List Char
  exponent : Int
  deriving Repr, DecidableEq

/-- The number `digits * 10 ^ exponent`. -/
structure Decimal where
  digits : Nat
  exponent : Int
  deriving Repr, DecidableEq

namespace Decimal

/-- How many decimal digits a positive number has. -/
def digitCount
    (number : Nat) :
    Nat :=
  (Nat.toDigits 10 number).length

/--
The nearest double.  Decimals beyond `10 ^ 400` and below `10 ^ (-400)` are
out of reach of doubles and need no division.
-/
def toDouble
    (negative : Bool)
    (decimal : Decimal) :
    Double :=
  if decimal.digits = 0 then
    .ofRank negative 0
  else
    let leading : Int := decimal.exponent + digitCount decimal.digits
    if 400 < leading then
      .infinity negative
    else if leading < -400 then
      .ofRank negative 0
    else if 0 ≤ decimal.exponent then
      .ofRatio negative
        (decimal.digits * Nat.pow 10 decimal.exponent.toNat) 1
    else
      .ofRatio negative
        decimal.digits (Nat.pow 10 (-decimal.exponent).toNat)

/-- The decimal that is written. -/
def ofText
    (text : DecimalText) :
    Decimal where
  digits :=
    Text.naturalOfDigits (text.whole ++ text.fraction)
  exponent :=
    text.exponent - text.fraction.length

/-- A leading sign, and what follows it. -/
def signed : List Char → Bool × List Char
  | '-' :: rest =>
      (true, rest)
  | '+' :: rest =>
      (false, rest)
  | rest =>
      (false, rest)

/-- The exponent written at the end of a decimal, 0 when nothing is. -/
def exponent? : List Char → Option Int
  | [] =>
      some 0
  | mark :: rest =>
      let (negative, digits) := signed rest
      if (mark = 'e' || mark = 'E') &&
          !digits.isEmpty && digits.all Char.isDigit then
        let magnitude : Int := Text.naturalOfDigits digits
        some (if negative then -magnitude else magnitude)
      else
        none

/-- The digits after a point, and what follows them. -/
def fractionOf : List Char → List Char × List Char
  | '.' :: rest =>
      rest.span Char.isDigit
  | rest =>
      ([], rest)

/--
Read an unsigned decimal: digits with at most one point among them, at least
one digit, and an optional exponent.
-/
def text?
    (chars : List Char) :
    Option DecimalText :=
  let (whole, afterWhole) := chars.span Char.isDigit
  let (fraction, afterFraction) := fractionOf afterWhole
  if whole.isEmpty && fraction.isEmpty then
    none
  else
    (exponent? afterFraction).map (DecimalText.mk whole fraction)

/-- The unsigned decimal that is written. -/
def ofChars?
    (chars : List Char) :
    Option Decimal :=
  (text? chars).map ofText

end Decimal

namespace Double

/-- The number named by a word, whatever the case of its letters. -/
def ofWord?
    (negative : Bool)
    (word : List Char) :
    Option Double :=
  let lower := String.ofList (word.map Char.toLower)
  if lower = "inf" || lower = "infinity" then
    some (.infinity negative)
  else if lower = "nan" then
    some .nan
  else
    none

/--
Read a number: an optional sign, then a decimal or one of the words `inf`,
`infinity` and `nan`.
-/
def ofChars?
    (chars : List Char) :
    Option Double :=
  let (negative, body) := Decimal.signed chars
  match Decimal.ofChars? body with
  | some decimal =>
      some (decimal.toDouble negative)
  | none =>
      ofWord? negative body

end Double

end Mockup
