import Mockup.Value.Basic
import Mockup.Number.Decimal
import Mockup.Text.Blank

namespace Mockup

namespace Value

/-!
# Numbers in values

The readings of a value as a truth value, an integer, a double, and the loose
numeric reading that relational comparisons use.
-/

/-- The double nearest to an integer value. -/
def doubleOfInt
    (value : Int64) :
    Double :=
  .ofInt value.toInt

/--
Whether a value counts as true.  Containers do, also empty ones; null, zero,
what is not a number, and the empty string do not.
-/
def isTruthy : Value → Bool
  | .null =>
      false
  | .bool value =>
      value
  | .int value =>
      value != 0
  | .float value =>
      !value.isZero && !value.isNaN
  | .string value =>
      value != ""
  | .list _ =>
      true
  | .map _ =>
      true

/-- The least and the greatest integer value. -/
def intBounds : Int × Int :=
  (-Int.pow 2 63, Int.pow 2 63 - 1)

/-- The integer nearest to the integer part of a double. -/
def intOfDouble
    (value : Double) :
    Int64 :=
  Int64.ofInt (value.toIntClamped intBounds.1 intBounds.2)

/-- An integer, or a double without a fractional part. -/
def asInt? : Value → Option Int64
  | .int value =>
      some value
  | .float value =>
      if value.isIntegral then some (intOfDouble value) else none
  | _ =>
      none

/-- A number as a double. -/
def asDouble? : Value → Option Double
  | .int value =>
      some (doubleOfInt value)
  | .float value =>
      some value
  | _ =>
      none

/-- The number written in a text; a blank text is zero. -/
def numberOfText?
    (text : String) :
    Option Double :=
  let trimmed := Text.trim text.toList
  if trimmed.isEmpty then
    some .zero
  else
    Double.ofChars? trimmed

/--
The loose numeric reading: null is 0, a boolean is 0 or 1, a string is the
number it writes.  Containers and what is not a number have none.
-/
def toNumber? : Value → Option Double
  | .null =>
      some .zero
  | .bool value =>
      some (if value then .one else .zero)
  | .int value =>
      some (doubleOfInt value)
  | .float value =>
      if value.isNaN then none else some value
  | .string value =>
      numberOfText? value
  | .list _ =>
      none
  | .map _ =>
      none

end Value

end Mockup
