namespace Mockup.Text

/-!
# Ordinals in paths

A path segment names a list element when it is an ordinal: ASCII digits with
an optional plus sign in front, leading zeros allowed, below `2 ^ 64`.
-/

/-- The number written by decimal digits, most significant first. -/
def naturalOfDigits
    (digits : List Char) :
    Nat :=
  digits.foldl
    (fun number digit => number * 10 + (digit.toNat - '0'.toNat)) 0

/-- Digits without the optional plus sign in front of them. -/
def withoutPlus : List Char → List Char
  | '+' :: digits =>
      digits
  | digits =>
      digits

/-- The number named by an ordinal. -/
def ordinal?
    (segment : String) :
    Option Nat :=
  let digits := withoutPlus segment.toList
  if digits.isEmpty || !digits.all Char.isDigit then
    none
  else
    let number := naturalOfDigits digits
    if number < Nat.pow 2 64 then some number else none

end Mockup.Text
