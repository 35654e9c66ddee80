import Mockup.Number.Decimal
import Mockup.Term.Word

namespace Mockup

namespace Term

/-!
# Numerals in terms

An integer may have a base in front of its digits, a width behind them, and
underscores between them.  Any other number is a decimal, which may have
underscores behind its digits and a width, or one of the words for infinity
and for no number.  Two numbers can make a range.
-/

/-- The digit of a base up to sixteen. -/
def digit?
    (char : Char) :
    Option Nat :=
  if char.isDigit then
    some (char.toNat - '0'.toNat)
  else if 'a' ≤ char && char ≤ 'f' then
    some (char.toNat - 'a'.toNat + 10)
  else if 'A' ≤ char && char ≤ 'F' then
    some (char.toNat - 'A'.toNat + 10)
  else
    none

/-- Whether a character may stand in the digits of an integer. -/
def isDigitLike
    (char : Char) :
    Bool :=
  (digit? char).isSome || char = '_'

/-- The number written by digits of a base; underscores do not count. -/
def natural?
    (base : Nat)
    (digits : List Char) :
    Option Nat :=
  (digits.filter fun char => char ≠ '_').foldlM
    (fun number char =>
      match digit? char with
      | some digit =>
          if digit < base then some (number * base + digit) else none
      | none =>
          none) 0

/-- The widths that an integer may name, with the bounds of each. -/
def widths : List (String × Int × Int) :=
  [("u8", 0, Int.pow 2 8 - 1), ("u16", 0, Int.pow 2 16 - 1),
    ("u32", 0, Int.pow 2 32 - 1), ("u64", 0, Int.pow 2 64 - 1),
    ("i8", -Int.pow 2 7, Int.pow 2 7 - 1),
    ("i16", -Int.pow 2 15, Int.pow 2 15 - 1),
    ("i32", -Int.pow 2 31, Int.pow 2 31 - 1),
    ("i64", -Int.pow 2 63, Int.pow 2 63 - 1)]

/-- The bounds of an integer that names no width. -/
def openBounds : Int × Int :=
  (-Int.pow 2 63, Int.pow 2 64 - 1)

/-- An integer as it is written. -/
structure Numeral where
  value : Int
  /-- The width behind the digits. -/
  width : Option String
  deriving Repr, DecidableEq

namespace Numeral

/-- Whether the value fits the width. -/
def isInBounds
    (numeral : Numeral) :
    Bool :=
  let bounds :=
    (numeral.width.bind fun width => widths.lookup width).getD openBounds
  bounds.1 ≤ numeral.value && numeral.value ≤ bounds.2

/-- The count that a numeral is, when counts have a given width. -/
def count?
    (width : String)
    (numeral : Numeral) :
    Option Nat :=
  let plain : Numeral := ⟨numeral.value, some width⟩
  if numeral.width.getD width = width && plain.isInBounds then
    some numeral.value.toNat
  else
    none

end Numeral

/-- The base that an unsigned integer announces, and the rest of it. -/
def splitBase? : List Char → Option (Nat × List Char)
  | '0' :: 'b' :: rest =>
      some (2, rest)
  | '0' :: 'o' :: rest =>
      some (8, rest)
  | '0' :: 'x' :: rest =>
      some (16, rest)
  | _ =>
      none

/-- The width at the start of a text, and what follows it. -/
def splitWidth
    (chars : List Char) :
    Option String × List Char :=
  let found := widths.findSome? fun entry =>
    (afterKeyword? entry.1 chars).map fun rest => (some entry.1, rest)
  found.getD (none, chars)

/-- An integer at the start of a text, and what follows it. -/
def numeral?
    (chars : List Char) :
    Option (Numeral × List Char) :=
  let (negative, unsigned) := Decimal.signed chars
  let (base, body) := (splitBase? unsigned).getD (10, unsigned)
  let digits := body.takeWhile isDigitLike
  if digits.isEmpty || digits.head? = some '_' then
    none
  else
    (natural? base digits).map fun number =>
      let (width, rest) := splitWidth (body.dropWhile isDigitLike)
      (⟨if negative then -number else number, width⟩, rest)

/-- Whether a character may stand in a decimal. -/
def isDecimalLike
    (char : Char) :
    Bool :=
  char.isDigit || char = 'e' || char = 'E' || char = '.' || char = '+' ||
    char = '-' || char = '_'

/-- The characters of a decimal; the two points of a range end it. -/
def decimalToken : List Char → List Char
  | '.' :: '.' :: _ =>
      []
  | char :: rest =>
      if isDecimalLike char then char :: decimalToken rest else []
  | [] =>
      []

/-- The token without underscores, which must follow a digit or a mark. -/
def withoutUnderscores?
    (allowed : Bool) :
    List Char → Option (List Char)
  | [] =>
      some []
  | '_' :: rest =>
      if allowed then withoutUnderscores? true rest else none
  | char :: rest =>
      let next :=
        char ≠ '.' &&
          (allowed || char.isDigit || char = 'e' || char = 'E')
      (withoutUnderscores? next rest).map fun chars => char :: chars

/-- The widths that a decimal may name. -/
def decimalWidths : List String :=
  ["f32", "f64"]

/-- The signs that a word for a number may have. -/
def signTexts : List String :=
  ["", "+", "-"]

/-- The words for infinity and for no number, with signs and widths. -/
def numberWords : List String :=
  signTexts.flatMap fun sign =>
    ["inf", "NaN"].flatMap fun word =>
      ("" :: decimalWidths).map fun width => sign ++ word ++ width

/-- What follows a decimal, or a word for a number. -/
def afterDecimal?
    (chars : List Char) :
    Option (List Char) :=
  match afterAnyKeyword? numberWords chars with
  | some rest =>
      some rest
  | none => do
      let token := decimalToken chars
      let plain ← withoutUnderscores? false token
      let _ ← Decimal.ofChars? (Decimal.signed plain).2
      let rest := chars.drop token.length
      some ((afterAnyKeyword? decimalWidths rest).getD rest)

/--
What follows a number.  An integer with a base or a width must fit its
bounds; without them it is also a decimal.
-/
def afterNumber?
    (chars : List Char) :
    Option (List Char) :=
  let isBased := (splitBase? (Decimal.signed chars).2).isSome
  match numeral? chars with
  | some (numeral, rest) =>
      if isBased || numeral.width.isSome then
        if numeral.isInBounds then some rest else none
      else
        afterDecimal? chars
  | none =>
      if isBased then none else afterDecimal? chars

/-- Whether a number may begin with a character. -/
def startsNumber
    (char : Char) :
    Bool :=
  char.isDigit || char = '+' || char = '-' || char = '.'

/-- What follows a range whose two points have been read. -/
def afterRangeEnd? : List Char → Option (List Char)
  | '=' :: rest =>
      afterNumber? rest
  | rest =>
      if rest.head?.any startsNumber then
        afterNumber? rest
      else
        some rest

/-- What follows the points and the end of a range, if they stand there. -/
def afterRange? : List Char → Option (List Char)
  | '.' :: '.' :: rest =>
      afterRangeEnd? rest
  | rest =>
      some rest

/-- What follows a number or a range, of which either end may be missing. -/
def afterNumberOrRange? : List Char → Option (List Char)
  | '.' :: '.' :: rest =>
      afterRangeEnd? rest
  | chars =>
      (afterNumber? chars).bind afterRange?

end Term

end Mockup
