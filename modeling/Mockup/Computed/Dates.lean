import Mockup.Computed.DateReader
import Mockup.Computed.Registry
import Mockup.Text.Pieces

namespace Mockup

namespace Computed

/-!
# Dates as text

A pattern is a text with tokens for the parts of a moment.  Each token is
replaced once, at its leftmost occurrence.  What is no date is handed back
as it came.
-/

/-- A number with at least two digits. -/
def twoDigits
    (number : Nat) :
    List Char :=
  padDigits 2 (Nat.toDigits 10 number)

/-- The tokens of a pattern with the text of each, in order of replacement. -/
def dateTokens
    (moment : DateTime) :
    List (String × List Char) :=
  [("YYYY", (toString moment.date.year).toList),
    ("MM", twoDigits moment.date.month),
    ("DD", twoDigits moment.date.day),
    ("HH", twoDigits moment.hour),
    ("mm", twoDigits moment.minute),
    ("ss", twoDigits moment.second)]

/-- A pattern with its tokens replaced by the parts of a moment. -/
def dateText
    (moment : DateTime)
    (pattern : String) :
    String :=
  String.ofList
    ((dateTokens moment).foldl
      (fun text token =>
        Text.replaceFirst token.1.toList token.2 text)
      pattern.toList)

/-- The moment a value names: milliseconds, or a text in one of the forms. -/
def moment? : Value → Option DateTime
  | .int milliseconds =>
      DateTime.ofMilliseconds? milliseconds.toInt
  | .float milliseconds =>
      if milliseconds.isFinite then
        DateTime.ofMilliseconds? (Value.intOfDouble milliseconds).toInt
      else
        none
  | .string text =>
      DateTime.ofText? text
  | _ =>
      none

/-- The pattern of a date without a time. -/
def defaultPattern : String :=
  "YYYY-MM-DD"

/-- A moment and an optional pattern. -/
def formatDate : ComputedFunction :=
  fun arguments =>
    let value := (argument? arguments 0).getD .null
    match moment? value with
    | none =>
        .ok value
    | some moment =>
        .ok (.string
          (dateText moment (textArgument arguments 1 defaultPattern)))

end Computed

end Mockup
