import Mockup.Computed.Currency
import Mockup.Computed.Dates

namespace Mockup

namespace Computed

/-!
# The functions every evaluator knows

Plain numbers, percentages, shortened texts and joined lists, and the
registry of all functions that need no registration.
-/

/-- A number and an optional count of decimals. -/
def formatNumber : ComputedFunction :=
  fun arguments => do
    let number ← numberArgument "formatNumber" arguments 0
    let decimals ← decimalsArgument "formatNumber" arguments 1
    .ok (.string (String.ofList (number.fixed decimals)))

/-- A share of one and an optional count of decimals. -/
def formatPercent : ComputedFunction :=
  fun arguments => do
    let number ← numberArgument "formatPercent" arguments 0
    let decimals ← decimalsArgument "formatPercent" arguments 1
    .ok (.string
      (String.ofList ((number.scaled 100).fixed decimals ++ ['%'])))

/-- A text cut after `most` characters, with dots when something is cut. -/
def shortened
    (text : String)
    (most : Nat) :
    String :=
  if text.toList.length ≤ most then
    text
  else
    String.ofList (text.toList.take most ++ "...".toList)

/-- A text and an optional count of characters. -/
def truncate : ComputedFunction :=
  fun arguments =>
    match (argument? arguments 0).getD .null with
    | .string text =>
        (countArgument arguments 1 50).map fun most =>
          .string (shortened text most)
    | other =>
        .error (.ofValue "string" other)

/-- The text of an item to join: nothing for null. -/
def joinText
    (item : Value) :
    String :=
  if item.isNull then "" else item.display

/-- A list and an optional separator; what is no list is its own text. -/
def join : ComputedFunction :=
  fun arguments =>
    let separator := textArgument arguments 1 ", "
    match arguments with
    | [] =>
        .ok (.string "undefined")
    | .list items :: _ =>
        .ok (.string (Text.joined separator (items.map joinText)))
    | other :: _ =>
        .ok (.string other.display)

end Computed

namespace Registry

/-- The functions that need no registration. -/
def defaults : Registry :=
  [("formatCurrency", Computed.formatCurrency),
    ("formatDate", Computed.formatDate),
    ("formatNumber", Computed.formatNumber),
    ("formatPercent", Computed.formatPercent),
    ("truncate", Computed.truncate),
    ("join", Computed.join)]

end Registry

end Mockup
