import Mockup.Value.Basic
import Mockup.Number.Notation

namespace Mockup

namespace Value

/-!
# The text of a value

Templates and formatting functions show values as text: strings bare, numbers
in plain notation, lists joined by commas with nulls left blank, and every map
as the same words.
-/

mutual

/-- The text of a value. -/
def display : Value → String
  | .null =>
      "null"
  | .bool value =>
      if value then "true" else "false"
  | .int value =>
      toString value.toInt
  | .float value =>
      String.ofList value.plain
  | .string value =>
      value
  | .list items =>
      displayItems items
  | .map _ =>
      "[object Object]"

/-- The texts of items with commas between them, nothing for a null item. -/
def displayItems : List Value → String
  | [] =>
      ""
  | [item] =>
      if item.isNull then "" else display item
  | item :: items =>
      (if item.isNull then "" else display item) ++
        "," ++ displayItems items

end

end Value

end Mockup
