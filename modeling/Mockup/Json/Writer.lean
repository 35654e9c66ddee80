import Mockup.Json.Basic
import Mockup.Number.Notation

namespace Mockup

namespace Json

/-!
# Writing JSON

Trees are written without insignificant space.  Doubles are written in
document notation, so that reading them back gives doubles again.
-/

/-- The lower half of a byte as a hexadecimal digit. -/
def hexChar
    (digit : Nat) :
    Char :=
  (Nat.toDigits 16 (digit % 16)).headD '0'

/-- A character inside a string. -/
def quotedChar
    (char : Char) :
    List Char :=
  if char = '"' then
    "\\\"".toList
  else if char = '\\' then
    "\\\\".toList
  else if char.toNat < 0x20 then
    "\\u00".toList ++
      [hexChar (char.toNat / 16), hexChar char.toNat]
  else
    [char]

/-- A string with its quotes. -/
def quoted
    (text : String) :
    String :=
  "\"" ++ String.ofList (text.toList.flatMap quotedChar) ++ "\""

mutual

/-- The text of a tree. -/
def text : Json → String
  | .null =>
      "null"
  | .bool value =>
      if value then "true" else "false"
  | .integer value =>
      toString value
  | .number value =>
      match value.documentText? with
      | some chars =>
          String.ofList chars
      | none =>
          "null"
  | .string value =>
      quoted value
  | .array items =>
      "[" ++ textItems items ++ "]"
  | .object fields =>
      "\x7b" ++ textFields fields ++ "\x7d"

/-- The texts of the items of an array with commas between them. -/
def textItems : List Json → String
  | [] =>
      ""
  | [item] =>
      text item
  | item :: items =>
      text item ++ "," ++ textItems items

/-- The texts of the members of an object with commas between them. -/
def textFields : List (String × Json) → String
  | [] =>
      ""
  | [(key, value)] =>
      quoted key ++ ":" ++ text value
  | (key, value) :: fields =>
      quoted key ++ ":" ++ text value ++ "," ++ textFields fields

end

end Json

end Mockup
