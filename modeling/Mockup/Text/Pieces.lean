namespace Mockup.Text

/-!
# Cutting and joining texts

Texts are cut at every occurrence of one character, joined again with a
separator, and searched for the leftmost occurrence of a pattern.  All
functions recurse on the characters.
-/

/-- Put a character in front of the first piece. -/
def consFirst
    (char : Char) :
    List (List Char) → List (List Char)
  | [] =>
      [[char]]
  | piece :: pieces =>
      (char :: piece) :: pieces

/--
The pieces between the occurrences of `separator`: one more than there are
occurrences, empty pieces included.
-/
def splitAt
    (separator : Char) :
    List Char → List (List Char)
  | [] =>
      [[]]
  | char :: rest =>
      if char = separator then
        [] :: splitAt separator rest
      else
        consFirst char (splitAt separator rest)

/-- The pieces of a string, as strings. -/
def pieces
    (separator : Char)
    (text : String) :
    List String :=
  (splitAt separator text.toList).map String.ofList

/-- A text without one leading occurrence of `char`. -/
def dropLeading
    (char : Char) :
    List Char → List Char
  | [] =>
      []
  | head :: rest =>
      if head = char then rest else head :: rest

/-- What follows `pattern` at the start of a text, none when it is absent. -/
def stripPattern? :
    List Char → List Char → Option (List Char)
  | [], text =>
      some text
  | _ :: _, [] =>
      none
  | wanted :: pattern, char :: text =>
      if wanted = char then stripPattern? pattern text else none

/-- A text with the leftmost occurrence of `pattern` replaced. -/
def replaceFirst
    (pattern replacement : List Char) :
    List Char → List Char
  | [] =>
      match stripPattern? pattern [] with
      | some rest =>
          replacement ++ rest
      | none =>
          []
  | char :: text =>
      match stripPattern? pattern (char :: text) with
      | some rest =>
          replacement ++ rest
      | none =>
          char :: replaceFirst pattern replacement text

/-- Items one after another with a separator between each two. -/
def joined
    (separator : String) :
    List String → String
  | [] =>
      ""
  | [item] =>
      item
  | item :: items =>
      item ++ separator ++ joined separator items

end Mockup.Text
