import Mockup.Text.Pieces
import Mockup.Text.Word

namespace Mockup

namespace Term

/-!
# Words in terms

A word names a field, a group or a constant.  A word that is marked as raw by
`r#` in front of it may also hold points and signs.  Letters that open a
quoted text are no words.
-/

/-- Whether a raw word may hold a character. -/
def continuesRawWord
    (char : Char) :
    Bool :=
  Text.continuesWord char || char = '.' || char = '+' || char = '-'

/-- How the quoted texts begin that begin with a letter. -/
def letteredQuotes : List String :=
  ["b\"", "b'", "br#", "br\"", "r\"", "r#\"", "r##"]

/-- Whether a text begins like a quoted one with a letter in front. -/
def startsQuote
    (chars : List Char) :
    Bool :=
  letteredQuotes.any fun quote =>
    (Text.stripPattern? quote.toList chars).isSome

/-- A word at the start of a text, and what follows it. -/
def word?
    (chars : List Char) :
    Option (String × List Char) :=
  if startsQuote chars then
    none
  else
    match chars with
    | 'r' :: '#' :: rest =>
        let name := rest.takeWhile continuesRawWord
        if name.isEmpty then
          none
        else
          some (String.ofList name, rest.dropWhile continuesRawWord)
    | char :: rest =>
        if Text.startsWord char then
          some (String.ofList (char :: rest.takeWhile Text.continuesWord),
            rest.dropWhile Text.continuesWord)
        else
          none
    | [] =>
        none

/-- A name at the start of a text: a word that needs no mark to go on. -/
def name?
    (chars : List Char) :
    Option (String × List Char) := do
  let (name, rest) ← word? chars
  if rest.head?.any continuesRawWord then
    none
  else
    some (name, rest)

/-- What follows a given word at the start of a text. -/
def afterKeyword?
    (keyword : String)
    (chars : List Char) :
    Option (List Char) := do
  let rest ← Text.stripPattern? keyword.toList chars
  if rest.head?.any Text.continuesWord then
    none
  else
    some rest

/-- What follows one of some given words at the start of a text. -/
def afterAnyKeyword?
    (keywords : List String)
    (chars : List Char) :
    Option (List Char) :=
  keywords.findSome? fun keyword => afterKeyword? keyword chars

end Term

end Mockup
