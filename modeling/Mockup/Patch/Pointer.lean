import Mockup.Path.Basic

namespace Mockup

namespace Pointer

/-!
# Pointers

A pointer is the text of a place in a document as patches name it: every token
is written behind a slash, with `~1` for a slash and `~0` for a tilde inside a
token.  The empty pointer is the root.  A missing first slash is tolerated.
-/

/-- A token as it stands in a pointer. -/
def escape
    (token : List Char) :
    List Char :=
  token.flatMap fun char =>
    if char = '~' then ['~', '0']
    else if char = '/' then ['~', '1']
    else [char]

/-- The token that stands in a pointer. -/
def unescape : List Char → List Char
  | '~' :: '1' :: rest =>
      '/' :: unescape rest
  | '~' :: '0' :: rest =>
      '~' :: unescape rest
  | char :: rest =>
      char :: unescape rest
  | [] =>
      []

/-- The pointer to a part of what another pointer names. -/
def child
    (parent token : String) :
    String :=
  parent ++ "/" ++ String.ofList (escape token.toList)

/-- The pointer to an item of the list that another pointer names. -/
def item
    (parent : String)
    (index : Nat) :
    String :=
  parent ++ "/" ++ toString index

/-- The tokens of a pointer. -/
def tokens
    (pointer : String) :
    List String :=
  if pointer = "" then
    []
  else
    (Text.splitAt '/' (Text.dropLeading '/' pointer.toList)).map
      fun piece => String.ofList (unescape piece)

/-- The value a pointer names. -/
def get?
    (document : Value)
    (pointer : String) :
    Option Value :=
  Path.resolve? document (tokens pointer)

end Pointer

end Mockup
