namespace Mockup

/-!
# Templates

A template is a text with tokens `${path}`.  A token holds at least one
character and ends at the first closing brace; text that only begins like a
token stays as it is.  Tokens are found from the left and do not overlap, so
one pass over the characters finds them all: once an opened token meets the
end of the text there is no closing brace left for a later one either.
-/

/-- A part of a template: text to keep, or a token to replace. -/
inductive TemplatePiece where
  | literal (text : List Char)
  | token (path : List Char)
  deriving Repr, DecidableEq

namespace TemplatePiece

/-- The two characters that open a token. -/
def opening : List Char :=
  ['$', '\x7b']

/-- The character that closes a token. -/
def closing : Char :=
  '\x7d'

/--
The pieces of a text, `opened` being what an open token holds so far, the last
character first.
-/
def scan
    (opened : Option (List Char)) :
    List Char → List TemplatePiece
  | [] =>
      match opened with
      | none =>
          []
      | some reversed =>
          [.literal (opening ++ reversed.reverse)]
  | [char] =>
      match opened with
      | none =>
          [.literal [char]]
      | some reversed =>
          if char = closing then
            if reversed.isEmpty then
              [.literal (opening ++ [closing])]
            else
              [.token reversed.reverse]
          else
            [.literal (opening ++ reversed.reverse ++ [char])]
  | char :: next :: rest =>
      match opened with
      | none =>
          if [char, next] = opening then
            scan (some []) rest
          else
            .literal [char] :: scan none (next :: rest)
      | some reversed =>
          if char = closing then
            if reversed.isEmpty then
              .literal (opening ++ [closing]) :: scan none (next :: rest)
            else
              .token reversed.reverse :: scan none (next :: rest)
          else
            scan (some (char :: reversed)) (next :: rest)

/-- The pieces of a template. -/
def ofText
    (text : String) :
    List TemplatePiece :=
  scan none text.toList

end TemplatePiece

end Mockup
