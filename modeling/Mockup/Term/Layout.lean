namespace Mockup

namespace Term

/-!
# Layout between the parts of a term

Blanks and comments may stand between any two parts.  A comment runs from
`//` to the end of its line, or from `/*` to the matching `*/`; comments of
the second form nest and must be closed.
-/

/-- The code points that separate the parts of a term. -/
def layoutPoints : List Nat :=
  [0x09, 0x0A, 0x0B, 0x0C, 0x0D, 0x20, 0x85, 0x200E, 0x200F, 0x2028,
    0x2029]

/-- Whether a character separates the parts of a term. -/
def isLayout
    (char : Char) :
    Bool :=
  layoutPoints.contains char.toNat

/-- Where a reader of layout stands. -/
inductive LayoutPlace where
  | between
  | line
  | block (outer : Nat)
  deriving Repr, DecidableEq

/-- The text after its layout; none when a comment is malformed. -/
def skipLayout :
    LayoutPlace → List Char → Option (List Char)
  | .between, '/' :: '/' :: rest =>
      skipLayout .line rest
  | .between, '/' :: '*' :: rest =>
      skipLayout (.block 0) rest
  | .between, char :: rest =>
      if isLayout char then
        skipLayout .between rest
      else if char = '/' then
        none
      else
        some (char :: rest)
  | .line, char :: rest =>
      if char = '\n' then
        skipLayout .between rest
      else
        skipLayout .line rest
  | .block outer, '/' :: '*' :: rest =>
      skipLayout (.block (outer + 1)) rest
  | .block 0, '*' :: '/' :: rest =>
      skipLayout .between rest
  | .block (outer + 1), '*' :: '/' :: rest =>
      skipLayout (.block outer) rest
  | .block outer, _ :: rest =>
      skipLayout (.block outer) rest
  | .block _, [] =>
      none
  | _, [] =>
      some []

/-- The text after the layout in front of it. -/
def afterLayout
    (chars : List Char) :
    Option (List Char) :=
  skipLayout .between chars

end Term

end Mockup
