namespace Mockup.Text

/-!
# Blanks

The characters with the Unicode property `White_Space`, and texts without
blanks at their ends.
-/

/-- First and last code point of each run of blanks. -/
def blankRuns : List (Nat × Nat) :=
  [(0x09, 0x0D), (0x20, 0x20), (0x85, 0x85), (0xA0, 0xA0),
    (0x1680, 0x1680), (0x2000, 0x200A), (0x2028, 0x2029),
    (0x202F, 0x202F), (0x205F, 0x205F), (0x3000, 0x3000)]

/-- Whether a character is blank. -/
def isBlank
    (char : Char) :
    Bool :=
  blankRuns.any fun run =>
    run.1 ≤ char.toNat && char.toNat ≤ run.2

/-- A text without the blanks in front of it. -/
def trimStart
    (chars : List Char) :
    List Char :=
  chars.dropWhile isBlank

/-- A text without the blanks at both ends. -/
def trim
    (chars : List Char) :
    List Char :=
  (trimStart (trimStart chars).reverse).reverse

end Mockup.Text
