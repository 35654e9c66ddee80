import Mockup.Term.Dialect

namespace Mockup

namespace Term

/-!
# Skipping terms

A term is a number, a text, a word, a list, a table of keys and values, or a
group in parentheses that may carry a name.  A group is a tuple of terms or a
record of fields.  Skipping a term checks it and gives what follows it.

Brackets, and the parts inside them, may enclose each other to a limit, which
`depth` counts down.  The fuel bounds the calls and is not felt: it is taken
from the length of the text.
-/

/-- The parts of a bracket: terms, or keys with values behind a colon. -/
inductive Parts where
  | single
  | pairs
  deriving Repr, DecidableEq

/-- The words that are terms of their own and carry no group. -/
def constants : List String :=
  ["true", "false", "None", "inf", "inff32", "inff64", "NaN", "NaNf32",
    "NaNf64"]

/-- Which parts a group has, after its opening parenthesis. -/
def groupParts?
    (chars : List Char) :
    Option Parts := do
  let inner ← afterLayout chars
  match word? inner with
  | some (_, rest) =>
      match ← afterLayout rest with
      | ':' :: _ =>
          some .pairs
      | _ =>
          some .single
  | none =>
      some .single

/-- The text after one quoted text of any kind, or the same text. -/
def dropQuoted
    (chars : List Char) :
    List Char :=
  let afterOne := (afterCharacter? chars).getD chars
  let afterTwo := (afterText? afterOne).getD afterOne
  (afterBytes? afterTwo).getD afterTwo

/--
Whether a comma separates two parts before the enclosing bracket closes, by
fuel; a comma right before the closing bracket separates nothing.
-/
def hasSecondPart? :
    Nat → Nat → List Char → Option Bool
  | 0, _, _ =>
      none
  | _, 0, _ =>
      some false
  | fuel + 1, outer + 1, chars => do
      let chars ← afterLayout chars
      match dropQuoted chars with
      | [] =>
          none
      | char :: rest =>
          if char = '(' || char = '[' || char = '\x7b' then
            hasSecondPart? fuel (outer + 2) rest
          else if char = ')' || char = ']' || char = '\x7d' then
            hasSecondPart? fuel outer rest
          else if char = ',' && outer = 0 then
            let rest ← afterLayout rest
            some (rest.head? ≠ some ')')
          else
            hasSecondPart? fuel (outer + 1) rest

/-- What stands in an optional term in which groups may be bare. -/
inductive Content where
  | term
  | bare (parts : Parts)
  deriving Repr, DecidableEq

/-- Tell a term from the bare parts of a group. -/
def content?
    (chars : List Char) :
    Option Content := do
  let chars ← afterLayout chars
  let further (chars : List Char) : Option Content :=
    (hasSecondPart? (chars.length + 1) 1 chars).map fun second =>
      if second then .bare .single else .term
  match word? chars with
  | some (_, rest) =>
      match ← afterLayout rest with
      | ':' :: _ =>
          some (.bare .pairs)
      | ',' :: rest =>
          let rest ← afterLayout rest
          some (if rest.head? = some ')' then .term else .bare .single)
      | ')' :: _ =>
          some .term
      | rest =>
          further rest
  | none =>
      further chars

mutual

/-- What follows a term. -/
def afterTerm?
    (dialect : Dialect) :
    Nat → Nat → List Char → Option (List Char)
  | 0, _, _ =>
      none
  | fuel + 1, depth, chars =>
      match afterAnyKeyword? constants chars with
      | some rest =>
          some rest
      | none =>
          match afterKeyword? "Some" chars with
          | some rest =>
              afterOptional? dialect fuel depth rest
          | none =>
              match word? chars with
              | some (_, rest) => do
                  let rest ← afterLayout rest
                  afterGroup? dialect fuel depth rest
              | none =>
                  afterUnnamed? dialect fuel depth chars

/-- What follows a term that does not begin with a word. -/
def afterUnnamed?
    (dialect : Dialect) :
    Nat → Nat → List Char → Option (List Char)
  | 0, _, _ =>
      none
  | fuel + 1, depth, chars =>
      match chars with
      | '(' :: ')' :: rest =>
          some rest
      | '(' :: _ =>
          afterGroup? dialect fuel depth chars
      | '[' :: rest =>
          afterBracket? dialect fuel depth .single ']' rest
      | '\x7b' :: rest =>
          afterBracket? dialect fuel depth .pairs '\x7d' rest
      | '"' :: _ =>
          afterText? chars
      | 'r' :: _ =>
          afterText? chars
      | 'b' :: '\'' :: _ =>
          (afterByte? chars).bind afterRange?
      | 'b' :: _ =>
          afterBytes? chars
      | '\'' :: _ =>
          afterCharacter? chars
      | _ =>
          afterNumberOrRange? chars

/-- What follows the group behind a name, which may have none. -/
def afterGroup?
    (dialect : Dialect) :
    Nat → Nat → List Char → Option (List Char)
  | fuel + 1, depth, '(' :: rest => do
      let parts ← groupParts? rest
      afterBracket? dialect fuel depth parts ')' rest
  | _, _, chars =>
      some chars

/-- What follows an optional term whose word has been read. -/
def afterOptional?
    (dialect : Dialect) :
    Nat → Nat → List Char → Option (List Char)
  | fuel + 1, depth + 1, chars => do
      match ← afterLayout chars with
      | '(' :: rest =>
          let rest ← afterLayout rest
          let content ←
            if dialect.bareGroups then content? rest else some .term
          let rest ←
            match content with
            | .term =>
                afterTerm? dialect fuel depth rest
            | .bare parts =>
                afterBody? dialect fuel depth parts ')' rest
          let rest ← afterLayout rest
          let rest ←
            match rest with
            | ',' :: rest =>
                afterLayout rest
            | _ =>
                some rest
          Text.stripPattern? [')'] rest
      | rest =>
          if dialect.implicitSome then
            afterTerm? dialect fuel depth rest
          else
            none
  | _, _, _ =>
      none

/-- What follows a bracket that has been opened. -/
def afterBracket?
    (dialect : Dialect) :
    Nat → Nat → Parts → Char → List Char → Option (List Char)
  | 0, _, _, _, _ =>
      none
  | fuel + 1, depth, parts, closing, chars =>
      (afterBody? dialect fuel depth parts closing chars).bind
        (Text.stripPattern? [closing])

/-- What follows the parts of a bracket, from its closing character on. -/
def afterBody?
    (dialect : Dialect) :
    Nat → Nat → Parts → Char → List Char → Option (List Char)
  | fuel + 1, depth + 1, parts, closing, chars =>
      afterParts? dialect fuel depth parts closing chars
  | _, _, _, _, _ =>
      none

/-- What follows the remaining parts of a bracket. -/
def afterParts?
    (dialect : Dialect) :
    Nat → Nat → Parts → Char → List Char → Option (List Char)
  | 0, _, _, _, _ =>
      none
  | fuel + 1, depth, parts, closing, chars => do
      let chars ← afterLayout chars
      if chars.head? = some closing then
        some chars
      else
        let rest ← afterPart? dialect fuel depth parts chars
        match ← afterLayout rest with
        | ',' :: rest =>
            afterParts? dialect fuel depth parts closing rest
        | rest =>
            if rest.head? = some closing then some rest else none

/-- What follows one part of a bracket. -/
def afterPart?
    (dialect : Dialect) :
    Nat → Nat → Parts → List Char → Option (List Char)
  | fuel + 1, depth + 1, .single, chars =>
      afterTerm? dialect fuel depth chars
  | fuel + 1, depth + 1, .pairs, chars => do
      let rest ← afterTerm? dialect fuel depth chars
      let rest ← afterLayout rest
      let rest ← afterPieces? [":"] rest
      afterTerm? dialect fuel depth rest
  | _, _, _, _ =>
      none

end

/-- What follows a term in which brackets may nest to a depth. -/
def skip?
    (dialect : Dialect)
    (depth : Nat)
    (chars : List Char) :
    Option (List Char) :=
  afterTerm? dialect (8 * chars.length + 8) depth chars

end Term

end Mockup
