import Mockup.Term.Layout
import Mockup.Term.Quoted

namespace Mockup

namespace Term

/-!
# Dialects

Attributes in front of a term, `#![...]`, switch on variants of the notation
or tell what the term is meant to be.  Only the variants matter to a reader.
-/

/-- Which variants of the notation are switched on. -/
structure Dialect where
  /-- A record must carry its name. -/
  explicitNames : Bool := false
  /-- The parentheses of an optional term may be missing. -/
  implicitSome : Bool := false
  /-- The parts of a group may stand directly in an optional term. -/
  bareGroups : Bool := false
  deriving Repr, DecidableEq

namespace Dialect

/-- The dialect with one more variant, none if there is no such variant. -/
def enable?
    (dialect : Dialect) :
    String → Option Dialect
  | "explicit_struct_names" =>
      some { dialect with explicitNames := true }
  | "implicit_some" =>
      some { dialect with implicitSome := true }
  | "unwrap_variant_newtypes" =>
      some { dialect with bareGroups := true }
  | "unwrap_newtypes" =>
      some dialect
  | _ =>
      none

end Dialect

/-- What follows pieces of text that may have layout behind each of them. -/
def afterPieces? :
    List String → List Char → Option (List Char)
  | [], chars =>
      some chars
  | piece :: pieces, chars => do
      let rest ← Text.stripPattern? piece.toList chars
      let rest ← afterLayout rest
      afterPieces? pieces rest

/-- The variants of a list that a comma may end, and what follows it. -/
def variants? :
    Nat → Dialect → List Char → Option (Dialect × List Char)
  | 0, _, _ =>
      none
  | fuel + 1, dialect, chars => do
      let (name, rest) ← name? chars
      let dialect ← dialect.enable? name
      let rest ← afterLayout rest
      match rest with
      | ',' :: rest =>
          let rest ← afterLayout rest
          if rest.head?.any Text.continuesWord then
            variants? fuel dialect rest
          else
            some (dialect, rest)
      | _ =>
          some (dialect, rest)

/-- What follows a remark of a given kind, which says nothing to a reader. -/
def afterRemark?
    (kind : String)
    (chars : List Char) :
    Option (List Char) := do
  let rest ← afterPieces? [kind, "="] chars
  let rest ← afterText? rest
  let rest ← afterLayout rest
  afterPieces? ["]"] rest

/-- The dialect after an attribute whose bracket has been opened. -/
def attribute?
    (dialect : Dialect)
    (chars : List Char) :
    Option (Dialect × List Char) :=
  match afterPieces? ["enable", "("] chars with
  | some rest => do
      let (dialect, rest) ← variants? rest.length dialect rest
      let rest ← afterPieces? [")", "]"] rest
      some (dialect, rest)
  | none =>
      (["type", "schema"].findSome? fun kind => afterRemark? kind chars).map
        fun rest => (dialect, rest)

/-- The dialect after all attributes, and what follows them, by fuel. -/
def attributes? :
    Nat → Dialect → List Char → Option (Dialect × List Char)
  | fuel + 1, dialect, '#' :: rest => do
      let rest ← afterLayout rest
      let rest ← afterPieces? ["!", "["] rest
      let (dialect, rest) ← attribute? dialect rest
      attributes? fuel dialect rest
  | _, dialect, rest =>
      some (dialect, rest)

/-- The dialect that a text announces, and the text after its attributes. -/
def dialect?
    (text : String) :
    Option (Dialect × List Char) := do
  let chars ← afterLayout text.toList
  attributes? chars.length {} chars

end Term

end Mockup
