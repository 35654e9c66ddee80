import Mockup.Settings.Basic
import Mockup.Term.Skip

namespace Mockup

namespace Settings

/-!
# Reading settings

Settings are a record of counts, which may carry its name.  Any field may be
missing and unknown fields are skipped, but no known field may be repeated.
-/

/-- The name that a record of settings may carry. -/
def recordName : String :=
  "RuntimeConfig"

/-- The known fields, with the width of each count. -/
def fieldWidths : List (String × String) :=
  [("max_stack_size", "u64"), ("toast_duration_ms", "u64"),
    ("delay_duration_ms", "u64"), ("max_cascade_depth", "u32")]

/-- How deep brackets may nest in the term of an unknown field. -/
def fieldDepth : Nat :=
  126

/-- What follows the name of the record, which may be missing. -/
def afterRecordName?
    (dialect : Term.Dialect)
    (chars : List Char) :
    Option (List Char) :=
  if chars.head?.any Text.continuesWord then do
    let (name, rest) ← Term.name? chars
    if name = recordName then some rest else none
  else if dialect.explicitNames then
    none
  else
    some chars

/-- The known fields with one more count, none if it is there already. -/
def addCount?
    (counts : List (String × Nat))
    (name : String)
    (count : Nat) :
    Option (List (String × Nat)) :=
  if (counts.lookup name).isSome then
    none
  else
    some ((name, count) :: counts)

/-- The known fields after one more field, and what follows it. -/
def field?
    (dialect : Term.Dialect)
    (counts : List (String × Nat))
    (chars : List Char) :
    Option (List (String × Nat) × List Char) := do
  let (name, rest) ← Term.name? chars
  let rest ← Term.afterLayout rest
  let rest ← Term.afterPieces? [":"] rest
  match fieldWidths.lookup name with
  | some width =>
      let (numeral, rest) ← Term.numeral? rest
      let count ← numeral.count? width
      let counts ← addCount? counts name count
      some (counts, rest)
  | none =>
      let rest ← Term.skip? dialect fieldDepth rest
      some (counts, rest)

/-- The known fields up to the closing parenthesis, by fuel. -/
def fields?
    (dialect : Term.Dialect) :
    Nat → List (String × Nat) → List Char →
      Option (List (String × Nat) × List Char)
  | 0, _, _ =>
      none
  | fuel + 1, counts, chars => do
      match ← Term.afterLayout chars with
      | ')' :: rest =>
          some (counts, rest)
      | chars =>
          let (counts, rest) ← field? dialect counts chars
          match ← Term.afterLayout rest with
          | ',' :: rest =>
              fields? dialect fuel counts rest
          | ')' :: rest =>
              some (counts, rest)
          | _ =>
              none

/-- The settings with the counts of the known fields. -/
def ofCounts
    (counts : List (String × Nat)) :
    Settings :=
  let default : Settings := {}
  let count (name : String) (missing : Nat) : Nat :=
    (counts.lookup name).getD missing
  { stackCapacity := count "max_stack_size" default.stackCapacity,
    toastDuration := count "toast_duration_ms" default.toastDuration,
    delayDuration := count "delay_duration_ms" default.delayDuration,
    cascadeLimit := count "max_cascade_depth" default.cascadeLimit }

/-- Read settings from their text. -/
def ofText?
    (text : String) :
    Option Settings := do
  let (dialect, chars) ← Term.dialect? text
  let rest ← afterRecordName? dialect chars
  let rest ← Term.afterLayout rest
  let inner ← Text.stripPattern? ['('] rest
  let (counts, rest) ← fields? dialect (inner.length + 1) [] inner
  match ← Term.afterLayout rest with
  | [] =>
      some (ofCounts counts).clamped
  | _ =>
      none

end Settings

end Mockup
