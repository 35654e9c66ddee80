import Mockup.Json.Record

namespace Mockup

/-!
# Patches

A patch is one structural edit of a document.  Its path, and the source of a
move or a copy, are pointers.
-/

/-- The kinds of edit. -/
inductive PatchOp where
  | add
  | remove
  | replace
  | move
  | copy
  | test
  deriving Repr, DecidableEq

namespace PatchOp

/-- The name of a kind of edit. -/
def name : PatchOp → String
  | .add =>
      "add"
  | .remove =>
      "remove"
  | .replace =>
      "replace"
  | .move =>
      "move"
  | .copy =>
      "copy"
  | .test =>
      "test"

/-- All kinds of edit. -/
def all : List PatchOp :=
  [.add, .remove, .replace, .move, .copy, .test]

/-- The kind of edit with a name. -/
def ofName?
    (name : String) :
    Option PatchOp :=
  all.find? fun op => op.name = name

/--
Read a kind of edit: its name, or an object whose only member is null and has
the name for its key.
-/
def ofJson? : Json → Option PatchOp
  | .string name =>
      ofName? name
  | .object [(name, .null)] =>
      ofName? name
  | _ =>
      none

end PatchOp

/-- One structural edit. -/
structure Patch where
  op : PatchOp
  path : String
  value : Option Value := none
  source : Option String := none
  deriving Repr

namespace Patch

/-- The value of a patch; a missing one is null. -/
def operand
    (patch : Patch) :
    Value :=
  patch.value.getD .null

/-- The fields of a written patch, in order. -/
def fieldNames : List String :=
  ["op", "path", "value", "from"]

/-- Read a patch; a null value counts as missing. -/
def ofJson?
    (json : Json) :
    Option Patch := do
  let fields ← json.record? fieldNames
  let op ← Json.required? fields "op" PatchOp.ofJson?
  let path ← Json.required? fields "path" Json.asString?
  let value ← Json.optional? fields "value" Json.asValue?
  let source ← Json.optional? fields "from" Json.asString?
  some ⟨op, path, value, source⟩

/-- Write a patch. -/
def toJson
    (patch : Patch) :
    Json :=
  .object
    ([("op", .string patch.op.name), ("path", .string patch.path)] ++
      Json.optionalMember "value" Json.ofValue patch.value ++
      Json.optionalMember "from" Json.string patch.source)

end Patch

end Mockup
