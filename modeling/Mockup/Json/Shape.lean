import Mockup.Json.Reader

namespace Mockup

namespace Json

/-!
# Which parts of a text are read

A shape tells which parts of a document its typed reader looks at.  Members
of a record that the record does not know are read by nobody, and neither is
anything inside them.
-/

/-- The parts of a document that are read. -/
inductive Shape where
  /-- Every part is read. -/
  | whole
  /-- All parts of a container have the same shape. -/
  | each (part : Shape)
  /-- A record with these fields, in their order of declaration. -/
  | record (fields : List (String × Shape))

namespace Shape

/-- A record whose fields are read as wholes unless they are listed. -/
def ofNames
    (names : List String)
    (listed : List (String × Shape)) :
    Shape :=
  .record (names.map fun name =>
    (name, (listed.lookup name).getD .whole))

/-- The shape of the next part of an open container, none if ignored. -/
def part?
    (shape : Shape)
    (frame : Frame) :
    Option Shape :=
  match shape, frame with
  | .whole, _ =>
      some .whole
  | .each part, _ =>
      some part
  | .record fields, .array reversed =>
      fields[reversed.length]?.map Prod.snd
  | .record fields, .object _ key =>
      fields.lookup key

/-- The shape of the next part inside open containers, innermost first. -/
def inside?
    (shape : Shape) :
    List Frame → Option Shape
  | [] =>
      some shape
  | frame :: outer =>
      (shape.inside? outer).bind fun part => part.part? frame

/-- The demands on the text of a document with a shape. -/
def demands
    (shape : Shape) :
    Demands :=
  ⟨Demands.nestingLimit, fun stack => (shape.inside? stack).isNone⟩

end Shape

/-- Read a text of which the parts in a shape count. -/
def readShaped
    (shape : Shape)
    (text : String) :
    Except ReadError Json :=
  readWith shape.demands text

end Json

end Mockup
