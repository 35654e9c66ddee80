import Mockup.Value.Basic
import Mockup.Text.Ordinal
import Mockup.Text.Pieces

namespace Mockup

namespace Path

/-!
# State paths

A place in a document is a list of segments: keys of maps and positions of
lists.  It is written as a *slash path*, `/user/tags/0`, whose leading slash
may be missing; a *state path* may also be written with dots, `user.tags.0`,
when it holds no slash.  The canonical text of a place has a slash in front of
every segment.
-/

/-- The segments of a slash path; the empty path and `/` have none. -/
def segments
    (path : String) :
    List String :=
  let body := Text.dropLeading '/' path.toList
  if body.isEmpty then
    []
  else
    (Text.splitAt '/' body).map String.ofList

/-- The segments of a state path, written with slashes or with dots. -/
def stateSegments
    (path : String) :
    List String :=
  if path.toList.contains '/' then
    segments path
  else if path.toList.isEmpty then
    []
  else
    Text.pieces '.' path

/-- The canonical text of a list of segments. -/
def canonical : List String → String
  | [] =>
      ""
  | segment :: rest =>
      "/" ++ segment ++ canonical rest

/-- The canonical text of a state path. -/
def normalize
    (path : String) :
    String :=
  canonical (stateSegments path)

/-- The part of a container that a segment names. -/
def child?
    (value : Value)
    (segment : String) :
    Option Value :=
  match value with
  | .map fields =>
      Entries.get? fields segment
  | .list items =>
      match Text.ordinal? segment with
      | some index =>
          items[index]?
      | none =>
          none
  | _ =>
      none

/-- The value at a list of segments, none when some part is missing. -/
def resolve?
    (root : Value) :
    List String → Option Value
  | [] =>
      some root
  | segment :: rest =>
      match child? root segment with
      | some part =>
          resolve? part rest
      | none =>
          none

/-- The value at a slash path. -/
def resolveSlash?
    (root : Value)
    (path : String) :
    Option Value :=
  resolve? root (segments path)

end Path

end Mockup
