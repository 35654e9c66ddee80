import Mockup.Patch.Basic
import Mockup.Patch.Pointer
import Mockup.Path.Assign
import Mockup.Value.Equality

namespace Mockup

/-!
# Applying patches

A patch edits a document in place: the document is handed back whether or not
the edit succeeds.  A list of patches is applied to a copy, and the first
failure gives up the whole list.
-/

/-- Why a patch cannot be applied. -/
inductive PatchError where
  | invalidPath (path : String)
  | pathNotFound (path : String)
  | testFailed (path : String)
  | missingSource (op : PatchOp) (path : String)
  | rootRemoval
  deriving Repr, DecidableEq

/-- The wording of a failed patch. -/
def PatchError.message : PatchError → String
  | .invalidPath path =>
      "Invalid patch path: " ++ path
  | .pathNotFound path =>
      "Path not found: " ++ path
  | .testFailed path =>
      "Test failed at " ++ path
  | .missingSource op path =>
      "Patch " ++ op.name ++ " at " ++ path ++
        " requires a 'from' path"
  | .rootRemoval =>
      "Cannot remove the document root"

/-- A document after an edit, and what the edit came to. -/
structure Edited (α : Type) where
  document : Value
  outcome : Except PatchError α

namespace Edited

/-- An edit that leaves the document as it is. -/
def refused
    (document : Value)
    (error : PatchError) :
    Edited α :=
  ⟨document, .error error⟩

/-- An edit that succeeds with a new document. -/
def done
    (document : Value) :
    Edited Unit :=
  ⟨document, .ok ()⟩

end Edited

namespace Patch

/-- Edit the part of a document at some tokens, none when it is missing. -/
def editAt?
    (document : Value)
    (tokens : List String)
    (edit : Value → Edited α) :
    Option (Edited α) :=
  match tokens with
  | [] =>
      some (edit document)
  | token :: rest =>
      match document with
      | .map fields =>
          match Entries.get? fields token with
          | some part =>
              (editAt? part rest edit).map fun below =>
                ⟨.map (Entries.insert fields token below.document),
                  below.outcome⟩
          | none =>
              none
      | .list items =>
          match Path.item? items token with
          | some (index, part) =>
              (editAt? part rest edit).map fun below =>
                ⟨.list (items.set index below.document),
                  below.outcome⟩
          | none =>
              none
      | _ =>
          none

/--
Edit the container that holds what a path names; the edit is told the last
token.  The root is in no container.
-/
def editHolder
    (document : Value)
    (path : String)
    (whenRoot : Edited α)
    (edit : String → Value → Edited α) :
    Edited α :=
  let tokens := Pointer.tokens path
  match tokens.getLast? with
  | none =>
      whenRoot
  | some last =>
      match editAt? document tokens.dropLast (edit last) with
      | some edited =>
          edited
      | none =>
          .refused document (.pathNotFound path)

/-- Add a part to a container; a list makes room for it. -/
def addPart
    (path : String)
    (value : Value)
    (last : String)
    (container : Value) :
    Edited Unit :=
  match container with
  | .map fields =>
      .done (.map (Entries.insert fields last value))
  | .list items =>
      if last = "-" then
        .done (.list (items ++ [value]))
      else
        match Text.ordinal? last with
        | none =>
            .refused container (.invalidPath path)
        | some index =>
            if index ≤ items.length then
              .done (.list (items.insertIdx index value))
            else
              .refused container (.pathNotFound path)
  | _ =>
      .refused container (.invalidPath path)

/-- Take a part out of a container; a list closes the gap. -/
def removePart
    (path : String)
    (last : String)
    (container : Value) :
    Edited Value :=
  match container with
  | .map fields =>
      match Entries.get? fields last with
      | some value =>
          ⟨.map (Entries.erase fields last), .ok value⟩
      | none =>
          .refused container (.pathNotFound path)
  | .list items =>
      match Text.ordinal? last with
      | none =>
          .refused container (.invalidPath path)
      | some index =>
          match items[index]? with
          | some value =>
              ⟨.list (items.eraseIdx index), .ok value⟩
          | none =>
              .refused container (.pathNotFound path)
  | _ =>
      .refused container (.invalidPath path)

/-- Write a part of a container; a list must already hold it. -/
def replacePart
    (path : String)
    (value : Value)
    (last : String)
    (container : Value) :
    Edited Unit :=
  match container with
  | .map fields =>
      .done (.map (Entries.insert fields last value))
  | .list items =>
      match Text.ordinal? last with
      | none =>
          .refused container (.invalidPath path)
      | some index =>
          if index < items.length then
            .done (.list (items.set index value))
          else
            .refused container (.pathNotFound path)
  | _ =>
      .refused container (.invalidPath path)

/-- Add a value at a path; adding at the root replaces the document. -/
def add
    (document : Value)
    (path : String)
    (value : Value) :
    Edited Unit :=
  editHolder document path (.done value) (addPart path value)

/-- Remove what a path names, handing out the value. -/
def remove
    (document : Value)
    (path : String) :
    Edited Value :=
  editHolder document path
    (.refused document .rootRemoval) (removePart path)

/-- Write a value at a path that the container must be able to hold. -/
def replace
    (document : Value)
    (path : String)
    (value : Value) :
    Edited Unit :=
  editHolder document path (.done value) (replacePart path value)

/-- Remove what one path names and add it at another one. -/
def move
    (document : Value)
    (source path : String) :
    Edited Unit :=
  let removed := remove document source
  match removed.outcome with
  | .ok value =>
      add removed.document path value
  | .error error =>
      .refused removed.document error

/-- Add what one path names at another one. -/
def copy
    (document : Value)
    (source path : String) :
    Edited Unit :=
  match Pointer.get? document source with
  | some value =>
      add document path value
  | none =>
      .refused document (.pathNotFound source)

/-- Check that a path names a value strictly equal to the expected one. -/
def test
    (document : Value)
    (path : String)
    (expected : Value) :
    Edited Unit :=
  match Pointer.get? document path with
  | some actual =>
      if actual.strictEq expected then
        .done document
      else
        .refused document (.testFailed path)
  | none =>
      .refused document (.testFailed path)

/-- Apply one patch in place. -/
def apply
    (document : Value)
    (patch : Patch) :
    Edited Unit :=
  match patch.op with
  | .add =>
      add document patch.path patch.operand
  | .remove =>
      let removed := remove document patch.path
      ⟨removed.document, removed.outcome.map fun _ => ()⟩
  | .replace =>
      replace document patch.path patch.operand
  | .move =>
      match patch.source with
      | some source =>
          move document source patch.path
      | none =>
          .refused document (.missingSource patch.op patch.path)
  | .copy =>
      match patch.source with
      | some source =>
          copy document source patch.path
      | none =>
          .refused document (.missingSource patch.op patch.path)
  | .test =>
      test document patch.path patch.operand

/-- Apply patches one after another; the first failure ends it. -/
def applyAll
    (document : Value) :
    List Patch → Except PatchError Value
  | [] =>
      .ok document
  | patch :: patches =>
      let edited := apply document patch
      match edited.outcome with
      | .ok _ =>
          applyAll edited.document patches
      | .error error =>
          .error error

end Patch

end Mockup
