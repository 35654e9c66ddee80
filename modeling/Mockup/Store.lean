import Mockup.AppDocument.Basic
import Mockup.Failure

namespace Mockup

/-!
# The store

The store holds the state of an application, a tree whose root is a map, and
the last response to each request.  State is read and written by state paths;
a write names a key below the root, so the root itself is never replaced.
-/

/-- The state and the responses of a running application. -/
structure Store where
  state : Value
  responses : Entries Value := []
  deriving Repr

/-- What a write did: the canonical path, and what was there before. -/
structure StateWrite where
  path : String
  old : Option Value
  deriving Repr

namespace Store

/-- The key of the selected tab. -/
def tabKey : String :=
  "tabBarSelectedIndex"

/-- The tab that is selected at the start. -/
def initialTab
    (app : AppDocument) :
    Nat :=
  (app.tabBar.map TabBar.selectedIndex).getD 0

/-- The entries that the state of every application starts with. -/
def defaults
    (app : AppDocument) :
    Entries Value :=
  [("theme", .string "light"), ("language", .string "zh-CN"),
    (tabKey, .ofNat (initialTab app))]

/-- The store at the start: the document's state over the defaults. -/
def ofApp
    (app : AppDocument) :
    Store where
  state :=
    .map (Entries.extend (defaults app) app.state.entries)

/-- The value at a state path. -/
def get?
    (store : Store)
    (path : String) :
    Option Value :=
  Path.resolve? store.state (Path.stateSegments path)

/-- Write a value at a state path; the store is handed back in any case. -/
def set
    (store : Store)
    (path : String)
    (value : Value) :
    Store × Except Failure StateWrite :=
  match Path.stateSegments path with
  | [] =>
      (store, .error (.invalidAction
        ("state path '" ++ path ++ "' does not name a key")))
  | segment :: rest =>
      let place := segment :: rest
      let assigned := Path.assign store.state place value
      let after := { store with state := assigned.root }
      match assigned.outcome with
      | .ok old =>
          (after, .ok ⟨Path.canonical place, old⟩)
      | .error error =>
          (after, .error (.unwritable error))

/-- The selected tab, when the state holds a count for it. -/
def tab?
    (store : Store) :
    Option Nat :=
  match (store.state.field? tabKey).bind Value.asInt? with
  | some index =>
      if 0 ≤ index.toInt then some index.toInt.toNat else none
  | none =>
      none

/-- Keep the response to a request. -/
def keepResponse
    (store : Store)
    (url : String)
    (response : Value) :
    Store :=
  { store with responses := Entries.insert store.responses url response }

/-- The last response to requests to a URL. -/
def response?
    (store : Store)
    (url : String) :
    Option Value :=
  Entries.get? store.responses url

/-- Forget all responses. -/
def forgetResponses
    (store : Store) :
    Store :=
  { store with responses := [] }

end Store

end Mockup
