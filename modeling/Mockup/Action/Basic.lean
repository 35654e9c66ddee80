import Mockup.Action.Overlay

namespace Mockup

/-!
# Actions

An action is data: what to do, parameters, and another action to run when the
first one fails.  Some kinds name a further action to run afterwards, and
overlays carry actions for their buttons and items.
-/

/-- What an action does; `α` is the type of the actions inside it. -/
inductive ActionKind (α : Type) where
  /-- Push a page. -/
  | navigateTo (pageId : String)
  /-- Replace the current page. -/
  | redirectTo (pageId : String)
  /-- Clear the stack and push a page, by default the initial one. -/
  | reLaunch (pageId : Option String)
  /-- Pop as many pages as the parameter `depth` says. -/
  | navigateBack
  /-- Select a tab by its index or by its page. -/
  | switchTab
      (tabIndex : Option Nat)
      (pageId : Option String)
  | showModal
      (modal : Option (Modal α))
      (modalId : Option String)
  | hideModal
  | showToast
      (toast : Option ToastSpec)
      (toastId : Option String)
  | hideToast
  | showActionSheet
      (sheet : Option (ActionSheet α))
      (sheetId : Option String)
  | hideActionSheet
  /-- Send a request, keep the response, and go on with it. -/
  | request
      (url method : String)
      (data : Option Value)
      (headers : Entries String)
      (onSuccess : Option α)
      (responsePath : Option String)
  /-- Write a value into the state. -/
  | updateState
      (path : String)
      (value : Value)
  /-- Wait, and go on. -/
  | delay
      (duration : Option Nat)
      (next : Option α)
  /-- Any kind that is not known. -/
  | unknown
  deriving Repr

/-- An action. -/
structure Action where
  kind : ActionKind Action
  params : List (String × Value)
  onError : Option Action
  deriving Repr

namespace ActionKind

/-- The name of a kind of action. -/
def name : ActionKind α → String
  | .navigateTo _ =>
      "navigateTo"
  | .redirectTo _ =>
      "redirectTo"
  | .reLaunch _ =>
      "reLaunch"
  | .navigateBack =>
      "navigateBack"
  | .switchTab _ _ =>
      "switchTab"
  | .showModal _ _ =>
      "showModal"
  | .hideModal =>
      "hideModal"
  | .showToast _ _ =>
      "showToast"
  | .hideToast =>
      "hideToast"
  | .showActionSheet _ _ =>
      "showActionSheet"
  | .hideActionSheet =>
      "hideActionSheet"
  | .request .. =>
      "request"
  | .updateState _ _ =>
      "updateState"
  | .delay _ _ =>
      "delay"
  | .unknown =>
      "unknown"

/-- The names of the known kinds, in the order of their declaration. -/
def knownNames : List String :=
  ["navigateTo", "redirectTo", "reLaunch", "navigateBack", "switchTab",
    "showModal", "hideModal", "showToast", "hideToast",
    "showActionSheet", "hideActionSheet", "request", "updateState",
    "delay"]

/-- The action that runs when this one has been carried out. -/
def followUp? : ActionKind α → Option α
  | .request _ _ _ _ onSuccess _ =>
      onSuccess
  | .delay _ next =>
      next
  | _ =>
      none

end ActionKind

namespace Action

/-- The name of the kind of an action. -/
def typeName
    (action : Action) :
    String :=
  action.kind.name

/-- The action with one more parameter. -/
def withParam
    (action : Action)
    (name : String)
    (value : Value) :
    Action :=
  { action with params := Entries.insert action.params name value }

end Action

end Mockup
