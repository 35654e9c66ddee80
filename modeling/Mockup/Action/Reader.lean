import Mockup.Action.Basic

namespace Mockup

/-!
# Reading actions

The kind of an action stands under `type`, next to the fields of the kind.  A
nested action may give its kind as a position in the list of kinds.  A kind
that is not known reads as such, whatever else the action says.
-/

namespace ActionKind

/-- The name that a tag gives to a kind. -/
def tag? : Json → Option String
  | .string name =>
      some name
  | .integer position =>
      if 0 ≤ position then
        some (knownNames[position.toNat]?.getD "unknown")
      else
        none
  | _ =>
      none

/-- How a request is sent unless it says otherwise. -/
def defaultMethod : String :=
  "GET"

/-- Read the kind with a name from the fields of an action. -/
def ofFields?
    (readAction? : Json → Option α)
    (name : String)
    (fields : Entries Json) :
    Option (ActionKind α) :=
  let unrepeated (names : List String) : Option Unit :=
    if names.all (Json.isUnrepeated fields) then some () else none
  match name with
  | "navigateTo" => do
      unrepeated ["pageId"]
      let pageId ← Json.required? fields "pageId" Json.asString?
      some (.navigateTo pageId)
  | "redirectTo" => do
      unrepeated ["pageId"]
      let pageId ← Json.required? fields "pageId" Json.asString?
      some (.redirectTo pageId)
  | "reLaunch" => do
      unrepeated ["pageId"]
      let pageId ← Json.optional? fields "pageId" Json.asString?
      some (.reLaunch pageId)
  | "navigateBack" =>
      some .navigateBack
  | "switchTab" => do
      unrepeated ["tabIndex", "pageId"]
      let tabIndex ← Json.optional? fields "tabIndex" Json.asCount?
      let pageId ← Json.optional? fields "pageId" Json.asString?
      some (.switchTab tabIndex pageId)
  | "showModal" => do
      unrepeated ["modal", "modalId"]
      let modal ←
        Json.optional? fields "modal" (Modal.ofJson? readAction?)
      let modalId ← Json.optional? fields "modalId" Json.asString?
      some (.showModal modal modalId)
  | "hideModal" =>
      some .hideModal
  | "showToast" => do
      unrepeated ["toast", "toastId"]
      let toast ← Json.optional? fields "toast" ToastSpec.ofJson?
      let toastId ← Json.optional? fields "toastId" Json.asString?
      some (.showToast toast toastId)
  | "hideToast" =>
      some .hideToast
  | "showActionSheet" => do
      unrepeated ["actionSheet", "actionSheetId"]
      let sheet ←
        Json.optional? fields "actionSheet"
          (ActionSheet.ofJson? readAction?)
      let sheetId ← Json.optional? fields "actionSheetId" Json.asString?
      some (.showActionSheet sheet sheetId)
  | "hideActionSheet" =>
      some .hideActionSheet
  | "request" => do
      unrepeated
        ["url", "method", "data", "headers", "successAction",
          "responsePath"]
      let url ← Json.required? fields "url" Json.asString?
      let method ←
        Json.defaulted? fields "method" defaultMethod Json.asString?
      let data ← Json.optional? fields "data" Json.asValue?
      let headers ←
        Json.defaulted? fields "headers" []
          (Json.asEntries? Json.asString?)
      let onSuccess ← Json.optional? fields "successAction" readAction?
      let responsePath ←
        Json.optional? fields "responsePath" Json.asString?
      some (.request url method data headers onSuccess responsePath)
  | "updateState" => do
      unrepeated ["statePath", "stateValue"]
      let path ← Json.required? fields "statePath" Json.asString?
      let value ←
        Json.defaulted? fields "stateValue" .null Json.asValue?
      some (.updateState path value)
  | "delay" => do
      unrepeated ["duration", "nextAction"]
      let duration ← Json.optional? fields "duration" Json.asCount?
      let next ← Json.optional? fields "nextAction" readAction?
      some (.delay duration next)
  | _ =>
      some .unknown

end ActionKind

/-- Why a document value is no action. -/
inductive ActionError where
  | missingType
  | unfitting (type : String)
  deriving Repr, DecidableEq

/-- What is wrong with an action, in words. -/
def ActionError.detail : ActionError → String
  | .missingType =>
      "missing type"
  | .unfitting type =>
      type

namespace Action

/-- Read an action in which at most `nesting` actions enclose each other. -/
def readNested? :
    Nat → Json → Option Action
  | 0, _ =>
      none
  | nesting + 1, json => do
      let fields ← json.members? ["type", "params", "errorAction"]
      let name ← Json.required? fields "type" ActionKind.tag?
      let kind ←
        ActionKind.ofFields? (readNested? nesting) name fields
      let params ← Json.defaulted? fields "params" [] Json.asMap?
      let onError ←
        Json.optional? fields "errorAction" (readNested? nesting)
      some ⟨kind, params, onError⟩

/--
Read an action.  Every action is an object, so the depth of the tree bounds
how many enclose each other.
-/
def ofJson?
    (json : Json) :
    Option Action :=
  readNested? json.depth json

/--
Read an action from a document value.  The value must name its kind, and its
free-form parts take their keys in ascending order.
-/
def ofValue
    (value : Value) :
    Except ActionError Action :=
  match value.field? "type" with
  | some (.string type) =>
      if type = "" then
        .error .missingType
      else
        match ofJson? (Json.ofValue value).sorted with
        | some action =>
            .ok action
        | none =>
            .error (.unfitting type)
  | _ =>
      .error .missingType

end Action

end Mockup
