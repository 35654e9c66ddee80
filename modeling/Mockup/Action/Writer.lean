import Mockup.Action.Basic

namespace Mockup

/-!
# Writing actions

An action is written with its kind first, then the fields of the kind, its
parameters when it has any, and the action for its failure.  Absent optional
fields are left out.
-/

namespace Action

mutual

/-- Write an action. -/
def toJson : Action → Json
  | ⟨kind, params, onError⟩ =>
      .object
        (("type", .string kind.name) ::
          kindMembers kind ++
          (if params.isEmpty then
            []
          else
            [("params", .object (Json.ofFields params))]) ++
          optionalMember "errorAction" onError)

/-- Write an action that may be absent. -/
def optionalMember
    (name : String) :
    Option Action → List (String × Json)
  | none =>
      []
  | some action =>
      [(name, toJson action)]

/-- Write the fields of a kind of action. -/
def kindMembers : ActionKind Action → List (String × Json)
  | .navigateTo pageId =>
      [("pageId", .string pageId)]
  | .redirectTo pageId =>
      [("pageId", .string pageId)]
  | .reLaunch pageId =>
      Json.optionalMember "pageId" Json.string pageId
  | .navigateBack =>
      []
  | .switchTab tabIndex pageId =>
      Json.optionalMember "tabIndex" Json.ofCount tabIndex ++
        Json.optionalMember "pageId" Json.string pageId
  | .showModal modal modalId =>
      (match modal with
        | none =>
            []
        | some present =>
            [("modal", modalJson present)]) ++
        Json.optionalMember "modalId" Json.string modalId
  | .hideModal =>
      []
  | .showToast toast toastId =>
      Json.optionalMember "toast" ToastSpec.toJson toast ++
        Json.optionalMember "toastId" Json.string toastId
  | .hideToast =>
      []
  | .showActionSheet sheet sheetId =>
      (match sheet with
        | none =>
            []
        | some present =>
            [("actionSheet", sheetJson present)]) ++
        Json.optionalMember "actionSheetId" Json.string sheetId
  | .hideActionSheet =>
      []
  | .request url method data headers onSuccess responsePath =>
      [("url", .string url), ("method", .string method)] ++
        Json.optionalMember "data" Json.ofValue data ++
        (if headers.isEmpty then
          []
        else
          [("headers",
            .object (headers.map fun header =>
              (header.1, .string header.2)))]) ++
        optionalMember "successAction" onSuccess ++
        Json.optionalMember "responsePath" Json.string responsePath
  | .updateState path value =>
      [("statePath", .string path), ("stateValue", Json.ofValue value)]
  | .delay duration next =>
      Json.optionalMember "duration" Json.ofCount duration ++
        optionalMember "nextAction" next
  | .unknown =>
      []

/-- Write a modal. -/
def modalJson : Modal Action → Json
  | ⟨title, content, closable, maskClosable, buttons⟩ =>
      .object
        [("title", .string title), ("content", .string content),
          ("closable", .bool closable),
          ("maskClosable", .bool maskClosable),
          ("buttons", .array (buttonsJson buttons))]

/-- Write the buttons of a modal. -/
def buttonsJson : List (ModalButton Action) → List Json
  | [] =>
      []
  | ⟨text, kind, onClick⟩ :: buttons =>
      .object
        ([("text", .string text)] ++
          Json.optionalMember "type" Json.string kind ++
          optionalMember "onClickAction" onClick) ::
        buttonsJson buttons

/-- Write an action sheet. -/
def sheetJson : ActionSheet Action → Json
  | ⟨title, items, cancelText⟩ =>
      .object
        (Json.optionalMember "title" Json.string title ++
          [("items", .array (itemsJson items))] ++
          Json.optionalMember "cancelText" Json.string cancelText)

/-- Write the items of an action sheet. -/
def itemsJson : List (SheetItem Action) → List Json
  | [] =>
      []
  | ⟨text, color, action⟩ :: items =>
      .object
        ([("text", .string text)] ++
          Json.optionalMember "color" Json.string color ++
          optionalMember "action" action) ::
        itemsJson items

end

/-- An action as a document value, its keys in ascending order. -/
def toValue
    (action : Action) :
    Value :=
  .ofJson action.toJson.sorted

end Action

end Mockup
