import Mockup.Json.Record

namespace Mockup

/-!
# Overlays

Toasts, modals and action sheets are shown on top of a page.  The parts that
dispatch an action when they are chosen take the type of actions as a
parameter.
-/

/-- A toast as a document writes it. -/
structure ToastSpec where
  message : String := ""
  duration : Option Nat := none
  kind : Option String := none
  position : Option String := none
  deriving Repr, DecidableEq

/-- A toast as it is presented. -/
structure Toast where
  message : String
  duration : Nat
  kind : String
  position : String
  deriving Repr, DecidableEq

/-- A button of a modal. -/
structure ModalButton (α : Type) where
  text : String
  kind : Option String
  onClick : Option α
  deriving Repr

/-- A modal. -/
structure Modal (α : Type) where
  title : String
  content : String
  closable : Bool
  maskClosable : Bool
  buttons : List (ModalButton α)
  deriving Repr

/-- An item of an action sheet. -/
structure SheetItem (α : Type) where
  text : String
  color : Option String
  action : Option α
  deriving Repr

/-- An action sheet. -/
structure ActionSheet (α : Type) where
  title : Option String
  items : List (SheetItem α)
  cancelText : Option String
  deriving Repr

namespace ToastSpec

/--
The toast with its defaults filled in; a duration of zero counts as missing.
-/
def resolve
    (spec : ToastSpec)
    (defaultDuration : Nat) :
    Toast where
  message :=
    spec.message
  duration :=
    match spec.duration with
    | some (duration + 1) =>
        duration + 1
    | _ =>
        defaultDuration
  kind :=
    spec.kind.getD "info"
  position :=
    spec.position.getD "center"

/-- The fields of a written toast, in order. -/
def fieldNames : List String :=
  ["message", "duration", "type", "position"]

/-- Read a toast. -/
def ofJson?
    (json : Json) :
    Option ToastSpec := do
  let fields ← json.record? fieldNames
  let message ← Json.defaulted? fields "message" "" Json.asString?
  let duration ← Json.optional? fields "duration" Json.asCount?
  let kind ← Json.optional? fields "type" Json.asString?
  let position ← Json.optional? fields "position" Json.asString?
  some ⟨message, duration, kind, position⟩

/-- Write a toast. -/
def toJson
    (spec : ToastSpec) :
    Json :=
  .object
    ([("message", .string spec.message)] ++
      Json.optionalMember "duration" Json.ofCount spec.duration ++
      Json.optionalMember "type" Json.string spec.kind ++
      Json.optionalMember "position" Json.string spec.position)

end ToastSpec

namespace ModalButton

/-- The fields of a written button, in order. -/
def fieldNames : List String :=
  ["text", "type", "onClickAction"]

/-- Read a button, its action with `readAction?`. -/
def ofJson?
    (readAction? : Json → Option α)
    (json : Json) :
    Option (ModalButton α) := do
  let fields ← json.record? fieldNames
  let text ← Json.required? fields "text" Json.asString?
  let kind ← Json.optional? fields "type" Json.asString?
  let onClick ← Json.optional? fields "onClickAction" readAction?
  some ⟨text, kind, onClick⟩

end ModalButton

namespace Modal

/-- The fields of a written modal, in order. -/
def fieldNames : List String :=
  ["title", "content", "closable", "maskClosable", "buttons"]

/-- Read a modal, the actions of its buttons with `readAction?`. -/
def ofJson?
    (readAction? : Json → Option α)
    (json : Json) :
    Option (Modal α) := do
  let fields ← json.record? fieldNames
  let title ← Json.defaulted? fields "title" "" Json.asString?
  let content ← Json.defaulted? fields "content" "" Json.asString?
  let closable ← Json.defaulted? fields "closable" false Json.asBool?
  let maskClosable ←
    Json.defaulted? fields "maskClosable" false Json.asBool?
  let buttons ←
    Json.defaulted? fields "buttons" []
      (Json.asList? (ModalButton.ofJson? readAction?))
  some ⟨title, content, closable, maskClosable, buttons⟩

end Modal

namespace SheetItem

/-- The fields of a written item, in order. -/
def fieldNames : List String :=
  ["text", "color", "action"]

/-- Read an item, its action with `readAction?`. -/
def ofJson?
    (readAction? : Json → Option α)
    (json : Json) :
    Option (SheetItem α) := do
  let fields ← json.record? fieldNames
  let text ← Json.required? fields "text" Json.asString?
  let color ← Json.optional? fields "color" Json.asString?
  let action ← Json.optional? fields "action" readAction?
  some ⟨text, color, action⟩

end SheetItem

namespace ActionSheet

/-- The fields of a written action sheet, in order. -/
def fieldNames : List String :=
  ["title", "items", "cancelText"]

/-- Read an action sheet, the actions of its items with `readAction?`. -/
def ofJson?
    (readAction? : Json → Option α)
    (json : Json) :
    Option (ActionSheet α) := do
  let fields ← json.record? fieldNames
  let title ← Json.optional? fields "title" Json.asString?
  let items ←
    Json.defaulted? fields "items" []
      (Json.asList? (SheetItem.ofJson? readAction?))
  let cancelText ← Json.optional? fields "cancelText" Json.asString?
  some ⟨title, items, cancelText⟩

end ActionSheet

end Mockup
