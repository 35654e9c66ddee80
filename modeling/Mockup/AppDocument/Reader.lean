import Mockup.Action.Reader
import Mockup.AppDocument.Basic
import Mockup.Json.Shape

namespace Mockup

/-!
# Reading application documents

A document is read from text as it stands, or from a document value, whose
keys are put in ascending order first.  Members of the text that no record
knows may hold anything that follows the grammar.
-/

namespace Page

/-- The fields of a written page, in order. -/
def fieldNames : List String :=
  ["id", "name", "componentTree"]

/-- What is read of a page. -/
def shape : Json.Shape :=
  .ofNames fieldNames []

/-- Read a page. -/
def ofJson?
    (json : Json) :
    Option Page := do
  let fields ← json.record? fieldNames
  let id ← Json.required? fields "id" Json.asString?
  let name ← Json.defaulted? fields "name" "" Json.asString?
  let componentTree ←
    Json.defaulted? fields "componentTree" .null Json.asValue?
  some ⟨id, name, componentTree⟩

end Page

namespace Router

/-- The fields of a written router, in order. -/
def fieldNames : List String :=
  ["mode", "initialPageId", "historyLimit"]

/-- What is read of a router. -/
def shape : Json.Shape :=
  .ofNames fieldNames []

/-- Read a router. -/
def ofJson?
    (json : Json) :
    Option Router := do
  let fields ← json.record? fieldNames
  let mode ← Json.defaulted? fields "mode" "" Json.asString?
  let initialPageId ←
    Json.defaulted? fields "initialPageId" "" Json.asString?
  let historyLimit ← Json.optional? fields "historyLimit" Json.asCount?
  some ⟨mode, initialPageId, historyLimit⟩

end Router

namespace TabItem

/-- The fields of a written tab, in order. -/
def fieldNames : List String :=
  ["title", "pageId", "icon", "selectedIcon", "disabled"]

/-- What is read of a tab. -/
def shape : Json.Shape :=
  .ofNames fieldNames []

/-- Read a tab. -/
def ofJson?
    (json : Json) :
    Option TabItem := do
  let fields ← json.record? fieldNames
  let title ← Json.defaulted? fields "title" "" Json.asString?
  let pageId ← Json.required? fields "pageId" Json.asString?
  let icon ← Json.optional? fields "icon" Json.asString?
  let selectedIcon ← Json.optional? fields "selectedIcon" Json.asString?
  let disabled ← Json.defaulted? fields "disabled" false Json.asBool?
  some ⟨title, pageId, icon, selectedIcon, disabled⟩

end TabItem

namespace TabBar

/-- The fields of a written tab bar, in order. -/
def fieldNames : List String :=
  ["selectedIndex", "items"]

/-- What is read of a tab bar. -/
def shape : Json.Shape :=
  .ofNames fieldNames [("items", .each TabItem.shape)]

/-- Read a tab bar. -/
def ofJson?
    (json : Json) :
    Option TabBar := do
  let fields ← json.record? fieldNames
  let selectedIndex ←
    Json.defaulted? fields "selectedIndex" 0 Json.asCount?
  let items ←
    Json.defaulted? fields "items" [] (Json.asList? TabItem.ofJson?)
  some ⟨selectedIndex, items⟩

end TabBar

/-- What is read of a modal. -/
def Modal.shape : Json.Shape :=
  .ofNames fieldNames
    [("buttons", .each (.ofNames ModalButton.fieldNames []))]

/-- What is read of an action sheet. -/
def ActionSheet.shape : Json.Shape :=
  .ofNames fieldNames
    [("items", .each (.ofNames SheetItem.fieldNames []))]

/-- What is read of a toast. -/
def ToastSpec.shape : Json.Shape :=
  .ofNames fieldNames []

namespace AppDocument

/-- The fields of a written document, in order. -/
def fieldNames : List String :=
  ["id", "name", "version", "pages", "router", "tabBar", "modals",
    "actionSheets", "toasts", "state"]

/-- What is read of a document. -/
def shape : Json.Shape :=
  .ofNames fieldNames
    [("pages", .each Page.shape), ("router", Router.shape),
      ("tabBar", TabBar.shape), ("modals", .each Modal.shape),
      ("actionSheets", .each ActionSheet.shape),
      ("toasts", .each ToastSpec.shape)]

/-- Read a document. -/
def ofJson?
    (json : Json) :
    Option AppDocument := do
  let fields ← json.record? fieldNames
  let id ← Json.defaulted? fields "id" "" Json.asString?
  let name ← Json.defaulted? fields "name" "" Json.asString?
  let version ← Json.defaulted? fields "version" "" Json.asString?
  let pages ←
    Json.defaulted? fields "pages" [] (Json.asList? Page.ofJson?)
  let router ← Json.defaulted? fields "router" {} Router.ofJson?
  let tabBar ← Json.optional? fields "tabBar" TabBar.ofJson?
  let modals ←
    Json.defaulted? fields "modals" []
      (Json.asEntries? (Modal.ofJson? Action.ofJson?))
  let actionSheets ←
    Json.defaulted? fields "actionSheets" []
      (Json.asEntries? (ActionSheet.ofJson? Action.ofJson?))
  let toasts ←
    Json.defaulted? fields "toasts" []
      (Json.asEntries? ToastSpec.ofJson?)
  let state ← Json.defaulted? fields "state" .null Json.asValue?
  some ⟨id, name, version, pages, router, tabBar, modals, actionSheets,
    toasts, state⟩

/-- Read a document from its text. -/
def ofText?
    (text : String) :
    Option AppDocument :=
  match Json.readShaped shape text with
  | .ok json =>
      ofJson? json
  | .error _ =>
      none

/-- Read a document from a value; its keys are put in ascending order. -/
def ofValue?
    (value : Value) :
    Option AppDocument :=
  ofJson? (Json.ofValue value).sorted

end AppDocument

end Mockup
