import Mockup.Action.Writer
import Mockup.AppDocument.Basic

namespace Mockup

/-!
# Writing application documents

Fields are written in their order of declaration; absent optional fields are
left out.
-/

/-- Write a page. -/
def Page.toJson
    (page : Page) :
    Json :=
  .object
    [("id", .string page.id), ("name", .string page.name),
      ("componentTree", Json.ofValue page.componentTree)]

/-- Write a router. -/
def Router.toJson
    (router : Router) :
    Json :=
  .object
    ([("mode", .string router.mode),
      ("initialPageId", .string router.initialPageId)] ++
      Json.optionalMember "historyLimit" Json.ofCount
        router.historyLimit)

/-- Write a tab. -/
def TabItem.toJson
    (item : TabItem) :
    Json :=
  .object
    ([("title", .string item.title), ("pageId", .string item.pageId)] ++
      Json.optionalMember "icon" Json.string item.icon ++
      Json.optionalMember "selectedIcon" Json.string item.selectedIcon ++
      [("disabled", .bool item.disabled)])

/-- Write a tab bar. -/
def TabBar.toJson
    (bar : TabBar) :
    Json :=
  .object
    [("selectedIndex", Json.ofCount bar.selectedIndex),
      ("items", .array (bar.items.map TabItem.toJson))]

namespace AppDocument

/-- Write entries that are all written in the same way. -/
def entriesJson
    (write : α → Json)
    (entries : Entries α) :
    Json :=
  .object (entries.map fun entry => (entry.1, write entry.2))

/-- Write a document. -/
def toJson
    (app : AppDocument) :
    Json :=
  .object
    ([("id", .string app.id), ("name", .string app.name),
      ("version", .string app.version),
      ("pages", .array (app.pages.map Page.toJson)),
      ("router", app.router.toJson)] ++
      Json.optionalMember "tabBar" TabBar.toJson app.tabBar ++
      [("modals", entriesJson Action.modalJson app.modals),
        ("actionSheets",
          entriesJson Action.sheetJson app.actionSheets),
        ("toasts", entriesJson ToastSpec.toJson app.toasts),
        ("state", Json.ofValue app.state)])

/-- A document as a value, its keys in ascending order. -/
def toValue
    (app : AppDocument) :
    Value :=
  .ofJson app.toJson.sorted

end AppDocument

end Mockup
