import Mockup.Action.Basic

namespace Mockup

/-!
# Application documents

The document of an application lists its pages, how they are reached, the
overlays that actions show by name, and the initial state.  Any node of a
page's component tree may declare watchers.
-/

/-- A page with the root of its component tree. -/
structure Page where
  id : String
  name : String
  componentTree : Value
  deriving Repr

/-- How pages are reached. -/
structure Router where
  mode : String := ""
  initialPageId : String := ""
  /-- How many pages the stack holds at most, instead of the setting. -/
  historyLimit : Option Nat := none
  deriving Repr, DecidableEq

/-- An entry of the tab bar. -/
structure TabItem where
  title : String
  pageId : String
  icon : Option String
  selectedIcon : Option String
  disabled : Bool
  deriving Repr, DecidableEq

/-- The tab bar. -/
structure TabBar where
  selectedIndex : Nat
  items : List TabItem
  deriving Repr, DecidableEq

/-- The document of an application. -/
structure AppDocument where
  id : String := ""
  name : String := ""
  version : String := ""
  pages : List Page := []
  router : Router := {}
  tabBar : Option TabBar := none
  modals : Entries (Modal Action) := []
  actionSheets : Entries (ActionSheet Action) := []
  toasts : Entries ToastSpec := []
  state : Value := .null
  deriving Repr

/-- A watcher declared by a node of a page. -/
structure WatchDeclaration where
  pageId : String
  path : String
  config : Value
  deriving Repr

namespace AppDocument

/-- The first page with an id. -/
def page?
    (app : AppDocument)
    (pageId : String) :
    Option Page :=
  app.pages.find? fun page => page.id = pageId

/-- The page to start on. -/
def initialPageId
    (app : AppDocument) :
    String :=
  app.router.initialPageId

/-- The items of the tab bar; without a tab bar there are none. -/
def tabItems
    (app : AppDocument) :
    List TabItem :=
  match app.tabBar with
  | some bar =>
      bar.items
  | none =>
      []

/-- The index of the first tab that shows a page. -/
def tabIndex?
    (app : AppDocument)
    (pageId : String) :
    Option Nat :=
  app.tabItems.findIdx? fun item => item.pageId = pageId

/-- The page that a tab shows. -/
def tabPage?
    (app : AppDocument)
    (index : Nat) :
    Option String :=
  app.tabItems[index]?.map TabItem.pageId

end AppDocument

namespace WatchDeclaration

/-- The declarations of a `watch` block: one for each of its entries. -/
def ofBlock
    (pageId : String) :
    Option Value → List WatchDeclaration
  | some (.map watches) =>
      watches.map fun watch => ⟨pageId, watch.1, watch.2⟩
  | _ =>
      []

mutual

/-- The declarations of a node, then of its children, then of its items. -/
def ofNode
    (pageId : String) :
    Value → List WatchDeclaration
  | .map fields =>
      ofBlock pageId (Entries.get? fields "watch") ++
        ofField pageId "children" fields ++
        ofField pageId "items" fields
  | _ =>
      []

/-- The declarations below one key of a node: a node, or a list of nodes. -/
def ofField
    (pageId key : String) :
    List (String × Value) → List WatchDeclaration
  | [] =>
      []
  | (name, value) :: fields =>
      if name = key then
        match value with
        | .list nodes =>
            ofNodes pageId nodes
        | node =>
            ofNode pageId node
      else
        ofField pageId key fields

/-- The declarations of nodes, one after another. -/
def ofNodes
    (pageId : String) :
    List Value → List WatchDeclaration
  | [] =>
      []
  | node :: nodes =>
      ofNode pageId node ++ ofNodes pageId nodes

end

end WatchDeclaration

/-- The watchers that the pages of an application declare. -/
def AppDocument.watchDeclarations
    (app : AppDocument) :
    List WatchDeclaration :=
  app.pages.flatMap fun page =>
    WatchDeclaration.ofNode page.id page.componentTree

end Mockup
