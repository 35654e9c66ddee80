import Mockup.Action.Basic

namespace Mockup

/-!
# The presenter

A presenter shows to the user what actions do.  It may crash after it has
shown what it was given.  A silent one shows nothing and never crashes.
-/

/-- What is shown to the user. -/
inductive Presentation where
  | navigate (pageId : String) (params : Entries Value)
  | navigateBack (count : Nat)
  | switchTab (index : Nat)
  | showToast (toast : Toast)
  | hideToast
  | showModal (modal : Modal Action)
  | hideModal
  | showActionSheet (sheet : ActionSheet Action)
  | hideActionSheet
  | stateUpdate (path : String) (value : Value)
  deriving Repr

namespace Presentation

/-- The name of the surface that shows it. -/
def surface : Presentation → String
  | .navigate _ _ =>
      "navigate"
  | .navigateBack _ =>
      "navigateBack"
  | .switchTab _ =>
      "switchTab"
  | .showToast _ =>
      "showToast"
  | .hideToast =>
      "hideToast"
  | .showModal _ =>
      "showModal"
  | .hideModal =>
      "hideModal"
  | .showActionSheet _ =>
      "showActionSheet"
  | .hideActionSheet =>
      "hideActionSheet"
  | .stateUpdate _ _ =>
      "stateUpdate"

/-- The name of the call that reaches the surface. -/
def call : Presentation → String
  | .navigate _ _ =>
      "on_navigate"
  | .navigateBack _ =>
      "on_navigate_back"
  | .switchTab _ =>
      "on_switch_tab"
  | .showToast _ =>
      "on_show_toast"
  | .hideToast =>
      "on_hide_toast"
  | .showModal _ =>
      "on_show_modal"
  | .hideModal =>
      "on_hide_modal"
  | .showActionSheet _ =>
      "on_show_action_sheet"
  | .hideActionSheet =>
      "on_hide_action_sheet"
  | .stateUpdate _ _ =>
      "on_state_update"

end Presentation

/-- Who shows to the user what actions do. -/
structure Presenter where
  /-- Whether it shows anything. -/
  isShowing : Bool
  /-- Why it crashes after it has been given something, if it does. -/
  crash? : Presentation → Option String

namespace Presenter

/-- A presenter that shows nothing. -/
def silent : Presenter where
  isShowing :=
    false
  crash? :=
    fun _ => none

/-- A presenter with a screen, which crashes on some surfaces. -/
def screen
    (crashing : List String) :
    Presenter where
  isShowing :=
    true
  crash? :=
    fun shown =>
      if crashing.contains shown.surface then
        some (shown.surface ++ " crashed")
      else
        none

end Presenter

end Mockup
