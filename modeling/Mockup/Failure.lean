import Mockup.Path.Assign

namespace Mockup

/-!
# Failures

Why an action, or an operation on the state or on the page stack, fails.  A
failure is a mistake in the document, or the page stack cannot be moved as
asked, or something went wrong while the action was carried out.
-/

/-- A cause of failure. -/
inductive Failure where
  | pageNotFound (pageId : String)
  | pageNotInStack (pageId : String)
  | emptyStack
  | stackFloor
  | modalNotFound (id : String)
  | actionSheetNotFound (id : String)
  | toastNotFound (id : String)
  | tabNotFound (tab : String)
  | invalidAction (detail : String)
  | requestFailed (reason : String)
  /-- A call of those who look on has crashed. -/
  | presenterCrashed (surface reason : String)
  | unwritable (error : Path.AssignError)
  deriving Repr, DecidableEq

namespace Failure

/-- What comes of a call of those who look on, which may crash for a reason. -/
def guarded
    (call : String) : Option String → Except Failure Unit
  | some reason =>
      .error (.presenterCrashed call reason)
  | none =>
      .ok ()

/-- The wording of a failure. -/
def message : Failure → String
  | .pageNotFound pageId =>
      "Page not found: " ++ pageId
  | .pageNotInStack pageId =>
      "Page not in stack: " ++ pageId
  | .emptyStack =>
      "Page stack is empty"
  | .stackFloor =>
      "Cannot pop: stack has only one page"
  | .modalNotFound id =>
      "Modal not found: " ++ id
  | .actionSheetNotFound id =>
      "Action sheet not found: " ++ id
  | .toastNotFound id =>
      "Toast not found: " ++ id
  | .tabNotFound tab =>
      "Tab not found: " ++ tab
  | .invalidAction detail =>
      "Invalid action: " ++ detail
  | .requestFailed reason =>
      "Request failed: " ++ reason
  | .presenterCrashed surface reason =>
      "Callback panicked: " ++ surface ++ ": " ++ reason
  | .unwritable error =>
      error.message

/-- What the action for a failure is told: a request's reason as it came. -/
def explanation : Failure → String
  | .requestFailed reason =>
      reason
  | failure =>
      failure.message

/-- Whether the document is to blame. -/
def isConfiguration : Failure → Bool
  | .pageNotFound _ =>
      true
  | .modalNotFound _ =>
      true
  | .actionSheetNotFound _ =>
      true
  | .toastNotFound _ =>
      true
  | .tabNotFound _ =>
      true
  | .invalidAction _ =>
      true
  | _ =>
      false

/-- Whether the page stack cannot be moved as asked. -/
def isStackDiscipline : Failure → Bool
  | .pageNotInStack _ =>
      true
  | .emptyStack =>
      true
  | .stackFloor =>
      true
  | _ =>
      false

/-- Whether an action that fails so is passed over without a trace. -/
def isPassedOver
    (failure : Failure) :
    Bool :=
  failure.isConfiguration || failure.isStackDiscipline

end Failure

end Mockup
