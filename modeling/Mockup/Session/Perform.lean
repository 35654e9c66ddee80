import Mockup.Session.Effects

namespace Mockup

namespace Session

/-!
# Carrying out actions

What each kind of action does.  An action is finished, or it waits, or it
goes on with a further action one level deeper.
-/

/-- What is to be done next for an action. -/
inductive Sequel where
  | finish (outcome : Outcome)
  | follow (action : Action)
  | wait (delay : Nat) (stage : Stage)

/-- The sequel of an action that has taken effect. -/
def completed : Sequel :=
  .finish .completed

/-- Go on with a further action, if there is one. -/
def Sequel.ofNext : Option Action → Sequel
  | some action =>
      .follow action
  | none =>
      completed

/-! ## Pages -/

/-- Move to a page and show it. -/
def goTo
    (session : Session)
    (wiring : Wiring)
    (move : PageStack → PageStack × Except Failure Unit)
    (pageId : String)
    (params : Entries Value) :
    Attempt Sequel :=
  (session.movePages move).andThen fun moved _ =>
    (moved.present wiring (.navigate pageId params)).andThen
      fun shown _ => shown.succeed completed

/--
Select a tab and make a page the only one on the stack.  The page must exist
before anything is done.
-/
def startOver
    (session : Session)
    (wiring : Wiring)
    (tab : Nat)
    (pageId : String)
    (params : Entries Value)
    (depth : Nat) :
    Attempt Unit :=
  match session.app.page? pageId with
  | none =>
      session.refuse (.pageNotFound pageId)
  | some _ =>
      (session.commit wiring Store.tabKey (.ofNat tab) depth).andThen
        fun written _ =>
        written.movePages fun pages => pages.restart pageId params

/-- Go to a page as if the application had just been launched. -/
def reLaunch
    (session : Session)
    (wiring : Wiring)
    (pageId : Option String)
    (params : Entries Value)
    (depth : Nat) :
    Attempt Sequel :=
  let target := pageId.getD session.app.initialPageId
  (session.startOver wiring 0 target params depth).andThen
    fun moved _ =>
      (moved.present wiring (.navigate target params)).andThen
        fun shown _ => shown.succeed completed

/-- How far back the parameters of an action ask to go, by default one page. -/
def stepsBack
    (params : Entries Value) :
    Int :=
  match (Entries.get? params "depth").bind Value.asInt? with
  | some count =>
      count.toInt
  | none =>
      1

/-- Go back some pages; going back none or fewer is passed over. -/
def navigateBack
    (session : Session)
    (wiring : Wiring)
    (params : Entries Value) :
    Attempt Sequel :=
  let steps := stepsBack params
  if steps ≤ 0 then
    session.succeed (.finish .skipped)
  else
    (session.movePages fun pages => pages.pop steps.toNat).andThen
      fun moved popped =>
        (moved.present wiring (.navigateBack popped)).andThen
          fun shown _ => shown.succeed completed

/-- The tab that an action means, with its page. -/
def tab
    (app : AppDocument) :
    Option Nat → Option String → Except Failure (Nat × String)
  | some index, _ =>
      match app.tabPage? index with
      | some pageId =>
          .ok (index, pageId)
      | none =>
          .error (.tabNotFound (toString index))
  | none, some pageId =>
      match app.tabIndex? pageId with
      | some index =>
          .ok (index, pageId)
      | none =>
          .error (.tabNotFound pageId)
  | none, none =>
      .error (.invalidAction "switchTab needs tabIndex or pageId")

/-- Switch to a tab. -/
def switchTab
    (session : Session)
    (wiring : Wiring)
    (tabIndex : Option Nat)
    (pageId : Option String)
    (params : Entries Value)
    (depth : Nat) :
    Attempt Sequel :=
  match tab session.app tabIndex pageId with
  | .error failure =>
      session.refuse failure
  | .ok (index, target) =>
      (session.startOver wiring index target params depth).andThen
        fun moved _ =>
          (moved.present wiring (.switchTab index)).andThen
            fun shown _ => shown.succeed completed

/-! ## Overlays -/

/-- An overlay given with an action, or else found under its id. -/
def overlay
    (inline : Option α)
    (id : Option String)
    (registry : Entries α)
    (notFound : String → Failure)
    (needed : String) :
    Except Failure α :=
  match inline, id with
  | some given, _ =>
      .ok given
  | none, some name =>
      match Entries.get? registry name with
      | some found =>
          .ok found
      | none =>
          .error (notFound name)
  | none, none =>
      .error (.invalidAction needed)

/-- Show an overlay, unless there is none. -/
def showOverlay
    (session : Session)
    (wiring : Wiring)
    (found : Except Failure α)
    (present : α → Presentation) :
    Attempt Sequel :=
  match found with
  | .error failure =>
      session.refuse failure
  | .ok config =>
      (session.present wiring (present config)).andThen
        fun shown _ => shown.succeed completed

/-- Show a toast, and hide it after its time. -/
def showToast
    (session : Session)
    (wiring : Wiring)
    (inline : Option ToastSpec)
    (id : Option String) :
    Attempt Sequel :=
  match
    overlay inline id session.app.toasts .toastNotFound
      "showToast needs toast or toastId" with
  | .error failure =>
      session.refuse failure
  | .ok spec =>
      let toast := spec.resolve session.settings.toastDuration
      (session.present wiring (.showToast toast)).andThen
        fun shown _ => (shown.armToast toast.duration).succeed completed

/-! ## State -/

/-- Write a value into the state and show it. -/
def updateState
    (session : Session)
    (wiring : Wiring)
    (path : String)
    (value : Value)
    (depth : Nat) :
    Attempt Sequel :=
  if (Text.trim path.toList).isEmpty then
    session.refuse (.invalidAction "updateState needs statePath")
  else
    (session.commit wiring path value depth).andThen
      fun written write =>
        (written.present wiring (.stateUpdate write.path value)).andThen
          fun shown _ => shown.succeed completed

/-- Write a response into the state, when an action says where. -/
def commitResponse
    (session : Session)
    (wiring : Wiring)
    (path : Option String)
    (response : Value)
    (depth : Nat) :
    Attempt Unit :=
  match path with
  | none =>
      session.succeed ()
  | some target =>
      if target = "" then
        session.succeed ()
      else
        (session.commit wiring target response depth).andThen
          fun written _ => written.succeed ()

/-! ## Every kind -/

/-- Carry out an action as far as it goes without waiting. -/
def perform
    (session : Session)
    (wiring : Wiring)
    (action : Action)
    (depth : Nat) :
    Attempt Sequel :=
  let params := action.params
  match action.kind with
  | .navigateTo pageId =>
      session.goTo wiring (fun pages => pages.push pageId params) pageId
        params
  | .redirectTo pageId =>
      session.goTo wiring (fun pages => pages.replace pageId params) pageId
        params
  | .reLaunch pageId =>
      session.reLaunch wiring pageId params depth
  | .navigateBack =>
      session.navigateBack wiring params
  | .switchTab tabIndex pageId =>
      session.switchTab wiring tabIndex pageId params depth
  | .showModal modal id =>
      session.showOverlay wiring
        (overlay modal id session.app.modals .modalNotFound
          "showModal needs modal or modalId") .showModal
  | .hideModal =>
      session.showOverlay wiring (.ok ()) fun _ => .hideModal
  | .showToast toast id =>
      session.showToast wiring toast id
  | .hideToast =>
      session.disarmToast.showOverlay wiring (.ok ()) fun _ => .hideToast
  | .showActionSheet sheet id =>
      session.showOverlay wiring
        (overlay sheet id session.app.actionSheets .actionSheetNotFound
          "showActionSheet needs actionSheet or actionSheetId")
        .showActionSheet
  | .hideActionSheet =>
      session.showOverlay wiring (.ok ()) fun _ => .hideActionSheet
  | .request .. =>
      session.succeed
        (.wait (session.networkOf wiring.line).latency
          (.answered wiring action depth))
  | .updateState path value =>
      session.updateState wiring path value depth
  | .delay duration _ =>
      session.succeed
        (.wait (duration.getD session.settings.delayDuration)
          (.rested action depth))
  | .unknown =>
      session.succeed (.finish .skipped)

/-- Go on with a request when its answer is there. -/
def receive
    (session : Session)
    (ticket : Nat)
    (wiring : Wiring)
    (action : Action)
    (depth : Nat) :
    Attempt Sequel :=
  match action.kind with
  | .request url _ data _ onSuccess responsePath =>
      match (session.networkOf wiring.line).answer url data with
      | .error failure =>
          session.refuse failure
      | .ok response =>
          let kept :=
            { session with
              store := session.store.keepResponse url response }
          ((kept.note (.responded ticket url response)).commitResponse
            wiring responsePath response depth).andThen
            fun written _ =>
              written.succeed
                (.ofNext (onSuccess.map fun next =>
                  next.withParam "response" response))
  | _ =>
      session.succeed (.finish .skipped)

end Session

end Mockup
