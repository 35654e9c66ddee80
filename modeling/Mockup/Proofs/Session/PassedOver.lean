import Mockup.Proofs.PageStack.Operations
import Mockup.Proofs.Path.Segments
import Mockup.Proofs.Session.Effects

namespace Mockup

/-!
# What is passed over has no effect

Carrying out an action checks before it changes anything, and an action that
is passed over, or that has yet to wait, has touched nothing.  The exception
is a request that is answered: its response is kept first, and then a response
path that names no key makes the request be passed over.
-/

namespace PageStack

/-- Clearing the stack leaves the application as it is. -/
@[simp] theorem app_clear
    (stack : PageStack) :
    stack.clear.app = stack.app := by
  unfold clear announce
  simp only
  split <;> rfl

/-- Starting over on a page that exists succeeds. -/
theorem restart_of_page
    {stack : PageStack}
    {pageId : String}
    {page : Page}
    (found : stack.app.page? pageId = some page)
    (params : Entries Value) :
    (stack.restart pageId params).2 = .ok () := by
  simp [restart, push, found]

end PageStack

/-- The action of a stage, unless there is nothing left to do. -/
def Stage.action? : Stage → Option Action
  | .start action _ =>
      some action
  | .answered _ action _ =>
      some action
  | .rested action _ =>
      some action
  | .void =>
      none

namespace Session

/-! ## Kinds of attempts -/

/-- Whether an action is passed over, or has yet to wait. -/
def comesToNothing : Except Failure Sequel → Bool
  | .ok (.finish outcome) =>
      outcome = .skipped
  | .ok (.follow _) =>
      false
  | .ok (.wait _ _) =>
      true
  | .error failure =>
      failure.isPassedOver

namespace Attempt

/-- An attempt that has touched nothing when it is passed over. -/
structure IsCareful
    (before : Session)
    (attempt : Attempt α) :
    Prop where
  grows :
    Grows before attempt.session
  untouched :
    ∀ failure,
      attempt.outcome = .error failure →
      failure.isPassedOver = true →
      Untouched before attempt.session

/-- An attempt that is never passed over. -/
structure IsSteady
    (before : Session)
    (attempt : Attempt α) :
    Prop where
  grows :
    Grows before attempt.session
  taken :
    ∀ failure,
      attempt.outcome = .error failure →
      failure.isPassedOver = false

/-- An attempt of which something comes. -/
structure IsDecisive
    (before : Session)
    (attempt : Attempt Sequel) :
    Prop where
  grows :
    Grows before attempt.session
  something :
    comesToNothing attempt.outcome = false

/--
An attempt for an action that has touched nothing when nothing comes of it,
and that waits for that action only.
-/
structure Spares
    (action : Action)
    (before : Session)
    (attempt : Attempt Sequel) :
    Prop where
  grows :
    Grows before attempt.session
  untouched :
    comesToNothing attempt.outcome = true →
      Untouched before attempt.session
  waits :
    ∀ delay stage,
      attempt.outcome = .ok (.wait delay stage) →
      stage.action? = some action

variable {action : Action} {before : Session}

/-- What is never passed over has touched nothing when it is. -/
theorem IsSteady.isCareful
    {attempt : Attempt α}
    (steady : IsSteady before attempt) :
    IsCareful before attempt where
  grows :=
    steady.grows
  untouched failure failed passedOver := by
    rw [steady.taken failure failed] at passedOver
    cases passedOver

/-- What something comes of has touched nothing when nothing does. -/
theorem IsDecisive.spares
    {attempt : Attempt Sequel}
    (decisive : IsDecisive before attempt) :
    Spares action before attempt where
  grows :=
    decisive.grows
  untouched nothing := by
    rw [decisive.something] at nothing
    cases nothing
  waits delay stage isWait := by
    have something := decisive.something
    simp [isWait, comesToNothing] at something

theorem isCareful_refuse
    (session : Session)
    (failure : Failure) :
    IsCareful session (session.refuse failure : Attempt α) :=
  ⟨.refl session, fun _ _ _ => .refl session⟩

theorem spares_refuse
    (session : Session)
    (failure : Failure) :
    Spares action session (session.refuse failure) where
  grows :=
    .refl session
  untouched _ :=
    .refl session
  waits := by
    rintro _ _ ⟨⟩

theorem spares_finish
    (session : Session)
    (outcome : Outcome) :
    Spares action session (session.succeed (.finish outcome)) where
  grows :=
    .refl session
  untouched _ :=
    .refl session
  waits := by
    rintro _ _ ⟨⟩

theorem spares_wait
    (session : Session)
    (delay : Nat)
    {stage : Stage}
    (same : stage.action? = some action) :
    Spares action session (session.succeed (.wait delay stage)) where
  grows :=
    .refl session
  untouched _ :=
    .refl session
  waits := by
    rintro _ _ ⟨⟩
    exact same

/-- Something comes of what goes on or is completed. -/
theorem isDecisive_ofNext
    {after : Session}
    (grows : Grows before after)
    (next : Option Action) :
    IsDecisive before (after.succeed (.ofNext next)) := by
  refine ⟨grows, ?_⟩
  cases next <;> rfl

/-- Two attempts in a row are not passed over when neither is. -/
theorem IsSteady.andThen
    {attempt : Attempt α}
    {next : Session → α → Attempt β}
    (steady : IsSteady before attempt)
    (nextSteady :
      ∀ result,
        attempt.outcome = .ok result →
        IsSteady attempt.session (next attempt.session result)) :
    IsSteady before (attempt.andThen next) := by
  unfold Attempt.andThen
  split
  · rename_i result succeeded
    have later := nextSteady result succeeded
    exact ⟨steady.grows.trans later.grows, later.taken⟩
  · rename_i failure failed
    refine ⟨steady.grows, ?_⟩
    rintro _ ⟨⟩
    exact steady.taken failure failed

/-- Something comes of an attempt that is never passed over. -/
theorem IsSteady.andThen_decisive
    {attempt : Attempt α}
    {next : Session → α → Attempt Sequel}
    (steady : IsSteady before attempt)
    (nextDecisive :
      ∀ result,
        IsDecisive attempt.session (next attempt.session result)) :
    IsDecisive before (attempt.andThen next) := by
  unfold Attempt.andThen
  split
  · rename_i result _
    have later := nextDecisive result
    exact ⟨steady.grows.trans later.grows, later.something⟩
  · rename_i failure failed
    exact ⟨steady.grows, steady.taken failure failed⟩

/-- Nothing is touched when only the first part can be passed over. -/
theorem IsCareful.andThen_decisive
    {attempt : Attempt α}
    {next : Session → α → Attempt Sequel}
    (careful : IsCareful before attempt)
    (nextDecisive :
      ∀ result,
        IsDecisive attempt.session (next attempt.session result)) :
    Spares action before (attempt.andThen next) := by
  unfold Attempt.andThen
  split
  · rename_i result _
    have later : Spares action attempt.session _ :=
      (nextDecisive result).spares
    have something := (nextDecisive result).something
    refine ⟨careful.grows.trans later.grows, ?_, later.waits⟩
    intro nothing
    rw [something] at nothing
    cases nothing
  · rename_i failure failed
    refine ⟨careful.grows, careful.untouched failure failed, ?_⟩
    rintro _ _ ⟨⟩

end Attempt

open Attempt (IsCareful IsSteady IsDecisive Spares)

/-! ## Effects -/

/-- Showing something to the user is never passed over. -/
theorem isSteady_present
    (session : Session)
    (wiring : Wiring)
    (shown : Presentation) :
    IsSteady session (session.present wiring shown) := by
  refine ⟨grows_present session wiring shown, ?_⟩
  intro failure failed
  change
    Failure.guarded shown.call (wiring.presenter.crash? shown) =
      .error failure at failed
  cases crash : wiring.presenter.crash? shown with
  | none =>
      rw [crash] at failed
      cases failed
  | some reason =>
      rw [crash] at failed
      cases failed
      rfl

/-- Something comes of showing something and being done with it. -/
theorem isDecisive_present
    (session : Session)
    (wiring : Wiring)
    (shown : Presentation) :
    IsDecisive session
      ((session.present wiring shown).andThen
        fun after _ => after.succeed completed) :=
  (isSteady_present session wiring shown).andThen_decisive
    fun _ => Attempt.isDecisive_ofNext (.refl _) none

/-- A write that is passed over touches nothing. -/
theorem isCareful_commit
    (session : Session)
    (wiring : Wiring)
    (path : String)
    (value : Value)
    (depth : Nat) :
    IsCareful session (session.commit wiring path value depth) := by
  refine ⟨grows_commit _ _ _ _ _, ?_⟩
  intro failure failed passedOver
  cases place : Path.stateSegments path with
  | nil =>
      simpa [commit, Store.set, place, refuse] using Untouched.refl session
  | cons segment rest =>
      cases written :
          (Path.assign session.store.state (segment :: rest)
            value).outcome with
      | ok old =>
          simp only [commit, Store.set, place, written] at failed
          cases failed
      | error error =>
          simp only [commit, Store.set, place, written, refuse] at failed
          cases failed
          cases passedOver

/-- A write that names a key is never passed over. -/
theorem isSteady_commit
    (session : Session)
    (wiring : Wiring)
    {path : String}
    (named : Path.stateSegments path ≠ [])
    (value : Value)
    (depth : Nat) :
    IsSteady session (session.commit wiring path value depth) := by
  refine ⟨grows_commit _ _ _ _ _, ?_⟩
  intro failure failed
  cases place : Path.stateSegments path with
  | nil =>
      exact absurd place named
  | cons segment rest =>
      cases written :
          (Path.assign session.store.state (segment :: rest)
            value).outcome with
      | ok old =>
          simp only [commit, Store.set, place, written] at failed
          cases failed
      | error error =>
          simp only [commit, Store.set, place, written, refuse] at failed
          cases failed
          rfl

/-- A write to the root is refused. -/
theorem commit_of_no_key
    (session : Session)
    (wiring : Wiring)
    {path : String}
    (unnamed : Path.stateSegments path = [])
    (value : Value)
    (depth : Nat) :
    session.commit wiring path value depth =
      session.refuse
        (.invalidAction
          ("state path '" ++ path ++ "' does not name a key")) := by
  simp [commit, Store.set, unnamed]

/-- Pages that do not move leave everything as it is. -/
theorem untouched_movePages
    {session : Session}
    {move : PageStack → PageStack × Except Failure α}
    (unmoved : (move session.pages).1 = session.pages) :
    Untouched session (session.movePages move).session := by
  let delivered := (move session.pages).1.deliver
  have emptied :
      Untouched session { session with pages := delivered.1 } := by
    refine ⟨rfl, rfl, ?_, rfl⟩
    simp [delivered, unmoved, PageStack.deliver]
  exact emptied.trans (.foldl_delivered _ delivered.2)

/-- A move of the pages that fails touches nothing. -/
theorem isCareful_movePages
    (session : Session)
    {move : PageStack → PageStack × Except Failure α}
    (unmoved :
      ∀ failure,
        (move session.pages).2 = .error failure →
        (move session.pages).1 = session.pages) :
    IsCareful session (session.movePages move) :=
  ⟨grows_movePages session move, fun failure failed _ =>
    untouched_movePages (unmoved failure failed)⟩

/-- A move of the pages that succeeds is not passed over. -/
theorem isSteady_movePages
    (session : Session)
    {move : PageStack → PageStack × Except Failure α}
    {result : α}
    (succeeds : (move session.pages).2 = .ok result) :
    IsSteady session (session.movePages move) := by
  refine ⟨grows_movePages session move, ?_⟩
  intro failure failed
  have outcome :
      (session.movePages move).outcome = (move session.pages).2 :=
    rfl
  rw [outcome, succeeds] at failed
  cases failed

/-! ## Actions -/

variable {action : Action}

theorem spares_goTo
    (session : Session)
    (wiring : Wiring)
    {move : PageStack → PageStack × Except Failure Unit}
    (unmoved :
      ∀ failure,
        (move session.pages).2 = .error failure →
        (move session.pages).1 = session.pages)
    (pageId : String)
    (params : Entries Value) :
    Spares action session (session.goTo wiring move pageId params) :=
  (isCareful_movePages session unmoved).andThen_decisive
    fun _ => isDecisive_present _ wiring _

/-- Starting over checks the page before it writes the tab. -/
theorem isCareful_startOver
    (session : Session)
    (wiring : Wiring)
    (tab : Nat)
    (pageId : String)
    (params : Entries Value)
    (depth : Nat) :
    IsCareful session
      (session.startOver wiring tab pageId params depth) := by
  unfold startOver
  split
  · exact Attempt.isCareful_refuse session _
  · rename_i page found
    -- Neither step can be passed over: the tab has a key, the page is there.
    have named : Path.stateSegments Store.tabKey ≠ [] := by
      simp [Path.stateSegments_eq_nil_iff, Store.tabKey]
    have written :=
      isSteady_commit session wiring named (.ofNat tab) depth
    have stillFound :
        (session.commit wiring Store.tabKey (.ofNat tab)
          depth).session.pages.app.page? pageId = some page := by
      rw [pages_commit]
      exact found
    have moved := PageStack.restart_of_page stillFound params
    exact (written.andThen fun _ _ =>
      isSteady_movePages _ moved).isCareful

theorem spares_reLaunch
    (session : Session)
    (wiring : Wiring)
    (pageId : Option String)
    (params : Entries Value)
    (depth : Nat) :
    Spares action session (session.reLaunch wiring pageId params depth) := by
  unfold reLaunch
  exact
    (isCareful_startOver session wiring 0 _ params
      depth).andThen_decisive
      fun _ => isDecisive_present _ wiring _

theorem spares_navigateBack
    (session : Session)
    (wiring : Wiring)
    (params : Entries Value) :
    Spares action session (session.navigateBack wiring params) := by
  unfold navigateBack
  simp only
  split
  · exact Attempt.spares_finish session _
  · exact
      (isCareful_movePages session
        fun _ => PageStack.pop_of_error).andThen_decisive
        fun _ => isDecisive_present _ wiring _

theorem spares_switchTab
    (session : Session)
    (wiring : Wiring)
    (tabIndex : Option Nat)
    (pageId : Option String)
    (params : Entries Value)
    (depth : Nat) :
    Spares action session
      (session.switchTab wiring tabIndex pageId params depth) := by
  unfold switchTab
  split
  · exact Attempt.spares_refuse session _
  · exact
      (isCareful_startOver session wiring _ _ params
        depth).andThen_decisive
        fun _ => isDecisive_present _ wiring _

theorem spares_showOverlay
    (session : Session)
    (wiring : Wiring)
    (found : Except Failure α)
    (present : α → Presentation) :
    Spares action session (session.showOverlay wiring found present) := by
  unfold showOverlay
  split
  · exact Attempt.spares_refuse session _
  · exact (isDecisive_present session wiring _).spares

theorem spares_showToast
    (session : Session)
    (wiring : Wiring)
    (inline : Option ToastSpec)
    (id : Option String) :
    Spares action session (session.showToast wiring inline id) := by
  unfold showToast
  split
  · exact Attempt.spares_refuse session _
  · exact
      ((isSteady_present session wiring _).andThen_decisive
        fun _ =>
          Attempt.isDecisive_ofNext (grows_armToast _ _) none).spares

/-- Hiding the toast; its timer is cancelled first. -/
theorem spares_hideToast
    (session : Session)
    (wiring : Wiring) :
    Spares action session
      (session.disarmToast.showOverlay wiring (.ok ())
        fun _ => .hideToast) := by
  have shown :=
    isDecisive_present session.disarmToast wiring .hideToast
  exact Attempt.IsDecisive.spares
    ⟨(grows_disarmToast session).trans shown.grows, shown.something⟩

theorem spares_updateState
    (session : Session)
    (wiring : Wiring)
    (path : String)
    (value : Value)
    (depth : Nat) :
    Spares action session
      (session.updateState wiring path value depth) := by
  unfold updateState
  split
  · exact Attempt.spares_refuse session _
  · exact
      (isCareful_commit session _ path value depth).andThen_decisive
        fun _ => isDecisive_present _ wiring _

/-- Every action has touched nothing when nothing comes of it. -/
theorem spares_perform
    (session : Session)
    (wiring : Wiring)
    (action : Action)
    (depth : Nat) :
    Spares action session (session.perform wiring action depth) := by
  unfold perform
  simp only
  split
  · exact spares_goTo session wiring
      (fun _ => PageStack.push_of_error) _ _
  · exact spares_goTo session wiring
      (fun _ => PageStack.replace_of_error) _ _
  · exact spares_reLaunch session wiring _ _ depth
  · exact spares_navigateBack session wiring _
  · exact spares_switchTab session wiring _ _ _ depth
  · exact spares_showOverlay session wiring _ _
  · exact spares_showOverlay session wiring _ _
  · exact spares_showToast session wiring _ _
  · exact spares_hideToast session wiring
  · exact spares_showOverlay session wiring _ _
  · exact spares_showOverlay session wiring _ _
  · exact Attempt.spares_wait session _ rfl
  · exact spares_updateState session wiring _ _ depth
  · exact Attempt.spares_wait session _ rfl
  · exact Attempt.spares_finish session _

/-! ## Answers to requests -/

/-- A session in which a response has come to a task, and is kept. -/
def answered
    (session : Session)
    (ticket : Nat)
    (url : String)
    (response : Value) :
    Session :=
  { session with
    store := session.store.keepResponse url response }.note
      (.responded ticket url response)

/-- A response that is to be written to the root is refused. -/
theorem commitResponse_root
    (session : Session)
    (wiring : Wiring)
    (response : Value)
    (depth : Nat) :
    session.commitResponse wiring (some "/") response depth =
      session.refuse
        (.invalidAction "state path '/' does not name a key") := by
  have unnamed : Path.stateSegments "/" = [] := by
    simp [Path.stateSegments_eq_nil_iff]
  simp [commitResponse, commit_of_no_key session _ unnamed,
    Attempt.andThen, refuse]

/-- Writing a response anywhere else is never passed over. -/
theorem isSteady_commitResponse
    (session : Session)
    (wiring : Wiring)
    {path : Option String}
    (notRoot : path ≠ some "/")
    (response : Value)
    (depth : Nat) :
    IsSteady session
      (session.commitResponse wiring path response depth) := by
  unfold commitResponse
  split
  · exact ⟨.refl session, by rintro _ ⟨⟩⟩
  · split
    · exact ⟨.refl session, by rintro _ ⟨⟩⟩
    · rename_i target nonempty
      have named : Path.stateSegments target ≠ [] := by
        simp_all [Path.stateSegments_eq_nil_iff]
      have written :=
        isSteady_commit session wiring named response depth
      exact written.andThen fun _ _ => ⟨.refl _, by rintro _ ⟨⟩⟩

section

variable {session : Session} {wiring : Wiring}
variable {url method : String} {data : Option Value}
variable {headers : Entries String} {onSuccess : Option Action}
variable {responsePath : Option String}

/-- A request that has failed touches nothing by itself. -/
theorem receive_of_failure
    (ticket : Nat)
    {failure : Failure}
    (isRequest :
      action.kind =
        .request url method data headers onSuccess responsePath)
    (failed :
      (session.networkOf wiring.line).answer url data = .error failure)
    (depth : Nat) :
    session.receive ticket wiring action depth =
      session.refuse failure := by
  simp [receive, isRequest, failed]

/-- A response is kept before it is written. -/
theorem receive_of_response
    (ticket : Nat)
    {response : Value}
    (isRequest :
      action.kind =
        .request url method data headers onSuccess responsePath)
    (succeeded :
      (session.networkOf wiring.line).answer url data = .ok response)
    (depth : Nat) :
    session.receive ticket wiring action depth =
      ((session.answered ticket url response).commitResponse wiring
        responsePath response depth).andThen
        fun written _ =>
          written.succeed
            (.ofNext (onSuccess.map fun next =>
              next.withParam "response" response)) := by
  simp [receive, isRequest, succeeded, answered]

/-- A response whose path is the root is kept, and then passed over. -/
theorem receive_of_response_root
    (ticket : Nat)
    {response : Value}
    (isRequest :
      action.kind =
        .request url method data headers onSuccess (some "/"))
    (succeeded :
      (session.networkOf wiring.line).answer url data = .ok response)
    (depth : Nat) :
    session.receive ticket wiring action depth =
      (session.answered ticket url response).refuse
        (.invalidAction "state path '/' does not name a key") := by
  rw [receive_of_response ticket isRequest succeeded depth,
    commitResponse_root]
  rfl

/-- Something comes of a response whose path is not the root. -/
theorem isDecisive_receive
    (ticket : Nat)
    {response : Value}
    (isRequest :
      action.kind =
        .request url method data headers onSuccess responsePath)
    (notRoot : responsePath ≠ some "/")
    (succeeded :
      (session.networkOf wiring.line).answer url data = .ok response)
    (depth : Nat) :
    IsDecisive (session.answered ticket url response)
      (session.receive ticket wiring action depth) := by
  rw [receive_of_response ticket isRequest succeeded depth]
  exact
    (isSteady_commitResponse _ wiring notRoot response
      depth).andThen_decisive
      fun _ => Attempt.isDecisive_ofNext (.refl _) _

end

end Session

end Mockup
