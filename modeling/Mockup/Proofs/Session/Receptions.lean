import Mockup.Proofs.Session.Footprint
import Mockup.Proofs.Store.ReadBack

namespace Mockup

/-!
# Answered requests

When the answer to a request has come, its response is kept, and written where
the request wants it.  The request fails if there is no response, or if the
response cannot be written.  What follows the request is told the one or the
other.
-/

namespace Session

/-- The answer to a request has come to its task. -/
structure Reception where
  ticket : Nat
  action : Action
  depth : Nat
  /-- What the network has answered. -/
  answer : Except Failure Value
  before : Store
  after : Store

/-! ## What follows a request -/

namespace Reception

/-- A request fails: it is not answered, or the response is not written. -/
inductive FailsWith
    (reception : Reception) : Failure → Prop where
  | unanswered
      {failure : Failure} :
      reception.answer = .error failure →
      FailsWith reception failure
  | unwritten
      {url path : String}
      {response : Value}
      {failure : Failure} :
      reception.action.kind.url? = some url →
      reception.action.kind.responsePath? = some path →
      reception.answer = .ok response →
      ((reception.before.keepResponse url response).set path
        response).2 = .error failure →
      FailsWith reception failure

/-- A request succeeds: its response is kept, and written where it wants. -/
structure SucceedsWith
    (reception : Reception)
    (response : Value) :
    Prop where
  answer :
    reception.answer = .ok response
  kept :
    ∀ url, reception.action.kind.url? = some url →
      reception.after.response? url = some response
  written :
    ∀ path, reception.action.kind.responsePath? = some path →
      reception.after.get? path = some response

/-- An action follows a request that has been answered. -/
inductive LeadsTo
    (reception : Reception) : Action → Prop where
  | succeeded
      {response : Value}
      {next : Action} :
      reception.action.kind.followUp? = some next →
      reception.SucceedsWith response →
      LeadsTo reception (next.withParam "response" response)
  | failed
      {failure : Failure}
      {fallback : Action} :
      reception.action.onError = some fallback →
      reception.FailsWith failure →
      LeadsTo reception
        (fallback.withParam "error" (.string failure.explanation))

/-- How an attempt to go on with an answered request ends. -/
inductive Ends
    (reception : Reception) : Except Failure Sequel → Prop where
  | failed
      {failure : Failure} :
      reception.FailsWith failure →
      Ends reception (.error failure)
  | succeeded
      {response : Value} :
      reception.SucceedsWith response →
      Ends reception
        (.ok (.ofNext (reception.action.kind.followUp?.map fun next =>
          next.withParam "response" response)))

/-- What follows an answered request does so by its answer. -/
theorem Ends.leadsTo
    {reception : Reception}
    {result : Except Failure Sequel}
    (ends : reception.Ends result)
    {depth : Nat}
    {stage : Stage}
    (goesOn :
      (conclude reception.action depth result).stage? = some stage) :
    ∃ next,
      stage = .start next (depth + 1) ∧ reception.LeadsTo next := by
  cases ends with
  | failed fails =>
      simp only [conclude] at goesOn
      split at goesOn
      · cases goesOn
      · split at goesOn
        · rename_i isFallback
          cases goesOn
          exact ⟨_, rfl, .failed isFallback fails⟩
        · cases goesOn
  | succeeded succeeds =>
      cases isNext : reception.action.kind.followUp? with
      | none =>
          simp only [isNext] at goesOn
          cases goesOn
      | some next =>
          simp only [isNext] at goesOn
          cases goesOn
          exact ⟨_, rfl, .succeeded isNext succeeds⟩

end Reception

/-! ## Answers -/

/-- Writing a response is setting it, if there is a path for it. -/
theorem commitResponse_spec
    (session : Session)
    (wiring : Wiring)
    (path : Option String)
    (response : Value)
    (depth : Nat) :
    let attempt :=
      session.commitResponse wiring path response depth
    match path.filter (· ≠ "") with
    | none =>
        attempt.session.store = session.store ∧ attempt.outcome = .ok ()
    | some target =>
        attempt.session.store =
            (session.store.set target response).1 ∧
          attempt.outcome =
            (session.store.set target response).2.map fun _ => () := by
  intro attempt
  cases path with
  | none =>
      exact ⟨rfl, rfl⟩
  | some target =>
      by_cases isEmpty : target = ""
      · subst isEmpty
        exact ⟨rfl, rfl⟩
      · obtain ⟨store, outcome⟩ :=
          commit_eq_set session wiring target response depth
        simp only [attempt, commitResponse, isEmpty, if_false,
          Option.filter_some, ne_eq, not_false_eq_true, decide_true,
          if_true, Attempt.andThen, outcome]
        cases result : (session.store.set target response).2 with
        | error failure =>
            exact ⟨store, rfl⟩
        | ok write =>
            exact ⟨store, rfl⟩

/-- An attempt that ends with a success ends as far as it went. -/
theorem Attempt.andThen_succeed
    (attempt : Attempt α)
    (result : α → β) :
    (attempt.andThen fun after value => after.succeed (result value)) =
      ⟨attempt.session, attempt.outcome.map result⟩ := by
  unfold Attempt.andThen
  split
  · rename_i value succeeds
    rw [succeeds]
    rfl
  · rename_i failure fails
    rw [fails]
    rfl

section

variable {url method : String} {data : Option Value}
variable {headers : Entries String} {onSuccess : Option Action}
variable {path : Option String} {action : Action}
variable (isRequest :
  action.kind = .request url method data headers onSuccess path)
include isRequest

/-- A response is kept, and then its request wants it written. -/
theorem receive_eq_commitResponse
    {session : Session}
    {wiring : Wiring}
    {response : Value}
    (answers :
      (session.networkOf wiring.line).answer url data = .ok response)
    (ticket depth : Nat) :
    let committed :=
      (session.answered ticket url response).commitResponse wiring path
        response depth
    session.receive ticket wiring action depth =
      ⟨committed.session,
        committed.outcome.map fun _ =>
          .ofNext (onSuccess.map fun next =>
            next.withParam "response" response)⟩ := by
  rw [receive_of_response ticket isRequest answers depth]
  exact Attempt.andThen_succeed _ _

/-- A request that is answered fails or succeeds by its own answer. -/
theorem ends_receive
    (session : Session)
    (ticket : Nat)
    (wiring : Wiring)
    (depth : Nat) :
    let attempt := session.receive ticket wiring action depth
    Reception.Ends
      { ticket := ticket,
        action := action,
        depth := depth,
        answer := (session.networkOf wiring.line).answer url data,
        before := session.store,
        after := attempt.session.store }
      attempt.outcome := by
  intro attempt
  have isUrl : action.kind.url? = some url := by
    rw [isRequest]
    rfl
  have isPath :
      action.kind.responsePath? = path.filter (· ≠ "") := by
    rw [isRequest]
    rfl
  cases answers : (session.networkOf wiring.line).answer url data with
  | error failure =>
      have fails : attempt = session.refuse failure :=
        receive_of_failure ticket isRequest answers depth
      rw [fails]
      exact .failed (.unanswered rfl)
  | ok response =>
      have isNext : action.kind.followUp? = onSuccess := by
        rw [isRequest]
        rfl
      let base := session.answered ticket url response
      have isKept : base.store.response? url = some response :=
        Entries.get?_insert_same _ _ _
      have spec := commitResponse_spec base wiring path response depth
      have receives :=
        receive_eq_commitResponse isRequest answers ticket depth
      simp only [attempt, receives]
      generalize base.commitResponse wiring path response depth =
        committed at spec
      rw [← isNext]
      cases target : path.filter (· ≠ "") with
      | none =>
          simp only [target] at spec
          rw [spec.2]
          refine .succeeded ⟨rfl, ?_, ?_⟩
          · intro other isOther
            cases isUrl.symm.trans isOther
            exact (congrArg (·.response? url) spec.1).trans isKept
          · intro other isOther
            rw [isPath, target] at isOther
            cases isOther
      | some place =>
          simp only [target] at spec
          rw [spec.2]
          cases sets : (base.store.set place response).2 with
          | error failure =>
              exact .failed
                (.unwritten isUrl (isPath.trans target) rfl sets)
          | ok write =>
              refine .succeeded ⟨rfl, ?_, ?_⟩
              · intro other isOther
                cases isUrl.symm.trans isOther
                simp only [spec.1]
                rw [Store.set_eq]
                exact isKept
              · intro other isOther
                cases (isPath.trans target).symm.trans isOther
                simp only [spec.1]
                exact Store.get?_of_set sets

/-- The response is all that comes to the responses that are kept. -/
theorem responses_receive
    (session : Session)
    (ticket : Nat)
    (wiring : Wiring)
    (depth : Nat) :
    (session.receive ticket wiring action depth).session.store.responses =
      match (session.networkOf wiring.line).answer url data with
      | .error _ =>
          session.store.responses
      | .ok response =>
          Entries.insert session.store.responses url response := by
  cases answers : (session.networkOf wiring.line).answer url data with
  | error failure =>
      rw [receive_of_failure ticket isRequest answers depth]
      rfl
  | ok response =>
      rw [receive_eq_commitResponse isRequest answers ticket depth]
      have spec :=
        commitResponse_spec (session.answered ticket url response) wiring
          path response depth
      simp only
      split at spec
      · rw [spec.1]
        rfl
      · rw [spec.1, Store.set_eq]
        rfl

end

/-! ## What is kept -/

/-- Responses come with the answers to requests only. -/
theorem responses_perform
    (session : Session)
    (wiring : Wiring)
    (action : Action)
    (depth : Nat) :
    (session.perform wiring action depth).session.store.responses =
      session.store.responses := by
  cases isUrl : action.kind.url? with
  | none =>
      have isKind : (fun kind => kind = action.kind) action.kind :=
        rfl
      exact (treads_perform session wiring isKind depth).responses
        fun kind same => same ▸ isUrl
  | some url =>
      unfold perform
      cases kind : action.kind with
      | request url method data headers onSuccess path =>
          rfl
      | _ =>
          simp [kind, ActionKind.url?] at isUrl

end Session

end Mockup
