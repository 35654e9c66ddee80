import Mockup.Proofs.Session.PassedOver

namespace Mockup

/-!
# How a task gets on

A task takes its action from stage to stage.  As long as nothing has come of
the action, the task has touched nothing; once something has come of it, the
outcome is clear, and whatever follows does not change it.
-/

/-- The action is a request whose response is written at a path. -/
def Action.RequestsInto
    (action : Action)
    (url path : String) :
    Prop :=
  ∃ method data headers onSuccess,
    action.kind =
      .request url method data headers onSuccess (some path)

namespace Session

/-- Whether a task has been passed over, or has yet to wait. -/
def Progress.isUndecided : Progress → Bool
  | .ended outcome =>
      outcome = .skipped
  | .follow _ _ =>
      false
  | .wait _ _ =>
      true

/-- A task is undecided when nothing has come of its action. -/
theorem isUndecided_conclude
    (action : Action)
    (depth : Nat)
    (outcome : Except Failure Sequel) :
    (conclude action depth outcome).isUndecided =
      comesToNothing outcome := by
  unfold conclude
  split
  · rfl
  · rfl
  · rfl
  · rename_i failure
    split
    · rename_i passedOver
      simp [Progress.isUndecided, comesToNothing, passedOver]
    · rename_i taken
      split <;> simp [Progress.isUndecided, comesToNothing, taken]

/-- A task that goes on with a further action was not passed over. -/
theorem ne_skipped_of_conclude_eq_follow
    {action : Action}
    {depth : Nat}
    {outcome : Except Failure Sequel}
    {clear : Outcome}
    {next : Stage}
    (follows : conclude action depth outcome = .follow clear next) :
    clear ≠ .skipped := by
  unfold conclude at follows
  split at follows
  · cases follows
  · cases follows
    decide
  · cases follows
  · split at follows
    · cases follows
    · split at follows
      · cases follows
        decide
      · cases follows

/-- A task waits when the attempt for its action says so. -/
theorem eq_wait_of_conclude_eq_wait
    {action : Action}
    {depth : Nat}
    {outcome : Except Failure Sequel}
    {delay : Nat}
    {next : Stage}
    (waits : conclude action depth outcome = .wait delay next) :
    outcome = .ok (.wait delay next) := by
  unfold conclude at waits
  split at waits
  · cases waits
  · cases waits
  · cases waits
    rfl
  · split at waits
    · cases waits
    · split at waits <;> cases waits

/-! ## One stage -/

/--
The session that a stage of a task goes on from: the present one, or the one
with the response to its request.  A task is passed over with its response
kept when the response was to be written to the root.
-/
inductive Basis
    (session : Session)
    (ticket : Nat)
    (stage : Stage) : Progress → Session → Prop where
  | present
      {progress : Progress} :
      Basis session ticket stage progress session
  | kept
      {progress : Progress}
      {url : String}
      {response : Value} :
      progress.isUndecided = false →
      Basis session ticket stage progress
        (session.answered ticket url response)
  | dropped
      {action : Action}
      {url : String}
      {response : Value} :
      stage.action? = some action →
      action.RequestsInto url "/" →
      Basis session ticket stage (.ended .skipped)
        (session.answered ticket url response)

/-- What a stage does to a session, and what becomes of its task. -/
structure StageSpec
    (session : Session)
    (ticket : Nat)
    (stage : Stage)
    (after : Session)
    (progress : Progress) :
    Prop where
  basis :
    ∃ base,
      Basis session ticket stage progress base ∧
        Grows base after ∧
        (progress.isUndecided = true → Untouched base after)
  follows :
    ∀ outcome next,
      progress = .follow outcome next → outcome ≠ .skipped
  waits :
    ∀ delay next,
      progress = .wait delay next → next.action? = stage.action?

theorem StageSpec.ended
    (session : Session)
    (ticket : Nat)
    (stage : Stage)
    (outcome : Outcome) :
    StageSpec session ticket stage session (.ended outcome) where
  basis :=
    ⟨session, .present, .refl session, fun _ => .refl session⟩
  follows := by
    rintro _ _ ⟨⟩
  waits := by
    rintro _ _ ⟨⟩

/-- A stage that concludes from an attempt. -/
theorem StageSpec.concluded
    {session base : Session}
    {ticket : Nat}
    {stage : Stage}
    {action : Action}
    {depth : Nat}
    {attempt : Attempt Sequel}
    (isAction : stage.action? = some action)
    (basis :
      Basis session ticket stage
        (conclude action depth attempt.outcome) base)
    (spares : attempt.Spares action base) :
    StageSpec session ticket stage attempt.session
      (conclude action depth attempt.outcome) where
  basis := by
    refine ⟨base, basis, spares.grows, ?_⟩
    rw [isUndecided_conclude]
    exact spares.untouched
  follows _ _ :=
    ne_skipped_of_conclude_eq_follow
  waits delay next isWait := by
    rw [isAction]
    exact spares.waits delay next (eq_wait_of_conclude_eq_wait isWait)

theorem Attempt.Spares.of_note
    {session : Session}
    {occurrence : Occurrence}
    {action : Action}
    {attempt : Attempt Sequel}
    (noReport : occurrence.isReport = false)
    (showsNothing : occurrence.shown? = none)
    (spares : attempt.Spares action (session.note occurrence)) :
    attempt.Spares action session where
  grows :=
    (Grows.note session noReport).trans spares.grows
  untouched nothing :=
    (Untouched.note session showsNothing).trans
      (spares.untouched nothing)
  waits :=
    spares.waits

/-- What becomes of a task whose request has been answered. -/
theorem stageSpec_answered
    (session : Session)
    (ticket : Nat)
    (wiring : Wiring)
    (action : Action)
    (depth : Nat) :
    StageSpec session ticket (.answered wiring action depth)
      (session.receive ticket wiring action depth).session
      (conclude action depth
        (session.receive ticket wiring action depth).outcome) := by
  cases kind : action.kind with
  | request url method data headers onSuccess responsePath =>
      cases answer :
          (session.networkOf wiring.line).answer url data with
      | error failure =>
          rw [receive_of_failure ticket kind answer depth]
          exact .concluded rfl .present (Attempt.spares_refuse _ _)
      | ok response =>
          by_cases atRoot : responsePath = some "/"
          · subst atRoot
            rw [receive_of_response_root ticket kind answer depth]
            have requests : action.RequestsInto url "/" :=
              ⟨method, data, headers, onSuccess, kind⟩
            exact .concluded rfl (.dropped rfl requests)
              (Attempt.spares_refuse _ _)
          · have decisive :=
              isDecisive_receive ticket kind atRoot answer depth
            refine .concluded rfl (.kept ?_) decisive.spares
            rw [isUndecided_conclude]
            exact decisive.something
  | _ =>
      simp only [receive, kind]
      exact .concluded rfl .present (Attempt.spares_finish _ _)

/-- What a stage does to a session, and what becomes of its task. -/
theorem stageSpec_advanceStage
    (session : Session)
    (ticket : Nat)
    (stage : Stage) :
    StageSpec session ticket stage
      (session.advanceStage ticket stage).1
      (session.advanceStage ticket stage).2 := by
  cases stage with
  | start action depth =>
      simp only [advanceStage]
      split
      · exact .ended session ticket _ .failed
      · split
        · exact .ended session ticket _ .skipped
        · rename_i wiring _
          have spares :=
            spares_perform
              (session.note (.performed ticket action depth))
              wiring action depth
          exact .concluded rfl .present (spares.of_note rfl rfl)
  | answered wiring action depth =>
      exact stageSpec_answered session ticket wiring action depth
  | rested action depth =>
      have decisive :=
        Attempt.isDecisive_ofNext (.refl session)
          action.kind.followUp?
      exact .concluded rfl .present decisive.spares
  | void =>
      exact .ended session ticket _ .skipped

end Session

end Mockup
