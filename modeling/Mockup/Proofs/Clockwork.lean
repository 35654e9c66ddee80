import Mathlib.Algebra.Group.Nat.Defs
import Mockup.Clockwork

namespace Mockup

namespace Clockwork

/-!
# What runs keep and where they end

What every step and every jump of the clock keeps is kept by a run, however
much fuel the run takes.  A run comes to rest when every step and every jump
makes less of some measure, and the effort of the state covers it.  Where the
steps up to rest are known one by one, the run is known.
-/

variable
  {σ : Type}
  {clockwork : Clockwork σ}
  {mayMove : σ → Nat → Bool}

/-! ## What is kept -/

section

variable
  {Kept : σ → Prop}
  (stepped :
    ∀ state next,
      Kept state → clockwork.step? state = some next → Kept next)

section

variable
  (jumped :
    ∀ state deadline,
      Kept state →
      clockwork.step? state = none →
      clockwork.deadline? state = some deadline →
      mayMove state deadline = true →
      Kept (clockwork.moveTo deadline state))
include stepped jumped

theorem kept_runWithin
    (fuel : Nat)
    {state : σ}
    (kept : Kept state) :
    Kept (clockwork.runWithin mayMove fuel state) := by
  induction fuel generalizing state with
  | zero =>
      exact kept
  | succ fuel inductionHypothesis =>
      unfold runWithin
      split
      · rename_i next isNext
        exact inductionHypothesis (stepped _ _ kept isNext)
      · rename_i noStep
        split
        · rename_i deadline isDeadline
          split
          · rename_i moves
            exact inductionHypothesis
              (jumped _ _ kept noStep isDeadline moves)
          · exact kept
        · exact kept

theorem kept_runDoubling
    (rounds fuel : Nat)
    {state : σ}
    (kept : Kept state) :
    Kept (clockwork.runDoubling mayMove rounds fuel state) := by
  induction rounds generalizing fuel state with
  | zero =>
      exact kept_runWithin stepped jumped fuel kept
  | succ rounds inductionHypothesis =>
      have ran := kept_runWithin stepped jumped fuel kept
      unfold runDoubling
      simp only
      split
      · exact ran
      · exact inductionHypothesis (2 * fuel) ran

/-- What steps and jumps keep is kept by a run. -/
theorem kept_run
    {state : σ}
    (kept : Kept state) :
    Kept (clockwork.run mayMove state) :=
  kept_runDoubling stepped jumped _ _ kept

end

include stepped in
/-- What steps and moves keep is kept by running up to a time. -/
theorem kept_runTo
    (moved : ∀ state time, Kept state → Kept (clockwork.moveTo time state))
    (time : Nat)
    {state : σ}
    (kept : Kept state) :
    Kept (clockwork.runTo time state) :=
  moved _ _
    (kept_run stepped (fun _ deadline kept _ _ _ => moved _ deadline kept)
      kept)

end

/-! ## Coming to rest -/

section

variable
  {measure : σ → Nat}
  (stepped :
    ∀ state next,
      clockwork.step? state = some next → measure next < measure state)
  (jumped :
    ∀ state deadline,
      clockwork.step? state = none →
      clockwork.deadline? state = some deadline →
      measure (clockwork.moveTo deadline state) < measure state)
include stepped jumped

/-- With as much fuel as the measure says, a run comes to rest. -/
theorem isAtRest_runWithin
    {fuel : Nat}
    {state : σ}
    (enough : measure state ≤ fuel) :
    clockwork.isAtRest mayMove
      (clockwork.runWithin mayMove fuel state) = true := by
  induction fuel generalizing state with
  | zero =>
      unfold runWithin isAtRest
      cases isStep : clockwork.step? state with
      | some next =>
          have less := stepped _ _ isStep
          omega
      | none =>
          cases isDeadline : clockwork.deadline? state with
          | some deadline =>
              have less := jumped _ _ isStep isDeadline
              omega
          | none =>
              rfl
  | succ fuel inductionHypothesis =>
      unfold runWithin
      split
      · rename_i next isStep
        have less := stepped _ _ isStep
        exact inductionHypothesis (by omega)
      · rename_i noStep
        split
        · rename_i deadline isDeadline
          split
          · have less := jumped _ _ noStep isDeadline
            exact inductionHypothesis (by omega)
          · rename_i stays
            simp [isAtRest, noStep, isDeadline, stays]
        · rename_i noDeadline
          simp [isAtRest, noStep, noDeadline]

theorem isAtRest_runDoubling
    {rounds fuel : Nat}
    {state : σ}
    (enough : measure state ≤ 2 ^ rounds * fuel) :
    clockwork.isAtRest mayMove
      (clockwork.runDoubling mayMove rounds fuel state) = true := by
  induction rounds generalizing fuel state with
  | zero =>
      exact isAtRest_runWithin stepped jumped (by simpa using enough)
  | succ rounds inductionHypothesis =>
      -- The fuel that is spent in vain is not missed later.
      have less :
          measure (clockwork.runWithin mayMove fuel state) ≤
            measure state :=
        kept_runWithin
          (fun _ _ kept isStep =>
            Nat.le_trans (Nat.le_of_lt (stepped _ _ isStep)) kept)
          (fun _ _ kept noStep isDeadline _ =>
            Nat.le_trans (Nat.le_of_lt (jumped _ _ noStep isDeadline))
              kept)
          fuel (Nat.le_refl _)
      have more : 2 ^ (rounds + 1) * fuel = 2 ^ rounds * (2 * fuel) := by
        rw [Nat.pow_succ, Nat.mul_assoc]
      unfold runDoubling
      simp only
      split
      · assumption
      · exact inductionHypothesis
          (Nat.le_trans less (more ▸ enough))

/-- A run comes to rest when its effort covers the measure. -/
theorem isAtRest_run
    {state : σ}
    (covered : measure state ≤ 2 ^ clockwork.effort state) :
    clockwork.isAtRest mayMove (clockwork.run mayMove state) = true :=
  isAtRest_runDoubling stepped jumped (by simpa using covered)

end

/-! ## Runs of known length -/

/-- A state at rest stays as it is. -/
theorem runWithin_of_isAtRest
    {state : σ}
    (rests : clockwork.isAtRest mayMove state = true)
    (fuel : Nat) :
    clockwork.runWithin mayMove fuel state = state := by
  cases fuel with
  | zero =>
      rfl
  | succ fuel =>
      unfold isAtRest at rests
      unfold runWithin
      cases isStep : clockwork.step? state with
      | some next =>
          simp [isStep] at rests
      | none =>
          cases isDeadline : clockwork.deadline? state with
          | none =>
              rfl
          | some deadline =>
              simp [isStep, isDeadline] at rests
              simp [rests]

/-- At most so many steps and jumps lead from a state to one at rest. -/
inductive ComesToRest
    (clockwork : Clockwork σ)
    (mayMove : σ → Nat → Bool) : Nat → σ → σ → Prop where
  | rested
      {count : Nat}
      {state : σ} :
      clockwork.isAtRest mayMove state = true →
      ComesToRest clockwork mayMove count state state
  | stepped
      {count : Nat}
      {state next last : σ} :
      clockwork.step? state = some next →
      ComesToRest clockwork mayMove count next last →
      ComesToRest clockwork mayMove (count + 1) state last
  | jumped
      {count deadline : Nat}
      {state last : σ} :
      clockwork.step? state = none →
      clockwork.deadline? state = some deadline →
      mayMove state deadline = true →
      ComesToRest clockwork mayMove count
        (clockwork.moveTo deadline state) last →
      ComesToRest clockwork mayMove (count + 1) state last

namespace ComesToRest

variable {count : Nat} {state last : σ}

theorem eq_of_isAtRest
    (comes : ComesToRest clockwork mayMove count state last)
    (rests : clockwork.isAtRest mayMove state = true) :
    last = state := by
  cases comes with
  | rested _ =>
      rfl
  | stepped isStep _ =>
      simp [isAtRest, isStep] at rests
  | jumped noStep isDeadline moves _ =>
      simp [isAtRest, noStep, isDeadline, moves] at rests

/-- Fuel takes a run on its way, and the rest of the way is left. -/
theorem runWithin
    (comes : ComesToRest clockwork mayMove count state last)
    (fuel : Nat) :
    ComesToRest clockwork mayMove (count - fuel)
      (clockwork.runWithin mayMove fuel state) last := by
  induction fuel generalizing count state with
  | zero =>
      exact comes
  | succ fuel inductionHypothesis =>
      cases comes with
      | rested rests =>
          rw [runWithin_of_isAtRest rests]
          exact .rested rests
      | stepped isStep comes =>
          simp only [Clockwork.runWithin, isStep, Nat.add_sub_add_right]
          exact inductionHypothesis comes
      | jumped noStep isDeadline moves comes =>
          simp only [Clockwork.runWithin, noStep, isDeadline, moves, if_true,
            Nat.add_sub_add_right]
          exact inductionHypothesis comes

theorem runDoubling
    {rounds fuel : Nat}
    (comes : ComesToRest clockwork mayMove count state last)
    (enough : count ≤ 2 ^ rounds * fuel) :
    clockwork.runDoubling mayMove rounds fuel state = last := by
  induction rounds generalizing count fuel state with
  | zero =>
      have left := comes.runWithin fuel
      have none : count - fuel = 0 := by
        omega
      rw [none] at left
      cases left
      rfl
  | succ rounds inductionHypothesis =>
      have left := comes.runWithin fuel
      have more : 2 ^ (rounds + 1) * fuel = 2 ^ rounds * (2 * fuel) := by
        rw [Nat.pow_succ, Nat.mul_assoc]
      unfold Clockwork.runDoubling
      simp only
      split
      · rename_i rests
        exact (left.eq_of_isAtRest rests).symm
      · exact inductionHypothesis left (by omega)

/-- A run ends where its state comes to rest, if the effort suffices. -/
theorem run
    (comes : ComesToRest clockwork mayMove count state last)
    (enough : count ≤ 2 ^ clockwork.effort state) :
    clockwork.run mayMove state = last :=
  comes.runDoubling (by simpa using enough)

end ComesToRest

end Clockwork

end Mockup
