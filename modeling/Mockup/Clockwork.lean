namespace Mockup

/-!
# Clockwork

A state that runs by itself: it takes steps as long as it can, and when it
rests, its clock may jump to the next deadline.  A run is given fuel for a
few steps, and twice as much again and again until it has come to rest.  The
effort of a state says how often that may be needed.
-/

/-- How a kind of state runs. -/
structure Clockwork (σ : Type) where
  /-- One step, unless there is nothing to do. -/
  step? : σ → Option σ
  /-- The next deadline. -/
  deadline? : σ → Option Nat
  /-- Move the clock. -/
  moveTo : Nat → σ → σ
  /-- Fewer than `2 ^ effort` steps and jumps are left. -/
  effort : σ → Nat

namespace Clockwork

variable {σ : Type}

/-- Step, and jump while the clock may move, at most `fuel` times. -/
def runWithin
    (clockwork : Clockwork σ)
    (mayMove : σ → Nat → Bool) :
    Nat → σ → σ
  | 0, state =>
      state
  | fuel + 1, state =>
      match clockwork.step? state with
      | some next =>
          runWithin clockwork mayMove fuel next
      | none =>
          match clockwork.deadline? state with
          | some deadline =>
              if mayMove state deadline then
                runWithin clockwork mayMove fuel
                  (clockwork.moveTo deadline state)
              else
                state
          | none =>
              state

/-- Whether nothing is to be done before the clock may move. -/
def isAtRest
    (clockwork : Clockwork σ)
    (mayMove : σ → Nat → Bool)
    (state : σ) :
    Bool :=
  (clockwork.step? state).isNone &&
    match clockwork.deadline? state with
    | some deadline =>
        !mayMove state deadline
    | none =>
        true

/-- Run with `fuel`, and with twice as much while that does not suffice. -/
def runDoubling
    (clockwork : Clockwork σ)
    (mayMove : σ → Nat → Bool) :
    Nat → Nat → σ → σ
  | 0, fuel, state =>
      clockwork.runWithin mayMove fuel state
  | rounds + 1, fuel, state =>
      let after := clockwork.runWithin mayMove fuel state
      if clockwork.isAtRest mayMove after then
        after
      else
        runDoubling clockwork mayMove rounds (2 * fuel) after

/-- Run as long as there is work and the clock may move to the next. -/
def run
    (clockwork : Clockwork σ)
    (mayMove : σ → Nat → Bool)
    (state : σ) :
    σ :=
  clockwork.runDoubling mayMove (clockwork.effort state) 1 state

/-- Run until the state rests; the clock stands still. -/
def settle
    (clockwork : Clockwork σ)
    (state : σ) :
    σ :=
  clockwork.run (fun _ _ => false) state

/-- Run everything that is due up to a time, and move the clock there. -/
def runTo
    (clockwork : Clockwork σ)
    (time : Nat)
    (state : σ) :
    σ :=
  clockwork.moveTo time
    (clockwork.run (fun _ deadline => decide (deadline ≤ time)) state)

/-- Run until something has come about and the state rests. -/
def runUntil
    (clockwork : Clockwork σ)
    (reached : σ → Bool)
    (state : σ) :
    σ :=
  clockwork.run (fun current _ => !reached current) state

end Clockwork

end Mockup
