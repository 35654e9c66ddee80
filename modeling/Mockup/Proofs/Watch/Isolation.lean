import Mockup.Proofs.Watch.Running

namespace Mockup

/-!
# Watchers of different keys

Two runs of a watch differ in operations that add or remove watchers of other
keys only.  Step by step the lanes of the key are the same in both runs, so
the watchers of the key fire alike: at the same times, on the same changes and
with the same contexts.
-/

namespace WatchOperation

/-- An operation adds or removes one watcher, of another key. -/
def IsForeign
    (key : TriggerKey) :
    WatchOperation → Prop
  | .add path config _ =>
      .ofConfig (Path.normalize path) config ≠ key
  | .remove path config =>
      .ofConfig (Path.normalize path) config ≠ key
  | _ =>
      False

/-- Some additions and removals of watchers of other keys are left out. -/
inductive LeavesOut
    (key : TriggerKey) :
    List WatchOperation → List WatchOperation → Prop where
  | none :
      LeavesOut key [] []
  | keep
      {operations fewer : List WatchOperation}
      (operation : WatchOperation) :
      LeavesOut key operations fewer →
      LeavesOut key (operation :: operations) (operation :: fewer)
  | leave
      {operation : WatchOperation}
      {operations fewer : List WatchOperation} :
      operation.IsForeign key →
      LeavesOut key operations fewer →
      LeavesOut key (operation :: operations) fewer

end WatchOperation

namespace TimedWatch

/-- What the watchers of a key fired, and when. -/
def firingsOf
    (timed : TimedWatch)
    (key : TriggerKey) :
    List LoggedFiring :=
  timed.log.filter fun logged => logged.firing.key = key

/-- An operation does to the lane of a key what it does to it alone. -/
theorem lane_perform
    {timed : TimedWatch}
    (consistent : timed.IsConsistent)
    (key : TriggerKey)
    (operation : WatchOperation) :
    (timed.perform operation).lane key =
      (timed.lane key).perform operation := by
  cases operation with
  | add path config context =>
      exact lane_add key timed path config context
  | remove path config =>
      exact lane_remove consistent key path config
  | removeAll path =>
      exact lane_removeAll consistent key path
  | notify change context =>
      exact lane_notify consistent key change context
  | clearPath path =>
      exact lane_clearPath consistent key path
  | clear =>
      exact lane_clear consistent key
  | advance time =>
      exact lane_advance consistent key time

/-- Adding or removing a watcher leaves the lanes of other keys alone. -/
theorem lane_perform_of_isForeign
    {timed : TimedWatch}
    (consistent : timed.IsConsistent)
    {key : TriggerKey}
    {operation : WatchOperation}
    (foreign : operation.IsForeign key) :
    (timed.perform operation).lane key = timed.lane key := by
  rw [lane_perform consistent]
  cases operation with
  | add path config context =>
      exact if_neg foreign
  | remove path config =>
      exact if_neg foreign
  | removeAll _ | notify _ _ | clearPath _ | clear | advance _ =>
      exact foreign.elim

/-- Lanes that are the same stay so in both runs. -/
theorem lane_performAll
    {key : TriggerKey}
    {operations fewer : List WatchOperation}
    (leavesOut : WatchOperation.LeavesOut key operations fewer)
    (sound : ∀ operation ∈ operations, operation.IsSound)
    {left right : TimedWatch}
    (leftConsistent : left.IsConsistent)
    (rightConsistent : right.IsConsistent)
    (same : left.lane key = right.lane key) :
    (left.performAll operations).lane key =
      (right.performAll fewer).lane key := by
  induction leavesOut generalizing left right with
  | none =>
      exact same
  | keep operation _ inductionHypothesis =>
      have isSound := sound operation List.mem_cons_self
      refine inductionHypothesis
        (fun later member => sound later (List.mem_cons_of_mem _ member))
        (leftConsistent.perform isSound)
        (rightConsistent.perform isSound) ?_
      rw [lane_perform leftConsistent, lane_perform rightConsistent, same]
  | @leave operation _ _ foreign _ inductionHypothesis =>
      have isSound := sound operation List.mem_cons_self
      exact inductionHypothesis
        (fun later member => sound later (List.mem_cons_of_mem _ member))
        (leftConsistent.perform isSound) rightConsistent
        ((lane_perform_of_isForeign leftConsistent foreign).trans same)

/--
Watchers of different keys do not influence each other.  Whatever is done with
a watch, leaving out some additions and removals of watchers of other keys
makes no difference to what the watchers of a key fire.
-/
theorem firingsOf_performAll_eq
    {hasClock : Bool}
    {timed : TimedWatch}
    (reached : Reached hasClock timed)
    {key : TriggerKey}
    {operations fewer : List WatchOperation}
    (leavesOut : WatchOperation.LeavesOut key operations fewer)
    (sound : ∀ operation ∈ operations, operation.IsSound) :
    (timed.performAll operations).firingsOf key =
      (timed.performAll fewer).firingsOf key :=
  congrArg Lane.log
    (lane_performAll leavesOut sound reached.isConsistent
      reached.isConsistent rfl)

/-- A registration of another kind than `greeting`, which waits as well. -/
def parting : WatchConfig where
  action :=
    .string "part"
  debounce :=
    some 5

/--
A watcher is removed whose timer would have run beside another one, and the
other one fires all the same.
-/
theorem firingsOf_performAll_eq_parting :
    let change : StateChange := ⟨"user", some .null, none⟩
    let greet : WatchOperation :=
      .add "/user" (greeting (some 5) false) {}
    let operations : List WatchOperation :=
      [greet, .add "user" parting {}, .notify change {}, .advance 3,
        .remove "/user" parting, .advance 3]
    let fewer : List WatchOperation :=
      [greet, .notify change {}, .advance 3, .advance 3]
    let timed : TimedWatch := {}
    let key : TriggerKey := ⟨"/user", "greet"⟩
    WatchOperation.LeavesOut key operations fewer ∧
      ((timed.performAll fewer).firingsOf key).length = 1 ∧
      (timed.performAll operations).firingsOf key =
        (timed.performAll fewer).firingsOf key := by
  intro change greet operations fewer timed key
  have otherKind :
      .ofConfig (Path.normalize "user") parting ≠ key := by
    decide
  have otherKindAgain :
      .ofConfig (Path.normalize "/user") parting ≠ key := by
    decide
  have leavesOut : WatchOperation.LeavesOut key operations fewer :=
    .keep _ (.leave otherKind
      (.keep _ (.keep _ (.leave otherKindAgain (.keep _ .none)))))
  have scalar : ∀ text, (Value.string text).Sound :=
    fun _ => Value.Throughout.string_iff.mpr trivial
  have sound : ∀ operation ∈ operations, operation.IsSound := by
    simp [operations, greet, WatchOperation.IsSound, greeting, parting,
      scalar]
  exact ⟨leavesOut, by decide +kernel,
    firingsOf_performAll_eq (.fresh : Reached true timed) leavesOut sound⟩

end TimedWatch

end Mockup
