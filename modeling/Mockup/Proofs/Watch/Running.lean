import Mockup.Proofs.Watch.Lane

namespace Mockup

/-!
# A watch on its clock

As time passes, a watch runs its timers until nothing is due any more.  Every
step and every jump of the clock on the way leaves each lane where it would
have come to on its own.
-/

namespace TimedWatch

/-! ## Coming to rest -/

/-- A timer that runs is over, or begins to wait. -/
theorem agenda_runTimer
    (timed : TimedWatch)
    (entry : Ticketed (Timer Firing)) :
    (timed.runTimer entry).agenda =
      if entry.job.delay = 0 then
        timed.agenda
      else
        timed.agenda.arm entry.job.delay
          ⟨entry.ticket, .elapsed entry.job.work⟩ := by
  unfold runTimer
  split
  · simp only
    cases (timed.watch.fire entry.job.work).2 <;> rfl
  · rfl

/-- A watch that takes no step has no timer to run. -/
theorem idle_of_step?
    {timed : TimedWatch}
    (noStep : clockwork.step? timed = none) :
    timed.agenda.ready = [] := by
  change timed.step? = none at noStep
  rw [step?_eq, Option.map_eq_none_iff] at noStep
  unfold Agenda.next? at noStep
  split at noStep
  · assumption
  · cases noStep

/-- A watch on its clock comes to rest. -/
theorem isAtRest_run
    (mayMove : TimedWatch → Nat → Bool)
    (timed : TimedWatch) :
    clockwork.isAtRest mayMove (clockwork.run mayMove timed) = true := by
  have stepped :
      ∀ current next : TimedWatch,
        clockwork.step? current = some next →
          next.agenda.remaining < current.agenda.remaining := by
    intro current next isNext
    obtain ⟨entry, rest, takes, rfl⟩ := exists_takes_of_step? isNext
    have left := takes.remaining
    unfold Agenda.toDo at left
    rw [agenda_runTimer]
    split
    · rename_i isOver
      rw [if_pos isOver] at left
      exact left ▸ Nat.lt_succ_self _
    · rename_i waits
      rw [if_neg waits] at left
      rw [Agenda.remaining_arm, left]
      exact Nat.lt_succ_self _
  have jumped :
      ∀ (current : TimedWatch) (deadline : Nat),
        clockwork.step? current = none →
        clockwork.deadline? current = some deadline →
        (clockwork.moveTo deadline current).agenda.remaining <
          current.agenda.remaining :=
    fun _ _ _ next => Agenda.remaining_jump_lt next
  have covered :
      timed.agenda.remaining ≤ 2 ^ clockwork.effort timed := by
    have few := timed.agenda.remaining_le
    have enough : ∀ count : Nat, 4 * count ≤ 2 ^ (3 * count) := by
      intro count
      induction count with
      | zero =>
          simp
      | succ count inductionHypothesis =>
          have more : 2 ^ (3 * (count + 1)) = 8 * 2 ^ (3 * count) := by
            rw [Nat.mul_succ, Nat.pow_add, Nat.mul_comm]
          have positive : 0 < 2 ^ (3 * count) :=
            Nat.two_pow_pos _
          omega
    exact Nat.le_trans few (enough timed.agenda.entries.length)
  exact Clockwork.isAtRest_run stepped jumped covered

/-- At rest no timer is ready, and none is due in time. -/
theorem idle_of_isAtRest
    {timed : TimedWatch}
    {time : Nat}
    (atRest :
      clockwork.isAtRest (fun _ deadline => deadline ≤ time) timed =
        true) :
    timed.agenda.ready = [] ∧
      ∀ waiting ∈ timed.agenda.armed, time < waiting.deadline := by
  simp only [Clockwork.isAtRest, Bool.and_eq_true,
    Option.isNone_iff_eq_none] at atRest
  obtain ⟨noStep, noJump⟩ := atRest
  refine ⟨idle_of_step? noStep, ?_⟩
  intro waiting inArmed
  have deadline :
      clockwork.deadline? timed = timed.agenda.deadline? :=
    rfl
  rw [deadline] at noJump
  cases next : timed.agenda.deadline? with
  | some deadline =>
      have least := (Agenda.mem_of_deadline? next).2 waiting inArmed
      rw [next] at noJump
      simp only [Bool.not_eq_true', decide_eq_false_iff_not] at noJump
      omega
  | none =>
      have none : timed.agenda.armed.map Armed.deadline = [] :=
        List.min?_eq_none_iff.mp next
      rw [List.map_eq_nil_iff.mp none] at inArmed
      cases inArmed

end TimedWatch

namespace Lane

/-! ## Running alone -/

/-- Where the clock stands makes no difference to what is run up to a time. -/
theorem runTo_now
    (lane : Lane)
    (now time : Nat) :
    { lane with now := now }.runTo time = lane.runTo time := by
  obtain ⟨_, _, _, _, _, _, _, pending, _⟩ := lane
  cases pending with
  | none =>
      rfl
  | some due =>
      simp only [runTo]
      split <;> rfl

theorem pending_fire
    (lane : Lane)
    (firing : Firing) :
    (lane.fire firing).pending = lane.pending := by
  unfold fire
  split <;> rfl

/-- A timer that is due now may fire before the clock moves. -/
theorem runTo_of_due
    {lane : Lane}
    {firing : Firing}
    (due : lane.pending = some (lane.now, firing))
    {time : Nat}
    (early : lane.now ≤ time) :
    ({ lane with pending := none }.fire firing).runTo time =
      lane.runTo time := by
  have noTimer :
      ({ lane with pending := none }.fire firing).pending = none :=
    pending_fire _ firing
  simp only [runTo, due, noTimer, if_pos early]

/-- A timer that is due later does not fire. -/
theorem runTo_of_later
    {lane : Lane}
    {time : Nat}
    (later : ∀ due ∈ lane.pending, time < due.1) :
    lane.runTo time = { lane with now := time } := by
  unfold runTo
  cases pending : lane.pending with
  | none =>
      simp [pending]
  | some due =>
      have isLater := later due pending
      simp [pending, Nat.not_le.mpr isLater]

end Lane

namespace TimedWatch

/-! ## Running together -/

/-- When a timer is taken to run, its lane has none left. -/
theorem lane_taken
    {timed : TimedWatch}
    (consistent : timed.IsConsistent)
    (key : TriggerKey)
    {entry : Ticketed (Timer Firing)}
    {rest : Agenda (Timer Firing)}
    (takes : timed.agenda.Takes entry rest) :
    (timed.lane key).pending =
        (if entry.job.work.key = key then
          some (timed.agenda.now + entry.job.delay, entry.job.work)
        else
          (({ timed with agenda := rest } : TimedWatch).lane key).pending) ∧
      (entry.job.work.key = key →
        (({ timed with agenda := rest } : TimedWatch).lane key).pending =
          none) := by
  have perm := takes.dues
  have distinct := nodup_dues consistent.keyed
  have distinctTaken := (perm.map _).nodup_iff.mp distinct
  constructor
  · refine (find?_key_of_perm distinctTaken perm).trans ?_
    rw [List.find?_cons]
    by_cases own : entry.job.work.key = key
    · simp [own]
    · simp [own, lane]
  · intro own
    refine List.find?_eq_none.mpr ?_
    intro due member sameKey
    have fresh := (List.nodup_cons.mp distinctTaken).1
    refine fresh (List.mem_map.mpr ⟨due, member, ?_⟩)
    exact (of_decide_eq_true sameKey).trans own.symm

/-- A timer that runs does what its lane does in time. -/
theorem runTo_lane_runTimer
    {timed : TimedWatch}
    (consistent : timed.IsConsistent)
    (key : TriggerKey)
    {entry : Ticketed (Timer Firing)}
    {rest : Agenda (Timer Firing)}
    (takes : timed.agenda.Takes entry rest)
    {time : Nat}
    (early : timed.agenda.now ≤ time) :
    (({ timed with agenda := rest }.runTimer entry).lane key).runTo time =
      (timed.lane key).runTo time := by
  let taken : TimedWatch := { timed with agenda := rest }
  obtain ⟨wasPending, noneLeft⟩ := lane_taken consistent key takes
  have now := takes.now_eq
  have left :
      taken.lane key =
        { timed.lane key with pending := (taken.lane key).pending } := by
    simp only [lane, taken, now]
  unfold runTimer
  split
  · rename_i isOver
    have fires := lane_fire taken entry.job.work key
    change ((taken.fire entry.job.work).lane key).runTo time = _
    by_cases own : entry.job.work.key = key
    · -- The timer is due now, so the lane alone fires now as well.
      rw [if_pos own, isOver] at wasPending
      rw [fires, if_pos own, left, noneLeft own]
      exact Lane.runTo_of_due wasPending early
    · rw [if_neg own] at wasPending
      rw [fires, if_neg own, left, ← wasPending]
  · let waiting :=
      rest.arm entry.job.delay ⟨entry.ticket, .elapsed entry.job.work⟩
    have perm := rest.dues_arm entry.job.delay entry.ticket entry.job.work
    rw [now] at perm
    have samePending :
        (waiting.dues.find? fun due => due.2.key = key) =
          timed.agenda.dues.find? fun due => due.2.key = key :=
      find?_key_of_perm (nodup_dues consistent.keyed)
        (perm.trans takes.dues.symm)
    have sameNow : waiting.now = timed.agenda.now :=
      now
    have sameLane :
        ({ timed with agenda := waiting } : TimedWatch).lane key =
          timed.lane key := by
      simp only [lane, samePending, sameNow]
    exact congrArg (Lane.runTo time) sameLane

/-- The clock jumps to the next deadline, and lanes have their timers still. -/
theorem lane_jump
    {timed : TimedWatch}
    (consistent : timed.IsConsistent)
    (key : TriggerKey)
    (idle : timed.agenda.ready = [])
    {time : Nat}
    (next : timed.agenda.deadline? = some time) :
    ({ timed with agenda := timed.agenda.moveTo time } :
      TimedWatch).lane key =
        { timed.lane key with now := time } := by
  have ahead := consistent.punctual.now_le next
  have samePending :
      ((timed.agenda.moveTo time).dues.find? fun due => due.2.key = key) =
        timed.agenda.dues.find? fun due => due.2.key = key :=
    find?_key_of_perm (nodup_dues consistent.keyed)
      (Agenda.dues_jump consistent.punctual idle next)
  have now : (timed.agenda.moveTo time).now = time :=
    Nat.max_eq_right ahead
  simp only [lane, samePending, now]

/-- When nothing is due by a time, lanes only see the clock move there. -/
theorem lane_rest
    {timed : TimedWatch}
    (key : TriggerKey)
    (idle : timed.agenda.ready = [])
    {time : Nat}
    (early : timed.agenda.now ≤ time)
    (later : ∀ waiting ∈ timed.agenda.armed, time < waiting.deadline) :
    ({ timed with agenda := timed.agenda.moveTo time } :
      TimedWatch).lane key =
        (timed.lane key).runTo time := by
  have dueLater : ∀ due ∈ timed.agenda.dues, time < due.1 := by
    intro due member
    simp only [Agenda.dues, idle, List.map_nil, List.nil_append] at member
    obtain ⟨waiting, inArmed, rfl⟩ := List.mem_map.mp member
    exact later waiting inArmed
  have noneFires :=
    Lane.runTo_of_later fun due (isPending : due ∈ (timed.lane key).pending) =>
      dueLater due (List.mem_of_find?_eq_some isPending)
  rw [noneFires, Agenda.moveTo_of_early later,
    Nat.max_eq_right early]
  simp [lane, Agenda.dues, idle]

/-! ## As time passes -/

/-- As time passes, the lane of a key runs as it does alone. -/
theorem lane_advance
    {timed : TimedWatch}
    (consistent : timed.IsConsistent)
    (key : TriggerKey)
    (time : Nat) :
    (timed.advance time).lane key =
      (timed.lane key).perform (.advance time) := by
  let target := timed.agenda.now + time
  let Kept : TimedWatch → Prop := fun current =>
    current.IsConsistent ∧ current.agenda.now ≤ target ∧
      (current.lane key).runTo target = (timed.lane key).runTo target
  let mayMove : TimedWatch → Nat → Bool :=
    fun _ deadline => deadline ≤ target
  have atFirst : Kept timed :=
    ⟨consistent, Nat.le_add_right _ _, rfl⟩
  have stepped :
      ∀ current next,
        Kept current → clockwork.step? current = some next → Kept next := by
    rintro current next ⟨isConsistent, early, sameEnd⟩ isNext
    obtain ⟨entry, rest, takes, rfl⟩ := exists_takes_of_step? isNext
    have sameNow :
        ({ current with agenda := rest }.runTimer entry).agenda.now =
          current.agenda.now := by
      rw [agenda_runTimer]
      split <;> exact takes.now_eq
    exact ⟨(isConsistent.runTimer takes).1, sameNow ▸ early,
      (runTo_lane_runTimer isConsistent key takes early).trans sameEnd⟩
  have jumped :
      ∀ current deadline,
        Kept current →
        clockwork.step? current = none →
        clockwork.deadline? current = some deadline →
        mayMove current deadline = true →
        Kept (clockwork.moveTo deadline current) := by
    rintro current deadline ⟨isConsistent, early, sameEnd⟩ noStep next moves
    have idle := idle_of_step? noStep
    have jumps := lane_jump isConsistent key idle next
    have soon : deadline ≤ target :=
      of_decide_eq_true moves
    refine ⟨isConsistent.moveTo deadline, Nat.max_le.mpr ⟨early, soon⟩, ?_⟩
    change
      (({ current with agenda := current.agenda.moveTo deadline } :
        TimedWatch).lane key).runTo target = _
    rw [jumps, Lane.runTo_now]
    exact sameEnd
  obtain ⟨isConsistent, early, sameEnd⟩ :=
    Clockwork.kept_run stepped jumped atFirst
  obtain ⟨idle, later⟩ := idle_of_isAtRest (isAtRest_run mayMove timed)
  have moved := (lane_rest key idle early later).trans sameEnd
  unfold advance
  by_cases clock : timed.hasClock = true
  · rw [if_pos clock]
    exact moved.trans (if_pos clock).symm
  · rw [if_neg clock]
    exact (if_neg clock).symm

end TimedWatch

end Mockup
