import Mathlib.Algebra.Group.Action.Defs
import Mathlib.Algebra.Order.BigOperators.Group.List
import Mathlib.Algebra.Order.Ring.Nat
import Mockup.Proofs.Agenda

namespace Mockup

namespace Agenda

/-!
# When timers are due

A timer that is ready is due when its delay is over, and a timer that waits at
its deadline.  Beginning to wait does not change when a timer is due, nor does
the clock when it jumps to the next deadline.  Every timer starts, waits and
is over in the end.
-/

variable {ω : Type}

/-! ## Timers that wait -/

/-- Timers that wait have no more delay, and none of them is overdue. -/
def IsPunctual
    (agenda : Agenda (Timer ω)) :
    Prop :=
  ∀ waiting ∈ agenda.armed,
    waiting.entry.job.delay = 0 ∧ agenda.now ≤ waiting.deadline

namespace IsPunctual

variable {agenda : Agenda (Timer ω)}

theorem filter
    (punctual : agenda.IsPunctual)
    (keep : Ticketed (Timer ω) → Bool) :
    (agenda.filter keep).IsPunctual := by
  intro waiting member
  exact punctual waiting (List.mem_filter.mp member).1

theorem spawn
    (punctual : agenda.IsPunctual)
    (timer : Timer ω) :
    (agenda.spawn timer).1.IsPunctual :=
  punctual

/-- A timer that begins to wait has its whole delay before it. -/
theorem arm
    (punctual : agenda.IsPunctual)
    (delay ticket : Nat)
    (work : ω) :
    (agenda.arm delay ⟨ticket, .elapsed work⟩).IsPunctual := by
  intro waiting member
  rcases List.mem_append.mp member with isOld | isNew
  · exact punctual waiting isOld
  · rw [List.mem_singleton.mp isNew]
    exact ⟨rfl, Nat.le_add_right _ _⟩

/-- Timers that are due when the clock moves do not wait any longer. -/
theorem moveTo
    (punctual : agenda.IsPunctual)
    (time : Nat) :
    (agenda.moveTo time).IsPunctual := by
  intro waiting member
  obtain ⟨wasThere, later⟩ := List.mem_filter.mp member
  obtain ⟨noDelay, early⟩ := punctual waiting wasThere
  have notDue : ¬ waiting.deadline ≤ time := by
    simpa using later
  refine ⟨noDelay, ?_⟩
  change max agenda.now time ≤ waiting.deadline
  omega

theorem taken
    (punctual : agenda.IsPunctual)
    {entry : Ticketed (Timer ω)}
    {rest : Agenda (Timer ω)}
    (takes : agenda.Takes entry rest) :
    rest.IsPunctual := by
  obtain ⟨_, _, _, rfl⟩ := takes
  exact punctual

end IsPunctual

/-! ## Due times -/

/-- When each timer is due, and what for. -/
def dues
    (agenda : Agenda (Timer ω)) :
    List (Nat × ω) :=
  agenda.ready.map (fun entry =>
      (agenda.now + entry.job.delay, entry.job.work)) ++
    agenda.armed.map fun waiting =>
      (waiting.deadline, waiting.entry.job.work)

theorem works_dues
    (agenda : Agenda (Timer ω)) :
    agenda.dues.map Prod.snd =
      agenda.entries.map fun entry => entry.job.work := by
  simp [dues, entries, Function.comp_def]

/-- A timer that is put on the agenda is due after its delay. -/
theorem dues_spawn
    (agenda : Agenda (Timer ω))
    (delay : Nat)
    (work : ω) :
    (agenda.spawn (.fresh delay work)).1.dues.Perm
      ((agenda.now + delay, work) :: agenda.dues) := by
  simp [dues, spawn, Timer.delay, Timer.work]

theorem dues_filter
    (agenda : Agenda (Timer ω))
    (keep : ω → Bool) :
    (agenda.filter fun entry => keep entry.job.work).dues =
      agenda.dues.filter fun due => keep due.2 := by
  simp [dues, filter, List.filter_map, Function.comp_def]

/-- A timer that is taken to run is due after what is left of its delay. -/
theorem Takes.dues
    {agenda rest : Agenda (Timer ω)}
    {entry : Ticketed (Timer ω)}
    (takes : agenda.Takes entry rest) :
    agenda.dues.Perm
      ((agenda.now + entry.job.delay, entry.job.work) :: rest.dues) := by
  obtain ⟨earlier, later, shape, rfl⟩ := takes
  simp [Agenda.dues, shape]

theorem Takes.now_eq
    {J : Type}
    {agenda rest : Agenda J}
    {entry : Ticketed J}
    (takes : agenda.Takes entry rest) :
    rest.now = agenda.now := by
  obtain ⟨_, _, _, rfl⟩ := takes
  rfl

theorem dues_arm
    (agenda : Agenda (Timer ω))
    (delay ticket : Nat)
    (work : ω) :
    (agenda.arm delay ⟨ticket, .elapsed work⟩).dues.Perm
      ((agenda.now + delay, work) :: agenda.dues) := by
  simp [dues, arm, Timer.work, ← List.append_assoc]

/-! ## Jumps of the clock -/

section

variable
  {agenda : Agenda (Timer ω)}
  {time : Nat}

/-- What waits is due at a time or is not. -/
theorem partition_armed
    (agenda : Agenda (Timer ω))
    (time : Nat) :
    (agenda.armed.filter (fun waiting => waiting.deadline ≤ time) ++
      agenda.armed.filter fun waiting => ¬ waiting.deadline ≤ time).Perm
        agenda.armed := by
  simpa only [decide_not] using
    List.filter_append_perm
      (fun waiting : Armed (Timer ω) => decide (waiting.deadline ≤ time))
      agenda.armed

theorem mem_of_deadline?
    (next : agenda.deadline? = some time) :
    (∃ waiting ∈ agenda.armed, waiting.deadline = time) ∧
      ∀ waiting ∈ agenda.armed, time ≤ waiting.deadline := by
  obtain ⟨member, least⟩ := List.min?_eq_some_iff.mp next
  exact ⟨List.mem_map.mp member, fun waiting inArmed =>
    least _ (List.mem_map_of_mem inArmed)⟩

/-- The next deadline lies ahead. -/
theorem IsPunctual.now_le
    (punctual : agenda.IsPunctual)
    (next : agenda.deadline? = some time) :
    agenda.now ≤ time := by
  obtain ⟨⟨waiting, inArmed, rfl⟩, _⟩ := mem_of_deadline? next
  exact (punctual waiting inArmed).2

/-- When the clock jumps to the next deadline nothing is due earlier or later. -/
theorem dues_jump
    (punctual : agenda.IsPunctual)
    (idle : agenda.ready = [])
    (next : agenda.deadline? = some time) :
    (agenda.moveTo time).dues.Perm agenda.dues := by
  have ahead := punctual.now_le next
  have least := (mem_of_deadline? next).2
  -- What is due at the deadline is ready then, without any delay.
  have atTime :
      (agenda.armed.filter fun waiting => waiting.deadline ≤ time).map
          (fun waiting =>
            (max agenda.now time + waiting.entry.job.delay,
              waiting.entry.job.work)) =
        (agenda.armed.filter fun waiting => waiting.deadline ≤ time).map
          fun waiting => (waiting.deadline, waiting.entry.job.work) := by
    refine List.map_congr_left ?_
    intro waiting member
    obtain ⟨inArmed, isDue⟩ := List.mem_filter.mp member
    have noDelay := (punctual waiting inArmed).1
    have isLeast := least waiting inArmed
    have due : waiting.deadline ≤ time :=
      of_decide_eq_true isDue
    rw [Prod.mk.injEq]
    exact ⟨by omega, rfl⟩
  simp only [dues, moveTo, idle, List.nil_append, List.map_map,
    Function.comp_def, atTime, ← List.map_append]
  exact (agenda.partition_armed time).map _

/-- A clock that stays before every deadline finds nothing due. -/
theorem moveTo_of_early
    {J : Type}
    {agenda : Agenda J}
    (early : ∀ waiting ∈ agenda.armed, time < waiting.deadline) :
    agenda.moveTo time = { agenda with now := max agenda.now time } := by
  have noneDue :
      (agenda.armed.filter fun waiting => waiting.deadline ≤ time) = [] :=
    List.filter_eq_nil_iff.mpr fun waiting member => by
      simpa using early waiting member
  have allWait :
      (agenda.armed.filter fun waiting => ¬ waiting.deadline ≤ time) =
        agenda.armed :=
    List.filter_eq_self.mpr fun waiting member => by
      simpa using early waiting member
  simp only [moveTo, noneDue, allWait, List.map_nil, List.append_nil]

end

/-! ## What is left to do -/

/-- How many steps a timer needs: to start, to wake up and to do its work. -/
def toDo
    (job : Timer ω) :
    Nat :=
  if job.delay = 0 then 1 else 3

/-- How many steps and jumps are left at most. -/
def remaining
    (agenda : Agenda (Timer ω)) :
    Nat :=
  (agenda.ready.map fun entry => toDo entry.job).sum +
    (agenda.armed.map fun waiting => toDo waiting.entry.job + 1).sum

theorem remaining_le
    (agenda : Agenda (Timer ω)) :
    agenda.remaining ≤ 4 * agenda.entries.length := by
  have atMost : ∀ job : Timer ω, toDo job ≤ 3 := by
    intro job
    unfold toDo
    split <;> omega
  have ready :=
    List.sum_le_card_nsmul
      (agenda.ready.map fun entry => toDo entry.job) 4 (by grind)
  have armed :=
    List.sum_le_card_nsmul
      (agenda.armed.map fun waiting => toDo waiting.entry.job + 1) 4
      (by grind)
  simp only [List.length_map, smul_eq_mul] at ready armed
  simp only [remaining, entries, List.length_append, List.length_map]
  omega

theorem Takes.remaining
    {agenda rest : Agenda (Timer ω)}
    {entry : Ticketed (Timer ω)}
    (takes : agenda.Takes entry rest) :
    agenda.remaining = rest.remaining + toDo entry.job := by
  obtain ⟨earlier, later, shape, rfl⟩ := takes
  simp only [Agenda.remaining, shape, List.map_append, List.map_cons,
    List.sum_append, List.sum_cons]
  omega

theorem remaining_arm
    (agenda : Agenda (Timer ω))
    (delay ticket : Nat)
    (work : ω) :
    (agenda.arm delay ⟨ticket, .elapsed work⟩).remaining =
      agenda.remaining + 2 := by
  simp [remaining, arm, toDo, Timer.delay]
  omega

/-- A jump to the next deadline wakes some timer up. -/
theorem remaining_jump_lt
    {agenda : Agenda (Timer ω)}
    {time : Nat}
    (next : agenda.deadline? = some time) :
    (agenda.moveTo time).remaining < agenda.remaining := by
  let due := agenda.armed.filter fun waiting => waiting.deadline ≤ time
  let later := agenda.armed.filter fun waiting => ¬ waiting.deadline ≤ time
  let cost : Armed (Timer ω) → Nat :=
    fun waiting => toDo waiting.entry.job + 1
  obtain ⟨first, inArmed, atTime⟩ := (mem_of_deadline? next).1
  have isDue : first ∈ due :=
    List.mem_filter.mpr ⟨inArmed, by simp [atTime]⟩
  have some : 0 < due.length :=
    List.length_pos_of_mem isDue
  have waking :
      (due.map cost).sum =
        ((due.map Armed.entry).map fun entry => toDo entry.job).sum +
          due.length := by
    simp [cost, Function.comp_def, List.sum_map_add]
  have whole :
      (due.map cost).sum + (later.map cost).sum =
        (agenda.armed.map cost).sum := by
    rw [← List.sum_append, ← List.map_append]
    exact ((agenda.partition_armed time).map cost).sum_eq
  change
    ((agenda.ready ++ due.map Armed.entry).map
          fun entry => toDo entry.job).sum + (later.map cost).sum <
      (agenda.ready.map fun entry => toDo entry.job).sum +
        (agenda.armed.map cost).sum
  rw [List.map_append, List.sum_append]
  omega

end Agenda

end Mockup
