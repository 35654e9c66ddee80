import Mockup.TimerTable

namespace Mockup

namespace Agenda

/-!
# Tickets

An agenda is *orderly* when every ticket on it has been given, and to one job
only.  Jobs come to an agenda with new tickets, or with the ticket that they
were taken off with, so an agenda that is orderly stays so.
-/

variable {J : Type}

/-- Every ticket on the agenda has been given, and to one job only. -/
structure IsOrderly
    (agenda : Agenda J) :
    Prop where
  distinct :
    (agenda.entries.map Ticketed.ticket).Nodup
  given :
    ∀ entry ∈ agenda.entries, entry.ticket < agenda.nextTicket

/-- A ticket has been given, but no job on the agenda has it. -/
structure Lacks
    (agenda : Agenda J)
    (ticket : Nat) :
    Prop where
  given :
    ticket < agenda.nextTicket
  absent :
    ∀ entry ∈ agenda.entries, entry.ticket ≠ ticket

/-- A ready job is taken off the agenda, and the others stay. -/
def Takes
    (agenda : Agenda J)
    (entry : Ticketed J)
    (rest : Agenda J) :
    Prop :=
  ∃ earlier later,
    agenda.ready = earlier ++ entry :: later ∧
      rest = { agenda with ready := earlier ++ later }

/-! ## The jobs on an agenda -/

/-- An agenda from which a job is taken has that job and the others. -/
theorem Takes.perm
    {agenda rest : Agenda J}
    {entry : Ticketed J}
    (takes : agenda.Takes entry rest) :
    agenda.entries.Perm (entry :: rest.entries) := by
  obtain ⟨earlier, later, shape, rfl⟩ := takes
  simp [entries, shape]

theorem Takes.nextTicket_eq
    {agenda rest : Agenda J}
    {entry : Ticketed J}
    (takes : agenda.Takes entry rest) :
    rest.nextTicket = agenda.nextTicket := by
  obtain ⟨_, _, _, rfl⟩ := takes
  rfl

theorem takes_of_next?
    {agenda rest : Agenda J}
    {entry : Ticketed J}
    (next : agenda.next? = some (entry, rest)) :
    agenda.Takes entry rest := by
  unfold next? at next
  split at next
  · cases next
  · rename_i first later shape
    cases next
    exact ⟨[], later, shape, rfl⟩

/-- Spawning adds one job with the next ticket. -/
theorem entries_spawn
    (agenda : Agenda J)
    (job : J) :
    (agenda.spawn job).1.entries.Perm
      (⟨agenda.nextTicket, job⟩ :: agenda.entries) := by
  simp [entries, spawn]

theorem entries_goOn
    (agenda : Agenda J)
    (entry : Ticketed J) :
    (agenda.goOn entry).entries = entry :: agenda.entries :=
  rfl

theorem entries_arm
    (agenda : Agenda J)
    (delay : Nat)
    (entry : Ticketed J) :
    (agenda.arm delay entry).entries.Perm (entry :: agenda.entries) := by
  simp [entries, arm, ← List.append_assoc]

theorem entries_filter
    (agenda : Agenda J)
    (keep : Ticketed J → Bool) :
    (agenda.filter keep).entries = agenda.entries.filter keep := by
  simp [entries, filter, List.filter_map, Function.comp_def]

/-- Aborting jobs one after another keeps some of the jobs. -/
theorem mem_entries_abortAll
    {agenda : Agenda J}
    {tickets : List (κ × Nat)}
    {entry : Ticketed J}
    (member :
      entry ∈
        (tickets.foldl (fun rest other => rest.abort other.2)
          agenda).entries) :
    entry ∈ agenda.entries := by
  induction tickets generalizing agenda with
  | nil =>
      exact member
  | cons other tickets inductionHypothesis =>
      have kept : entry ∈ (agenda.abort other.2).entries :=
        inductionHypothesis member
      rw [abort, entries_filter] at kept
      exact (List.mem_filter.mp kept).1

/-- Moving the clock changes which jobs are ready, but not which there are. -/
theorem entries_moveTo
    (agenda : Agenda J)
    (time : Nat) :
    (agenda.moveTo time).entries.Perm agenda.entries := by
  simp only [entries, moveTo, List.append_assoc]
  refine List.Perm.append_left agenda.ready ?_
  rw [← List.map_append]
  refine List.Perm.map Armed.entry ?_
  simpa only [decide_not] using
    List.filter_append_perm
      (fun waiting : Armed J => decide (waiting.deadline ≤ time))
      agenda.armed

/-- A job that is woken keeps its ticket; all other jobs stay as they are. -/
theorem mem_entries_rouse
    {agenda : Agenda J}
    {wake? : J → Option J}
    {entry : Ticketed J}
    (member : entry ∈ (agenda.rouse wake?).entries) :
    entry ∈ agenda.entries ∨
      ∃ job, ⟨entry.ticket, job⟩ ∈ agenda.entries ∧
        wake? job = some entry.job := by
  simp only [entries, rouse, List.mem_append, List.mem_map,
    List.mem_filterMap, List.mem_filter] at member ⊢
  rcases member with
      (isReady | ⟨waiting, inArmed, woken⟩) | ⟨waiting, ⟨inArmed, _⟩, rfl⟩
  · exact Or.inl (Or.inl isReady)
  · obtain ⟨job, wakes, rfl⟩ := Option.map_eq_some_iff.mp woken
    exact Or.inr
      ⟨waiting.entry.job, Or.inr ⟨waiting, inArmed, rfl⟩, wakes⟩
  · exact Or.inl (Or.inr ⟨waiting, inArmed, rfl⟩)

/-- Waking jobs leaves the tickets on the agenda as they are. -/
theorem tickets_rouse
    (agenda : Agenda J)
    (wake? : J → Option J) :
    ((agenda.rouse wake?).entries.map Ticketed.ticket).Perm
      (agenda.entries.map Ticketed.ticket) := by
  -- A waiting job is woken or waits on; only the order of tickets changes.
  have armed :
      ∀ waitings : List (Armed J),
        ((waitings.filterMap fun waiting =>
            (wake? waiting.entry.job).map
              (Ticketed.mk waiting.entry.ticket)).map Ticketed.ticket ++
          ((waitings.filter fun waiting =>
            (wake? waiting.entry.job).isNone).map Armed.entry).map
              Ticketed.ticket).Perm
          ((waitings.map Armed.entry).map Ticketed.ticket) := by
    intro waitings
    induction waitings with
    | nil =>
        simp
    | cons waiting waitings inductionHypothesis =>
        cases wakes : wake? waiting.entry.job with
        | none =>
            simpa [wakes] using
              List.perm_middle.trans (inductionHypothesis.cons _)
        | some job =>
            simpa [wakes] using inductionHypothesis
  simpa [entries, rouse, List.map_append, List.append_assoc] using
    (armed agenda.armed).append_left
      (agenda.ready.map Ticketed.ticket)

/-! ## Orderly agendas -/

theorem isOrderly_of_entries_eq_nil
    {agenda : Agenda J}
    (empty : agenda.entries = []) :
    agenda.IsOrderly :=
  ⟨by simp [empty], by simp [empty]⟩

/-- The order of the jobs does not matter. -/
theorem IsOrderly.of_perm
    {before after : Agenda J}
    (orderly : before.IsOrderly)
    (perm : after.entries.Perm before.entries)
    (nextTicket : after.nextTicket = before.nextTicket) :
    after.IsOrderly where
  distinct :=
    (perm.map Ticketed.ticket).nodup_iff.mpr orderly.distinct
  given entry member :=
    nextTicket ▸ orderly.given entry (perm.mem_iff.mp member)

/-- One job more is in order when nothing else has its ticket. -/
theorem isOrderly_iff_of_perm_cons
    {agenda rest : Agenda J}
    {entry : Ticketed J}
    (perm : agenda.entries.Perm (entry :: rest.entries))
    (nextTicket : agenda.nextTicket = rest.nextTicket) :
    agenda.IsOrderly ↔ rest.IsOrderly ∧ rest.Lacks entry.ticket := by
  have distinct_iff :
      (agenda.entries.map Ticketed.ticket).Nodup ↔
        (∀ other ∈ rest.entries, other.ticket ≠ entry.ticket) ∧
          (rest.entries.map Ticketed.ticket).Nodup := by
    rw [(perm.map Ticketed.ticket).nodup_iff]
    simp
  constructor
  · rintro ⟨distinct, given⟩
    obtain ⟨absent, restDistinct⟩ := distinct_iff.mp distinct
    have restGiven :
        ∀ other, other = entry ∨ other ∈ rest.entries →
          other.ticket < rest.nextTicket := by
      intro other member
      rw [← nextTicket]
      exact given other (perm.mem_iff.mpr (List.mem_cons.mpr member))
    exact ⟨⟨restDistinct, fun other member => restGiven other (Or.inr member)⟩,
      restGiven entry (Or.inl rfl), absent⟩
  · rintro ⟨restOrderly, entryGiven, absent⟩
    refine ⟨distinct_iff.mpr ⟨absent, restOrderly.distinct⟩, ?_⟩
    intro other member
    rw [nextTicket]
    rcases List.mem_cons.mp (perm.mem_iff.mp member) with rfl | inRest
    · exact entryGiven
    · exact restOrderly.given other inRest

/-- What is left of an orderly agenda is orderly and lacks what was taken. -/
theorem IsOrderly.taken
    {agenda rest : Agenda J}
    {entry : Ticketed J}
    (orderly : agenda.IsOrderly)
    (takes : agenda.Takes entry rest) :
    rest.IsOrderly ∧ rest.Lacks entry.ticket :=
  (isOrderly_iff_of_perm_cons takes.perm takes.nextTicket_eq.symm).mp
    orderly

/-- Waking jobs leaves an agenda orderly. -/
theorem IsOrderly.rouse
    {agenda : Agenda J}
    (orderly : agenda.IsOrderly)
    (wake? : J → Option J) :
    (agenda.rouse wake?).IsOrderly where
  distinct :=
    (tickets_rouse agenda wake?).nodup_iff.mpr orderly.distinct
  given := by
    intro entry member
    rcases mem_entries_rouse member with isOld | ⟨job, isOld, _⟩
    · exact orderly.given entry isOld
    · exact orderly.given ⟨entry.ticket, job⟩ isOld

/-! ## What is done with new tickets only -/

/-- Only jobs with new tickets come to the agenda. -/
structure Extends
    (before after : Agenda J) :
    Prop where
  nextTicket :
    before.nextTicket ≤ after.nextTicket
  orderly :
    before.IsOrderly → after.IsOrderly
  entries :
    ∀ entry ∈ after.entries,
      entry ∈ before.entries ∨ before.nextTicket ≤ entry.ticket

namespace Extends

theorem refl
    (agenda : Agenda J) :
    Extends agenda agenda :=
  ⟨Nat.le_refl _, id, fun _ => Or.inl⟩

theorem trans
    {first second third : Agenda J}
    (earlier : Extends first second)
    (later : Extends second third) :
    Extends first third where
  nextTicket :=
    Nat.le_trans earlier.nextTicket later.nextTicket
  orderly :=
    later.orderly ∘ earlier.orderly
  entries entry member := by
    rcases later.entries entry member with isOld | isNew
    · exact earlier.entries entry isOld
    · exact Or.inr (Nat.le_trans earlier.nextTicket isNew)

/-- A ticket that is not on the agenda does not come back to it. -/
theorem lacks
    {before after : Agenda J}
    (grows : Extends before after)
    {ticket : Nat}
    (lacking : before.Lacks ticket) :
    after.Lacks ticket where
  given :=
    Nat.lt_of_lt_of_le lacking.given grows.nextTicket
  absent entry member := by
    rcases grows.entries entry member with isOld | isNew
    · exact lacking.absent entry isOld
    · have given := lacking.given
      omega

/-- A spawned job has a new ticket. -/
theorem spawn
    (agenda : Agenda J)
    (job : J) :
    Extends agenda (agenda.spawn job).1 where
  nextTicket :=
    Nat.le_succ agenda.nextTicket
  orderly orderly := by
    have perm := entries_spawn agenda job
    refine ⟨?_, ?_⟩
    · rw [(perm.map Ticketed.ticket).nodup_iff, List.map_cons,
        List.nodup_cons]
      refine ⟨?_, orderly.distinct⟩
      intro member
      obtain ⟨entry, isOld, sameTicket⟩ := List.mem_map.mp member
      have given := orderly.given entry isOld
      simp only at sameTicket
      omega
    · intro entry member
      have nextTicket :
          (agenda.spawn job).1.nextTicket = agenda.nextTicket + 1 :=
        rfl
      rw [nextTicket]
      rcases List.mem_cons.mp (perm.mem_iff.mp member) with rfl | isOld
      · exact Nat.lt_succ_self _
      · exact Nat.lt_succ_of_lt (orderly.given entry isOld)
  entries entry member := by
    rcases List.mem_cons.mp
        ((entries_spawn agenda job).mem_iff.mp member) with rfl | isOld
    · exact Or.inr (Nat.le_refl _)
    · exact Or.inl isOld

theorem filter
    (agenda : Agenda J)
    (keep : Ticketed J → Bool) :
    Extends agenda (agenda.filter keep) where
  nextTicket :=
    Nat.le_refl _
  orderly orderly := by
    refine ⟨?_, ?_⟩
    · rw [entries_filter]
      exact (List.filter_sublist.map Ticketed.ticket).nodup
        orderly.distinct
    · intro entry member
      rw [entries_filter] at member
      exact orderly.given entry ((List.mem_filter.mp member).1)
  entries entry member := by
    rw [entries_filter] at member
    exact Or.inl ((List.mem_filter.mp member).1)

theorem abortAll
    (agenda : Agenda J)
    (tickets : List (κ × Nat)) :
    Extends agenda
      (tickets.foldl (fun rest entry => rest.abort entry.2) agenda) := by
  induction tickets generalizing agenda with
  | nil =>
      exact .refl agenda
  | cons entry tickets inductionHypothesis =>
      exact (filter agenda _).trans (inductionHypothesis _)

/-- A timer that is scheduled has a new ticket. -/
theorem schedule
    [BEq κ]
    (table : TimerTable κ)
    (agenda : Agenda J)
    (key : κ)
    (job : J) :
    Extends agenda (table.schedule agenda key job).2 := by
  simp only [TimerTable.schedule]
  split
  · exact (spawn agenda job).trans (filter _ _)
  · exact spawn agenda job

end Extends

end Agenda

end Mockup
