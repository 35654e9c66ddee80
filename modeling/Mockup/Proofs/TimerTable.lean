import Mockup.Proofs.Agenda

namespace Mockup

namespace TimerTable

/-!
# Timers and their table

A table *tracks* the timers of one kind when it knows the ticket of each of
them on the agenda and has no key twice.  Then no timer of that kind is left
once all of them have been cancelled.
-/

variable {κ J : Type}

theorem nextTicket_schedule
    [BEq κ]
    (table : TimerTable κ)
    (agenda : Agenda J)
    (key : κ)
    (job : J) :
    (table.schedule agenda key job).2.nextTicket =
      agenda.nextTicket + 1 := by
  simp only [TimerTable.schedule]
  split <;> rfl

theorem nextTicket_cancelWhere
    (table : TimerTable κ)
    (agenda : Agenda J)
    (chosen : κ → Bool) :
    (table.cancelWhere agenda chosen).2.1.nextTicket =
      agenda.nextTicket := by
  have aborted :
      ∀ (tickets : List (κ × Nat)) (rest : Agenda J),
        (tickets.foldl (fun rest entry => rest.abort entry.2)
          rest).nextTicket = rest.nextTicket := by
    intro tickets
    induction tickets with
    | nil =>
        exact fun _ => rfl
    | cons entry tickets inductionHypothesis =>
        exact fun rest => inductionHypothesis (rest.abort entry.2)
  exact aborted _ agenda

/-- A timer that is scheduled is one job more, or takes the place of one. -/
theorem mem_entries_schedule
    [BEq κ]
    {table : TimerTable κ}
    {agenda : Agenda J}
    {key : κ}
    {job : J}
    {entry : Ticketed J}
    (member : entry ∈ (table.schedule agenda key job).2.entries) :
    entry ∈ agenda.entries ∨ entry = ⟨agenda.nextTicket, job⟩ := by
  have spawned :
      entry ∈ (agenda.spawn job).1.entries →
        entry ∈ agenda.entries ∨ entry = ⟨agenda.nextTicket, job⟩ := by
    intro isSpawned
    have perm := Agenda.entries_spawn agenda job
    exact (List.mem_cons.mp (perm.mem_iff.mp isSpawned)).symm
  simp only [TimerTable.schedule] at member
  split at member
  · rw [Agenda.abort, Agenda.entries_filter] at member
    exact spawned (List.mem_filter.mp member).1
  · exact spawned member

/-- Every job of a kind is in the table, and no key is there twice. -/
structure Tracks
    (table : TimerTable κ)
    (agenda : Agenda J)
    (isKind : J → Bool) :
    Prop where
  distinct :
    (table.tickets.map Prod.fst).Nodup
  listed :
    ∀ entry ∈ agenda.entries, isKind entry.job = true →
      ∃ key, (key, entry.ticket) ∈ table.tickets

namespace Tracks

variable
  {table : TimerTable κ}
  {agenda after : Agenda J}
  {isKind : J → Bool}

/-- A table still tracks what there is when only other jobs have come. -/
theorem of_entries
    (tracks : table.Tracks agenda isKind)
    (entries :
      ∀ entry ∈ after.entries, isKind entry.job = true →
        ∃ job,
          ⟨entry.ticket, job⟩ ∈ agenda.entries ∧
            isKind job = true) :
    table.Tracks after isKind where
  distinct :=
    tracks.distinct
  listed entry member ofKind := by
    obtain ⟨job, wasThere, wasOfKind⟩ := entries entry member ofKind
    exact tracks.listed ⟨entry.ticket, job⟩ wasThere wasOfKind

theorem of_subset
    (tracks : table.Tracks agenda isKind)
    (subset : after.entries ⊆ agenda.entries) :
    table.Tracks after isKind :=
  tracks.of_entries fun entry member ofKind =>
    ⟨entry.job, subset member, ofKind⟩

/-- Another table still tracks its own kind when a timer is scheduled. -/
theorem of_schedule
    {other : TimerTable ι}
    (tracks : other.Tracks agenda isKind)
    [BEq κ]
    (table : TimerTable κ)
    (key : κ)
    {job : J}
    (otherKind : isKind job = false) :
    other.Tracks (table.schedule agenda key job).2 isKind := by
  refine tracks.of_entries ?_
  intro entry member ofKind
  rcases mem_entries_schedule member with isOld | rfl
  · exact ⟨entry.job, isOld, ofKind⟩
  · rw [otherKind] at ofKind
    cases ofKind

/-- In a table without repeated keys a key is looked up as it stands. -/
theorem lookup_eq_some
    [BEq κ]
    [LawfulBEq κ]
    {tickets : List (κ × Nat)}
    (distinct : (tickets.map Prod.fst).Nodup)
    {key : κ}
    {ticket : Nat}
    (member : (key, ticket) ∈ tickets) :
    tickets.lookup key = some ticket := by
  induction tickets with
  | nil =>
      cases member
  | cons first tickets inductionHypothesis =>
      obtain ⟨other, given⟩ := first
      rw [List.map_cons, List.nodup_cons] at distinct
      rcases List.mem_cons.mp member with same | later
      · cases same
        exact List.lookup_cons_self
      · have different : (key == other) = false := by
          rw [beq_eq_false_iff_ne]
          rintro rfl
          exact distinct.1 (List.mem_map.mpr ⟨_, later, rfl⟩)
        rw [List.lookup_cons, different]
        exact inductionHypothesis distinct.2 later

/-- A timer that is scheduled is tracked, and so are the others. -/
theorem schedule
    [BEq κ]
    [LawfulBEq κ]
    (tracks : table.Tracks agenda isKind)
    (key : κ)
    (job : J) :
    (table.schedule agenda key job).1.Tracks
      (table.schedule agenda key job).2 isKind := by
  let live :=
    table.tickets.filter fun entry => agenda.isLive entry.2
  have liveDistinct : (live.map Prod.fst).Nodup :=
    (List.filter_sublist.map Prod.fst).nodup tracks.distinct
  have tickets :
      (table.schedule agenda key job).1.tickets =
        live.filter (fun entry => !(entry.1 == key)) ++
          [(key, agenda.nextTicket)] := by
    rfl
  refine ⟨?_, ?_⟩
  · rw [tickets, List.map_append, List.nodup_append]
    refine ⟨(List.filter_sublist.map Prod.fst).nodup liveDistinct,
      by simp, ?_⟩
    rintro other isOther _ isKey rfl
    simp only [List.map_cons, List.map_nil, List.mem_singleton] at isKey
    subst isKey
    simp at isOther
  · intro entry member ofKind
    rw [tickets]
    have spawned :
        entry ∈ (agenda.spawn job).1.entries ∧
          ∀ previous, live.lookup key = some previous →
            entry.ticket ≠ previous := by
      simp only [TimerTable.schedule] at member
      split at member
      · rename_i previous isPrevious
        rw [Agenda.abort, Agenda.entries_filter, List.mem_filter]
          at member
        refine ⟨member.1, ?_⟩
        rintro _ same
        rw [isPrevious] at same
        cases same
        simpa using member.2
      · rename_i isNone
        refine ⟨member, ?_⟩
        intro previous same
        rw [isNone] at same
        cases same
    obtain ⟨isSpawned, notPrevious⟩ := spawned
    rcases List.mem_cons.mp
        ((Agenda.entries_spawn agenda job).mem_iff.mp isSpawned) with
        rfl | isOld
    · exact ⟨key, by simp⟩
    · obtain ⟨other, isListed⟩ := tracks.listed entry isOld ofKind
      have isLive : (other, entry.ticket) ∈ live := by
        refine List.mem_filter.mpr ⟨isListed, ?_⟩
        exact List.any_eq_true.mpr ⟨entry, isOld, by simp⟩
      have different : other ≠ key := by
        rintro rfl
        exact notPrevious _ (lookup_eq_some liveDistinct isLive) rfl
      exact ⟨other, by simp [isLive, different]⟩

/-- A job that is left after some were aborted is none of those. -/
theorem ticket_ne_of_mem_abortAll
    {tickets : List (κ × Nat)}
    {entry : Ticketed J}
    (member :
      entry ∈
        (tickets.foldl (fun rest other => rest.abort other.2)
          agenda).entries)
    {other : κ × Nat}
    (aborted : other ∈ tickets) :
    entry.ticket ≠ other.2 := by
  induction tickets generalizing agenda with
  | nil =>
      cases aborted
  | cons first tickets inductionHypothesis =>
      rcases List.mem_cons.mp aborted with rfl | later
      · have kept : entry ∈ (agenda.abort other.2).entries :=
          Agenda.mem_entries_abortAll member
        rw [Agenda.abort, Agenda.entries_filter, List.mem_filter] at kept
        simpa using kept.2
      · exact inductionHypothesis member later

/-- The timers that are left after cancelling are tracked. -/
theorem cancelWhere
    (tracks : table.Tracks agenda isKind)
    (chosen : κ → Bool) :
    (table.cancelWhere agenda chosen).1.Tracks
      (table.cancelWhere agenda chosen).2.1 isKind where
  distinct :=
    (List.filter_sublist.map Prod.fst).nodup tracks.distinct
  listed entry member ofKind := by
    obtain ⟨key, isListed⟩ :=
      tracks.listed entry (Agenda.mem_entries_abortAll member) ofKind
    refine ⟨key, List.mem_filter.mpr ⟨isListed, ?_⟩⟩
    cases isChosen : chosen key with
    | false =>
        rfl
    | true =>
        exact absurd rfl (ticket_ne_of_mem_abortAll member
          (List.mem_filter.mpr ⟨isListed, isChosen⟩))

/-- Once every timer has been cancelled there is none left. -/
theorem not_isKind_of_cancelled
    (tracks : table.Tracks agenda isKind)
    {entry : Ticketed J}
    (member :
      entry ∈
        (table.cancelWhere agenda fun _ => true).2.1.entries) :
    isKind entry.job = false := by
  cases ofKind : isKind entry.job with
  | false =>
      rfl
  | true =>
      obtain ⟨key, isListed⟩ :=
        (tracks.cancelWhere fun _ => true).listed entry member ofKind
      simp [TimerTable.cancelWhere] at isListed

end Tracks

end TimerTable

end Mockup
