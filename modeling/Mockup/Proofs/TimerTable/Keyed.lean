import Mathlib.Data.List.Nodup
import Mockup.Proofs.TimerTable

namespace Mockup

namespace TimerTable

/-!
# Timers by their keys

A table *keys* an agenda when every job on the agenda is a timer that the
table lists under the timer's own key.  Then a key has one timer at most, and
what the table does by tickets it does by keys: cancelling takes exactly the
timers of the chosen keys off the agenda, and scheduling replaces the timer of
one key.
-/

variable {κ J : Type}

/-- Every job is listed under its key, and nothing is listed twice. -/
structure Keys
    (table : TimerTable κ)
    (agenda : Agenda J)
    (keyOf : J → κ) :
    Prop where
  orderly :
    agenda.IsOrderly
  distinctKeys :
    (table.tickets.map Prod.fst).Nodup
  distinctTickets :
    (table.tickets.map Prod.snd).Nodup
  given :
    ∀ listed ∈ table.tickets, listed.2 < agenda.nextTicket
  listed :
    ∀ entry ∈ agenda.entries,
      (keyOf entry.job, entry.ticket) ∈ table.tickets

/-- The jobs of some keys are taken off an agenda. -/
def without
    (agenda : Agenda J)
    (keyOf : J → κ)
    (chosen : κ → Bool) :
    Agenda J :=
  agenda.filter fun entry => !chosen (keyOf entry.job)

end TimerTable

namespace Agenda

variable {J : Type}

theorem filter_congr
    {agenda : Agenda J}
    {keep other : Ticketed J → Bool}
    (same : ∀ entry ∈ agenda.entries, keep entry = other entry) :
    agenda.filter keep = agenda.filter other := by
  have ready : agenda.ready.filter keep = agenda.ready.filter other :=
    List.filter_congr fun entry member =>
      same entry (List.mem_append_left _ member)
  have armed :
      agenda.armed.filter (fun waiting => keep waiting.entry) =
        agenda.armed.filter (fun waiting => other waiting.entry) :=
    List.filter_congr fun waiting member =>
      same waiting.entry
        (List.mem_append_right _ (List.mem_map_of_mem member))
  rw [filter, filter, ready, armed]

/-- An agenda of which every job is kept is kept. -/
theorem filter_eq_self
    {agenda : Agenda J}
    {keep : Ticketed J → Bool}
    (all : ∀ entry ∈ agenda.entries, keep entry = true) :
    agenda.filter keep = agenda := by
  rw [filter_congr all]
  simp [filter]

theorem filter_filter
    (agenda : Agenda J)
    (first second : Ticketed J → Bool) :
    (agenda.filter first).filter second =
      agenda.filter fun entry => first entry && second entry := by
  simp [filter, List.filter_filter, Bool.and_comm]

/-- Aborting jobs one after another keeps the jobs of all other tickets. -/
theorem abortAll_eq
    (agenda : Agenda J)
    (tickets : List (κ × Nat)) :
    tickets.foldl (fun rest other => rest.abort other.2) agenda =
      agenda.filter fun entry =>
        tickets.all fun other => entry.ticket ≠ other.2 := by
  induction tickets generalizing agenda with
  | nil =>
      exact (filter_eq_self fun _ _ => rfl).symm
  | cons first tickets inductionHypothesis =>
      rw [List.foldl_cons, inductionHypothesis, abort, filter_filter]
      simp

end Agenda

namespace TimerTable

namespace Keys

variable
  {table : TimerTable κ}
  {agenda after : Agenda J}
  {keyOf : J → κ}

/-- A fresh table keys an agenda on which nothing has been put yet. -/
theorem fresh :
    Keys ({} : TimerTable κ) ({} : Agenda J) keyOf where
  orderly :=
    Agenda.isOrderly_of_entries_eq_nil rfl
  distinctKeys :=
    List.nodup_nil
  distinctTickets :=
    List.nodup_nil
  given _ member :=
    nomatch member
  listed _ member :=
    nomatch member

/-- A job is listed under no other key than its own. -/
theorem key_eq
    (keys : table.Keys agenda keyOf)
    {entry : Ticketed J}
    (member : entry ∈ agenda.entries)
    {key : κ}
    (listed : (key, entry.ticket) ∈ table.tickets) :
    key = keyOf entry.job := by
  have own := keys.listed entry member
  have same :=
    List.inj_on_of_nodup_map keys.distinctTickets listed own rfl
  exact congrArg Prod.fst same

/-- No two timers have one key. -/
theorem nodup_keys
    (keys : table.Keys agenda keyOf) :
    (agenda.entries.map fun entry => keyOf entry.job).Nodup := by
  have distinct := List.pairwise_map.mp keys.orderly.distinct
  refine List.pairwise_map.mpr (distinct.imp_of_mem ?_)
  intro first second isFirst isSecond different sameKey
  have firstListed := keys.listed first isFirst
  have secondListed := keys.listed second isSecond
  have same :=
    List.inj_on_of_nodup_map keys.distinctKeys firstListed secondListed
      sameKey
  exact different (congrArg Prod.snd same)

/-- A table still keys what there is when jobs go or change under their key. -/
theorem of_entries
    (keys : table.Keys agenda keyOf)
    (orderly : after.IsOrderly)
    (nextTicket : agenda.nextTicket ≤ after.nextTicket)
    (entries :
      ∀ entry ∈ after.entries,
        ∃ job,
          ⟨entry.ticket, job⟩ ∈ agenda.entries ∧
            keyOf job = keyOf entry.job) :
    table.Keys after keyOf where
  orderly :=
    orderly
  distinctKeys :=
    keys.distinctKeys
  distinctTickets :=
    keys.distinctTickets
  given listed member :=
    Nat.lt_of_lt_of_le (keys.given listed member) nextTicket
  listed entry member := by
    obtain ⟨job, wasThere, sameKey⟩ := entries entry member
    exact sameKey ▸ keys.listed ⟨entry.ticket, job⟩ wasThere

/-! ## Cancelling -/

/-- Cancelling takes the timers of the chosen keys off the agenda. -/
theorem agenda_cancelWhere
    (keys : table.Keys agenda keyOf)
    (chosen : κ → Bool) :
    (table.cancelWhere agenda chosen).2.1 =
      without agenda keyOf chosen := by
  refine (Agenda.abortAll_eq agenda _).trans (Agenda.filter_congr ?_)
  intro entry member
  have own := keys.listed entry member
  cases isChosen : chosen (keyOf entry.job) with
  | true =>
      simp only [Bool.not_true, List.all_eq_false]
      exact ⟨_, List.mem_filter.mpr ⟨own, isChosen⟩, by simp⟩
  | false =>
      simp only [Bool.not_false, List.all_eq_true, decide_eq_true_eq]
      rintro ⟨key, ticket⟩ isCancelled rfl
      obtain ⟨isListed, otherChosen⟩ := List.mem_filter.mp isCancelled
      rw [keys.key_eq member isListed, isChosen] at otherChosen
      cases otherChosen

theorem cancelWhere
    (keys : table.Keys agenda keyOf)
    (chosen : κ → Bool) :
    (table.cancelWhere agenda chosen).1.Keys
      (table.cancelWhere agenda chosen).2.1 keyOf := by
  have kept : List.Sublist
      (table.tickets.filter fun listed => !chosen listed.1)
      table.tickets :=
    List.filter_sublist
  rw [agenda_cancelWhere keys]
  refine ⟨(Agenda.Extends.filter agenda _).orderly keys.orderly,
    (kept.map Prod.fst).nodup keys.distinctKeys,
    (kept.map Prod.snd).nodup keys.distinctTickets,
    fun listed member => keys.given listed (kept.subset member), ?_⟩
  intro entry member
  rw [without, Agenda.entries_filter, List.mem_filter] at member
  exact List.mem_filter.mpr ⟨keys.listed entry member.1, member.2⟩

/-! ## Scheduling -/

variable [DecidableEq κ]

/-- Scheduling puts a timer on the agenda in place of the one of its key. -/
theorem agenda_schedule
    (keys : table.Keys agenda keyOf)
    (key : κ)
    (job : J) :
    (table.schedule agenda key job).2 =
      ((without agenda keyOf fun other => other = key).spawn job).1 := by
  let live :=
    table.tickets.filter fun listed => agenda.isLive listed.2
  have liveDistinct : (live.map Prod.fst).Nodup :=
    (List.filter_sublist.map Prod.fst).nodup keys.distinctKeys
  have isLive :
      ∀ entry ∈ agenda.entries,
        (keyOf entry.job, entry.ticket) ∈ live := by
    intro entry member
    refine List.mem_filter.mpr ⟨keys.listed entry member, ?_⟩
    exact List.any_eq_true.mpr ⟨entry, member, by simp⟩
  simp only [TimerTable.schedule]
  split
  · rename_i previous isPrevious
    obtain ⟨earlier, later, shape, _⟩ :=
      List.lookup_eq_some_iff.mp isPrevious
    have listed : (key, previous) ∈ table.tickets :=
      (List.mem_filter.mp
        (show (key, previous) ∈ live by simp [live, shape])).1
    have notNew : agenda.nextTicket ≠ previous :=
      Nat.ne_of_gt (keys.given _ listed)
    -- The previous timer is the only one that has the key.
    have same :
        agenda.abort previous =
          without agenda keyOf fun other => other = key := by
      refine Agenda.filter_congr ?_
      intro entry member
      by_cases isKey : keyOf entry.job = key
      · have own := keys.listed entry member
        have one :=
          List.inj_on_of_nodup_map keys.distinctKeys own listed isKey
        have sameTicket : entry.ticket = previous :=
          congrArg Prod.snd one
        simp [isKey, sameTicket]
      · have other : entry.ticket ≠ previous := by
          rintro rfl
          exact isKey (keys.key_eq member listed).symm
        simp [isKey, other]
    rw [← same]
    simp [Agenda.abort, Agenda.spawn, Agenda.filter, notNew]
  · rename_i isNone
    have same :
        (without agenda keyOf fun other => other = key) = agenda := by
      refine Agenda.filter_eq_self ?_
      intro entry member
      have other : keyOf entry.job ≠ key := by
        rintro rfl
        have found :=
          Tracks.lookup_eq_some liveDistinct (isLive entry member)
        rw [isNone] at found
        cases found
      simp [other]
    rw [same]

/-- A timer that is scheduled under its key is keyed. -/
theorem schedule
    (keys : table.Keys agenda keyOf)
    {key : κ}
    {job : J}
    (own : keyOf job = key) :
    (table.schedule agenda key job).1.Keys
      (table.schedule agenda key job).2 keyOf := by
  let live :=
    table.tickets.filter fun listed => agenda.isLive listed.2
  let others := live.filter fun listed => !(listed.1 == key)
  have kept : List.Sublist others table.tickets :=
    List.filter_sublist.trans List.filter_sublist
  have tickets :
      (table.schedule agenda key job).1.tickets =
        others ++ [(key, agenda.nextTicket)] := by
    rfl
  have orderly :=
    (Agenda.Extends.schedule table agenda key job).orderly keys.orderly
  refine ⟨orderly, ?_, ?_, ?_, ?_⟩
  · rw [tickets, List.map_append, List.nodup_append]
    refine ⟨(kept.map Prod.fst).nodup keys.distinctKeys, by simp, ?_⟩
    rintro other isOther _ isKey rfl
    simp only [List.map_cons, List.map_nil, List.mem_singleton] at isKey
    subst isKey
    simp [others] at isOther
  · rw [tickets, List.map_append, List.nodup_append]
    refine ⟨(kept.map Prod.snd).nodup keys.distinctTickets, by simp, ?_⟩
    rintro ticket isOther _ isNew rfl
    obtain ⟨listed, isListed, rfl⟩ := List.mem_map.mp isOther
    have old := keys.given listed (kept.subset isListed)
    simp only [List.map_cons, List.map_nil, List.mem_singleton] at isNew
    omega
  · rw [tickets, TimerTable.nextTicket_schedule]
    intro listed member
    rcases List.mem_append.mp member with isOther | isNew
    · exact Nat.lt_succ_of_lt (keys.given listed (kept.subset isOther))
    · rw [List.mem_singleton.mp isNew]
      exact Nat.lt_succ_self _
  · rw [tickets, agenda_schedule keys]
    intro entry member
    have perm :=
      Agenda.entries_spawn (without agenda keyOf fun other => other = key)
        job
    rcases List.mem_cons.mp (perm.mem_iff.mp member) with rfl | isOld
    · rw [own]
      exact List.mem_append_right _ (List.mem_singleton.mpr rfl)
    · rw [without, Agenda.entries_filter, List.mem_filter] at isOld
      refine List.mem_append_left _ (List.mem_filter.mpr ⟨?_, ?_⟩)
      · exact List.mem_filter.mpr ⟨keys.listed entry isOld.1,
          List.any_eq_true.mpr ⟨entry, isOld.1, by simp⟩⟩
      · simpa using isOld.2

end Keys

end TimerTable

end Mockup
