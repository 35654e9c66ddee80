import Mockup.Proofs.Clockwork
import Mockup.Proofs.Session.Records

namespace Mockup

/-!
# Rebuilding the state

A session that is observed, whatever happens to it, shows to the watchers
exactly the changes that the tried writes have made since it was booted, each
of them once and in order.  Assigning these changes to the state at the start
gives the state at the end.
-/

namespace Session

/-! ## Observed sessions -/

/-- A session is observed by all wirings through which actions act. -/
structure IsObserved
    (session : Session) :
    Prop where
  wired :
    ∀ wiring, session.wiring = some wiring → wiring.isObserved = true
  kept :
    ∀ entry ∈ session.agenda.entries, ∀ wiring,
      entry.job.wiring? = some wiring → wiring.isObserved = true

theorem IsObserved.of_records
    {before after : Session}
    {writes : List TriedWrite}
    (observed : IsObserved before)
    (records : Records writes before after) :
    IsObserved after where
  wired wiring isWired :=
    observed.wired wiring (records.wiring ▸ isWired)
  kept entry member wiring isKept := by
    rcases records.entries entry member with isOld | isFree | isOwn
    · exact observed.kept entry isOld wiring isKept
    · rw [isFree] at isKept
      cases isKept
    · exact observed.wired wiring (isOwn ▸ isKept)

/--
An observed session goes on, and some writes are tried: one at most by a job
that runs, one from outside, and none by anything else.  Any ready job may
run; what is launched has yet to begin; and a new wiring is observed too.
-/
inductive Advances
    (before : Session) : List TriedWrite → Session → Prop where
  | ran
      {entry : Ticketed Job}
      {rest : Agenda Job} :
      before.agenda.Takes entry rest →
      Advances before
        ({ before with agenda := rest }.write? entry.job).toList
        ({ before with agenda := rest }.runJob entry.ticket entry.job)
  | wrote
      (path : String)
      (value : Value) :
      Advances before [⟨path, value⟩] (before.setState path value).session
  | launched
      (origin : Origin)
      {stage : Stage} :
      stage.wiring? = none →
      Advances before [] (before.launch origin stage).1
  | slept
      (time : Nat) :
      Advances before []
        { before with agenda := before.agenda.moveTo time }
  | wired
      {wiring : Wiring} :
      wiring.isObserved = true →
      Advances before [] (before.wire wiring)
  | rewired
      {change : Wiring → Wiring} :
      (∀ wiring, (change wiring).isObserved = wiring.isObserved) →
      Advances before [] (before.rewire change)
  | connected
      (network : Network) :
      Advances before [] { before with network := network }
  | watched
      (path : String)
      (config : WatchConfig)
      (depth : Nat) :
      Advances before [] (before.addWatcher path config depth)
  | unwatched
      (path : String) :
      Advances before [] (before.removeWatchers path).1
  | unwatchedOne
      (path : String)
      (config : WatchConfig) :
      Advances before [] (before.removeWatcher path config).1
  | turned
      (pages : PageStack) :
      Advances before [] { before with pages := pages }
  | destroyed :
      Advances before [] before.destroy
  | stopped :
      Advances before [] before.shutdown

theorem records_addWatcher
    (session : Session)
    (path : String)
    (config : WatchConfig)
    (depth : Nat) :
    Records [] session (session.addWatcher path config depth) := by
  unfold addWatcher
  simp only
  split
  · rename_i watch firing _
    have remembers :
        Records [] session { session with watch := watch } :=
      .of_eq rfl rfl rfl rfl
    exact remembers.followed (records_trigger _ firing)
  · exact .of_eq rfl rfl rfl rfl

/-- Timers that are cancelled leave nothing to be recorded. -/
theorem records_of_cancels
    {session : Session}
    {desk : WatchDesk Job}
    (cancels : Cancels session.toWatchDesk desk) :
    Records [] session { session with toWatchDesk := desk } :=
  .of_entries rfl rfl rfl fun _ member => Or.inl (cancels.subset member)

/-- What makes a session inert wakes tasks that keep no wiring. -/
theorem wiring?_of_mem_destroy
    {session : Session}
    {entry : Ticketed Job}
    (member : entry ∈ session.destroy.agenda.entries) :
    entry ∈ session.agenda.entries ∨ entry.job.wiring? = none := by
  obtain ⟨job, wasThere, rfl | wakes⟩ := mem_entries_destroy member
  · exact Or.inl wasThere
  · obtain ⟨_, _, _, _, _, woken⟩ := exists_of_woken? wakes
    rw [woken]
    exact Or.inr rfl

theorem IsObserved.destroy
    {session : Session}
    (observed : IsObserved session) :
    IsObserved session.destroy where
  wired := by
    rintro _ ⟨⟩
  kept entry member wiring isKept := by
    rcases wiring?_of_mem_destroy member with isOld | isFree
    · exact observed.kept entry isOld wiring isKept
    · rw [isFree] at isKept
      cases isKept

/-- A step of an observed session shows the changes of its writes. -/
theorem Advances.recorded
    {before after : Session}
    {writes : List TriedWrite}
    (advances : Advances before writes after)
    (observed : IsObserved before) :
    IsObserved after ∧
      after.changes =
        before.changes ++ TriedWrite.changes before.store.state writes ∧
      after.store.state =
        writes.foldl TriedWrite.apply before.store.state := by
  have recorded :
      ∀ {writes : List TriedWrite} {after : Session},
        Records writes before after →
        IsObserved after ∧
          after.changes =
            before.changes ++
              TriedWrite.changes before.store.state writes ∧
          after.store.state =
            writes.foldl TriedWrite.apply before.store.state :=
    fun records =>
      ⟨observed.of_records records, records.changes, records.state⟩
  -- What concerns neither the journal nor the state needs no record.
  have idle :
      ∀ {after : Session},
        IsObserved after →
        after.journal = before.journal →
        after.store = before.store →
        IsObserved after ∧
          after.changes =
            before.changes ++ TriedWrite.changes before.store.state [] ∧
          after.store.state =
            [].foldl TriedWrite.apply before.store.state := by
    intro after stays journal store
    exact ⟨stays, by simp [changes, journal, TriedWrite.changes],
      by simp [store]⟩
  cases advances with
  | @ran entry rest takes =>
      have taken : Records [] before { before with agenda := rest } :=
        .of_entries rfl rfl rfl fun _ member =>
          Or.inl (takes.perm.mem_iff.mpr (List.mem_cons_of_mem _ member))
      have kept :=
        observed.kept entry (takes.perm.mem_iff.mpr List.mem_cons_self)
      have runs :=
        records_runJob { before with agenda := rest } observed.wired
          entry.ticket entry.job kept
      exact recorded (taken.preceded runs)
  | wrote path value =>
      exact recorded (records_setState before path value)
  | launched origin fresh =>
      exact recorded (.spawn before fresh)
  | slept time =>
      exact recorded
        (.of_entries rfl rfl rfl fun _ member =>
          Or.inl ((Agenda.entries_moveTo _ time).mem_iff.mp member))
  | wired isObserved =>
      refine idle ⟨?_, observed.kept⟩ rfl rfl
      rintro _ ⟨⟩
      exact isObserved
  | rewired keeps =>
      refine idle ⟨?_, observed.kept⟩ rfl rfl
      intro wiring isWired
      obtain ⟨old, wasWired, rfl⟩ := Option.map_eq_some_iff.mp isWired
      rw [keeps]
      exact observed.wired old wasWired
  | connected network =>
      exact recorded (.of_eq rfl rfl rfl rfl)
  | watched path config depth =>
      exact recorded (records_addWatcher before path config depth)
  | unwatched path =>
      exact recorded (records_of_cancels (cancels_removeAll _ path))
  | unwatchedOne path config =>
      exact recorded (records_of_cancels (cancels_remove _ path config))
  | turned pages =>
      exact recorded (.of_eq rfl rfl rfl rfl)
  | destroyed =>
      exact idle observed.destroy rfl rfl
  | stopped =>
      have unwatched : IsObserved before.unwatched :=
        observed.of_records
          (records_of_cancels (cancels_clear _))
      refine idle ⟨?_, ?_⟩ rfl rfl
      · rintro _ ⟨⟩
      · intro entry member
        rw [shutdown_eq, Agenda.entries_filter] at member
        exact unwatched.destroy.kept entry (List.mem_filter.mp member).1

/-! ## Runs -/

/-- An observed session has come about, and some writes have been tried. -/
inductive Recorded
    (app : AppDocument)
    (settings : Settings)
    (functions : Registry) : List TriedWrite → Session → Prop where
  | booted :
      Recorded app settings functions [] (boot app settings functions)
  | advanced
      {earlier writes : List TriedWrite}
      {before after : Session} :
      Recorded app settings functions earlier before →
      Advances before writes after →
      Recorded app settings functions (earlier ++ writes) after

/-- A session is observed from the start, and has shown no change yet. -/
theorem records_boot
    (app : AppDocument)
    (settings : Settings)
    (functions : Registry) :
    IsObserved (boot app settings functions) ∧
      (boot app settings functions).changes = [] := by
  let unwired := inert app settings (pageCapacity app settings)
  let wired : Session :=
    { unwired with
      watch := { functions := functions },
      wiring := some { isObserved := true } }
  have declared :
      ∀ (declarations : List WatchDeclaration) (session : Session),
        Records [] session (declarations.foldl addDeclared session) := by
    intro declarations
    induction declarations with
    | nil =>
        exact .refl
    | cons declaration declarations inductionHypothesis =>
        intro session
        refine Records.followed ?_ (inductionHypothesis _)
        unfold addDeclared
        split
        · exact records_addWatcher session _ _ _
        · exact .refl session
  have observed : IsObserved wired := by
    refine ⟨?_, fun _ member => nomatch member⟩
    rintro _ ⟨⟩
    rfl
  have records := declared app.watchDeclarations wired
  exact ⟨observed.of_records records, records.changes⟩

/-- Letting time pass does nothing but run jobs and move the clock. -/
theorem Recorded.exists_advance
    {app : AppDocument}
    {settings : Settings}
    {functions : Registry}
    {earlier : List TriedWrite}
    {session : Session}
    (recorded : Recorded app settings functions earlier session)
    (time : Nat) :
    ∃ later,
      Recorded app settings functions (earlier ++ later)
        (session.advance time) := by
  let Reached (current : Session) : Prop :=
    ∃ later,
      Recorded app settings functions (earlier ++ later) current
  have reached : Reached session :=
    ⟨[], by simpa using recorded⟩
  refine Clockwork.kept_runTo ?_ ?_ _ reached
  · rintro current next ⟨later, reached⟩ stepped
    simp only [clockwork, step?] at stepped
    split at stepped
    · cases stepped
    · rename_i entry rest isNext
      cases stepped
      have ran := Advances.ran (Agenda.takes_of_next? isNext)
      exact ⟨_, List.append_assoc .. ▸ reached.advanced ran⟩
  · rintro current moment ⟨later, reached⟩
    exact ⟨_, List.append_assoc .. ▸ reached.advanced (.slept moment)⟩

/--
The changes that are shown to the watchers are those of the tried writes: one
for each write that succeeds and none for one that fails, in order, each with
the canonical path, the written value, and what was there just before.  They
rebuild the state when they are assigned to the state at the start.
-/
theorem changes_rebuild_state
    {app : AppDocument}
    {settings : Settings}
    {functions : Registry}
    {writes : List TriedWrite}
    {session : Session}
    (recorded : Recorded app settings functions writes session) :
    let start := (boot app settings functions).store.state
    session.changes = TriedWrite.changes start writes ∧
      session.store.state = writes.foldl TriedWrite.apply start ∧
      session.store.state =
        session.changes.foldl StateChange.assignTo start := by
  intro start
  have whole :
      IsObserved session ∧
        session.changes = TriedWrite.changes start writes ∧
        session.store.state = writes.foldl TriedWrite.apply start := by
    induction recorded with
    | booted =>
        obtain ⟨observed, unchanged⟩ := records_boot app settings functions
        exact ⟨observed, unchanged, rfl⟩
    | advanced _ advances inductionHypothesis =>
        obtain ⟨observed, shown, state⟩ := inductionHypothesis
        obtain ⟨stays, shownNow, stateNow⟩ := advances.recorded observed
        refine ⟨stays, ?_, ?_⟩
        · rw [shownNow, shown, state, TriedWrite.changes_append]
        · rw [stateNow, state, List.foldl_append]
  obtain ⟨_, shown, state⟩ := whole
  refine ⟨shown, state, ?_⟩
  rw [shown, state, TriedWrite.foldl_assignTo_changes]

/-- An action that writes at a path with dots. -/
def nameWrite : Action where
  kind :=
    .updateState "user.name" (.string "Ada")
  params :=
    []
  onError :=
    none

/-- A session in which an action has written and a write is refused. -/
def namedSession : Session :=
  let launched := ((boot {} {}).launch .dispatched (.start nameWrite 0)).1
  ((launched.advance 10).setState "/" .null).session

/-- The write of an action is shown at its canonical path. -/
theorem changes_rebuild_state_nameWrite :
    ∃ writes,
      Recorded {} {} .defaults writes namedSession ∧
        namedSession.changes =
          TriedWrite.changes (boot {} {}).store.state writes ∧
        namedSession.changes.map StateChange.path = ["/user/name"] ∧
        namedSession.store.state =
          namedSession.changes.foldl StateChange.assignTo
            (boot {} {}).store.state := by
  have launches :
      Advances (boot {} {}) []
        ((boot {} {}).launch .dispatched (.start nameWrite 0)).1 :=
    .launched .dispatched rfl
  have launched := Recorded.advanced .booted launches
  obtain ⟨writes, advanced⟩ := launched.exists_advance 10
  have recorded := advanced.advanced (.wrote "/" .null)
  obtain ⟨shown, _, rebuilt⟩ := changes_rebuild_state recorded
  exact ⟨_, recorded, shown, by decide +kernel, rebuilt⟩

end Session

end Mockup
