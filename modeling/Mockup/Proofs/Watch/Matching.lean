import Mockup.Proofs.Path.Segments
import Mockup.Proofs.Watch.Operations

namespace Mockup

/-!
# Which watchers a change concerns

A watched path *stands for* a path when they have equally many segments and
each segment of the watched path is a star or the segment at its place.  A
change is shown to the watchers whose paths stand for its path: to each of them
once, to those of the very path first, and to those of one path in the order in
which they were registered.  Which watchers are registered follows from what
was done with the watch, and from nothing that was shown or that fired.
-/

/-- A watcher, and the canonical path that it is registered for. -/
abbrev Registration :=
  String × WatchConfig

/-! ## What is registered -/

/-- Whether a watcher of a path is registered that is the same as another. -/
def Registration.isOf
    (path : String)
    (config : WatchConfig)
    (registration : Registration) :
    Bool :=
  registration.1 = path && registration.2.same config

namespace WatchOperation

/-- What is registered after an operation, in order of registration. -/
def registrations
    (before : List Registration) :
    WatchOperation → List Registration
  | .add path config _ =>
      before ++ [(Path.normalize path, config)]
  | .remove path config =>
      before.eraseP (Registration.isOf (Path.normalize path) config)
  | .removeAll path | .clearPath path =>
      before.filter fun registration =>
        registration.1 ≠ Path.normalize path
  | .clear =>
      []
  | .notify _ _ | .advance _ =>
      before

/-- What is registered after some operations, in order of registration. -/
def allRegistrations
    (operations : List WatchOperation) :
    List Registration :=
  operations.foldl registrations []

end WatchOperation

namespace Watch

/-- The watchers of a path among those that are registered. -/
def ofPath
    (path : String)
    (registrations : List Registration) :
    List WatchConfig :=
  (registrations.filter fun registration => registration.1 = path).map
    Prod.snd

theorem ofPath_append
    (path : String)
    (earlier later : List Registration) :
    ofPath path (earlier ++ later) =
      ofPath path earlier ++ ofPath path later := by
  simp [ofPath]

theorem ofPath_cons
    (path : String)
    (registration : Registration)
    (others : List Registration) :
    ofPath path (registration :: others) =
      if registration.1 = path then
        registration.2 :: ofPath path others
      else
        ofPath path others := by
  by_cases own : registration.1 = path <;> simp [ofPath, own]

/-- When a path loses its watchers, the other paths keep theirs. -/
theorem ofPath_filter_ne
    (path other : String)
    (registrations : List Registration) :
    ofPath other
        (registrations.filter fun registration =>
          registration.1 ≠ path) =
      if other = path then [] else ofPath other registrations := by
  rw [ofPath, List.filter_filter]
  split
  · rename_i isPath
    simp [isPath]
  · rename_i isOther
    refine congrArg (List.map Prod.snd) (List.filter_congr ?_)
    intro registration _
    by_cases own : registration.1 = other <;> simp [own, isOther]

/-- Of the watchers of a path the first one goes that is the same. -/
theorem ofPath_eraseP_same
    (path : String)
    (config : WatchConfig)
    (registrations : List Registration) :
    ofPath path
        (registrations.eraseP (Registration.isOf path config)) =
      (removeFirst config (ofPath path registrations)).getD
        (ofPath path registrations) := by
  induction registrations with
  | nil =>
      rfl
  | cons registration others inductionHypothesis =>
      by_cases own : registration.1 = path
      · by_cases alike : registration.2.same config = true
        · have taken : registration.isOf path config = true := by
            simp [Registration.isOf, own, alike]
          simp [List.eraseP_cons_of_pos taken, ofPath_cons, own,
            removeFirst, alike]
        · have kept : ¬ registration.isOf path config = true := by
            simp [Registration.isOf, alike]
          rw [List.eraseP_cons_of_neg kept]
          simp only [ofPath_cons, own, if_true, inductionHypothesis,
            removeFirst, alike]
          cases removeFirst config (ofPath path others) <;> rfl
      · have kept : ¬ registration.isOf path config = true := by
          simp [Registration.isOf, own]
        rw [List.eraseP_cons_of_neg kept]
        simpa only [ofPath_cons, own, if_false] using inductionHypothesis

/-- When a path loses one of its watchers, the other paths keep theirs. -/
theorem ofPath_eraseP_other
    {path other : String}
    (isOther : other ≠ path)
    (config : WatchConfig)
    (registrations : List Registration) :
    ofPath other
        (registrations.eraseP (Registration.isOf path config)) =
      ofPath other registrations := by
  induction registrations with
  | nil =>
      rfl
  | cons registration others inductionHypothesis =>
      by_cases taken : registration.isOf path config = true
      · have own : registration.1 = path := by
          simp only [Registration.isOf, Bool.and_eq_true,
            decide_eq_true_eq] at taken
          exact taken.1
        rw [List.eraseP_cons_of_pos taken, ofPath_cons, own,
          if_neg (Ne.symm isOther)]
      · rw [List.eraseP_cons_of_neg taken, ofPath_cons,
          inductionHypothesis, ofPath_cons]

/-- When no such watcher is found, the watch stays as it is. -/
theorem eq_of_remove
    {watch after : Watch}
    {path : String}
    {config : WatchConfig}
    (notFound : watch.remove path config = (after, false)) :
    after = watch := by
  unfold remove at notFound
  simp only at notFound
  split at notFound
  · cases notFound
  · cases notFound
    rfl

/--
A watch *lists* registrations when it has the watchers of each path in their
order, and the paths are canonical.
-/
structure Lists
    (watch : Watch)
    (registrations : List Registration) :
    Prop where
  distinct :
    (Entries.names watch.registered).Nodup
  watchers :
    ∀ path, watch.watchers path = ofPath path registrations
  canonical :
    ∀ registration ∈ registrations,
      Path.normalize registration.1 = registration.1

namespace Lists

variable {watch : Watch} {registrations : List Registration}

theorem empty :
    Lists {} [] :=
  ⟨List.nodup_nil, fun _ => rfl, by simp⟩

theorem congr
    {after : Watch}
    (lists : watch.Lists registrations)
    (same : after.registered = watch.registered) :
    after.Lists registrations where
  distinct :=
    same ▸ lists.distinct
  watchers path :=
    (watchers_congr same path).trans (lists.watchers path)
  canonical :=
    lists.canonical

/-- A watcher that is added comes last. -/
theorem register
    (lists : watch.Lists registrations)
    (path : String)
    (config : WatchConfig) :
    (watch.register (Path.normalize path) config).Lists
      (registrations ++ [(Path.normalize path, config)]) where
  distinct :=
    Entries.nodup_names_insert lists.distinct _ _
  watchers other := by
    rw [watchers_register, ofPath_append, ofPath_cons, lists.watchers]
    by_cases isPath : other = Path.normalize path
    · simp [isPath, ofPath]
    · simp [isPath, Ne.symm isPath, ofPath]
  canonical := by
    intro registration member
    rcases List.mem_append.mp member with isOld | isNew
    · exact lists.canonical registration isOld
    · rw [List.mem_singleton.mp isNew]
      exact Path.normalize_normalize path

/-- A watcher that is removed is the first of its path that is the same. -/
theorem remove
    (lists : watch.Lists registrations)
    (path : String)
    (config : WatchConfig) :
    (watch.remove path config).1.Lists
      (registrations.eraseP
        (Registration.isOf (Path.normalize path) config)) := by
  have canonical :
      ∀ registration ∈
          registrations.eraseP
            (Registration.isOf (Path.normalize path) config),
        Path.normalize registration.1 = registration.1 :=
    fun registration member =>
      lists.canonical registration (List.mem_of_mem_eraseP member)
  have own :
      (Entries.get? watch.registered (Path.normalize path)).getD [] =
        ofPath (Path.normalize path) registrations :=
    lists.watchers (Path.normalize path)
  have same :=
    ofPath_eraseP_same (Path.normalize path) config registrations
  unfold Watch.remove
  simp only [own]
  cases removes :
      removeFirst config (ofPath (Path.normalize path) registrations) with
  | none =>
      refine ⟨lists.distinct, fun other => ?_, canonical⟩
      rw [lists.watchers]
      by_cases isPath : other = Path.normalize path
      · rw [isPath, same, removes]
        rfl
      · rw [ofPath_eraseP_other isPath]
  | some rest =>
      refine ⟨nodup_names_setPath lists.distinct _ _, fun other => ?_,
        canonical⟩
      rw [watchers_setPath lists.distinct]
      by_cases isPath : other = Path.normalize path
      · rw [if_pos isPath, isPath, same, removes]
        rfl
      · rw [if_neg isPath, lists.watchers, ofPath_eraseP_other isPath]

/-- When a path is given up, the other paths keep their watchers. -/
theorem without
    (lists : watch.Lists registrations)
    {after : Watch}
    (path : String)
    (distinct : (Entries.names after.registered).Nodup)
    (watchers :
      ∀ other,
        after.watchers other =
          if other = path then [] else watch.watchers other) :
    after.Lists
      (registrations.filter fun registration =>
        registration.1 ≠ path) where
  distinct :=
    distinct
  watchers other := by
    rw [watchers, ofPath_filter_ne, lists.watchers]
  canonical registration member :=
    lists.canonical registration (List.mem_filter.mp member).1

end Lists

end Watch
namespace TimedWatch

open Watch (Lists)

variable {timed : TimedWatch} {registrations : List Registration}

theorem registered_fire
    (timed : TimedWatch)
    (firing : Firing) :
    (timed.fire firing).watch.registered = timed.watch.registered := by
  have same := (Watch.resembles_fire timed.watch firing).registered
  unfold fire
  simp only
  cases (timed.watch.fire firing).2 <;> exact same

/-- Letting time pass registers nothing and removes nothing. -/
theorem registered_advance
    (timed : TimedWatch)
    (time : Nat) :
    (timed.advance time).watch.registered = timed.watch.registered := by
  let Kept : TimedWatch → Prop :=
    fun current => current.watch.registered = timed.watch.registered
  have stepped :
      ∀ current next,
        Kept current → clockwork.step? current = some next → Kept next := by
    intro current next kept isNext
    obtain ⟨entry, rest, _, rfl⟩ := exists_takes_of_step? isNext
    refine Eq.trans ?_ kept
    unfold runTimer
    split
    · exact registered_fire { current with agenda := rest } entry.job.work
    · rfl
  have moved :
      ∀ current moment,
        Kept current → Kept (clockwork.moveTo moment current) :=
    fun _ _ kept => kept
  unfold advance
  split
  · exact Clockwork.kept_runTo stepped moved _ (rfl : Kept timed)
  · rfl

/-- Showing a change registers nothing and removes nothing. -/
theorem registered_notify
    (timed : TimedWatch)
    (change : StateChange)
    (context : WatchContext) :
    (timed.notify change context).watch.registered =
      timed.watch.registered := by
  let answer :=
    timed.watch.notify ⟨timed.agenda.now, timed.hasClock⟩ change context
  have carriedOut :=
    (log_foldl_carryOut { timed with watch := answer.1 } answer.2).1
  exact (congrArg Watch.registered carriedOut).trans
    (Watch.resembles_notify _ _ _ _).registered

/-- An operation leaves the registrations that it says it does. -/
theorem lists_perform
    (lists : timed.watch.Lists registrations)
    (operation : WatchOperation) :
    (timed.perform operation).watch.Lists
      (operation.registrations registrations) := by
  cases operation with
  | add path config context =>
      have registered := lists.register path config
      change (timed.add path config context).watch.Lists _
      rw [add_eq]
      split
      · exact registered.congr (registered_fire _ _)
      · exact registered
  | remove path config =>
      have removed := lists.remove path config
      change (timed.remove path config).1.watch.Lists _
      unfold TimedWatch.remove WatchDesk.remove
      rcases removal : timed.watch.remove path config with ⟨watch, isFound⟩
      rw [removal] at removed
      cases isFound with
      | true =>
          exact removed
      | false =>
          exact Watch.eq_of_remove removal ▸ removed
  | removeAll path =>
      let watched := Path.normalize path
      have distinct := lists.distinct
      change (timed.removeAll path).1.watch.Lists _
      unfold TimedWatch.removeAll WatchDesk.removeAll Watch.removeAll
      simp only
      split
      · rename_i none
        have empty : timed.watch.watchers watched = [] :=
          List.eq_nil_of_length_eq_zero (congrArg Prod.snd none)
        refine lists.without watched distinct fun other => ?_
        split
        · rename_i isPath
          rw [isPath, empty]
        · rfl
      · rename_i watch count _ removed
        cases removed
        exact lists.without watched
          (Watch.nodup_names_setPath distinct _ _)
          (Watch.watchers_setPath distinct _ _)
  | notify change context =>
      exact lists.congr (registered_notify timed change context)
  | clearPath path =>
      exact lists.without (Path.normalize path)
        (Entries.nodup_names_erase lists.distinct _)
        (Watch.watchers_clearPath lists.distinct path)
  | clear =>
      exact Watch.Lists.empty.congr rfl
  | advance time =>
      exact lists.congr (registered_advance timed time)

/-- What is registered after some operations is what they left. -/
theorem lists_performAll
    (functions : Registry)
    (hasClock : Bool)
    (operations : List WatchOperation) :
    (performAll (fresh functions hasClock) operations).watch.Lists
      (WatchOperation.allRegistrations operations) := by
  have run :
      ∀ (later : List WatchOperation) (current : TimedWatch) left,
        current.watch.Lists left →
          (performAll current later).watch.Lists
            (later.foldl WatchOperation.registrations left) := by
    intro later
    induction later with
    | nil =>
        exact fun _ _ => id
    | cons operation later inductionHypothesis =>
        intro current left lists
        exact inductionHypothesis _ _ (lists_perform lists operation)
  exact run operations _ [] (Watch.Lists.empty.congr rfl)

end TimedWatch

/-! ## What stands for a path -/

namespace Watch

/-- Whether a watched path stands for a path, segment by segment. -/
def StandsFor
    (watched path : String) :
    Prop :=
  List.Forall₂ (fun pattern segment => pattern = "*" ∨ pattern = segment)
    (Path.stateSegments watched) (Path.stateSegments path)

instance
    (watched path : String) :
    Decidable (StandsFor watched path) :=
  inferInstanceAs (Decidable (List.Forall₂ _ _ _))

theorem matchesSegments_iff
    (patterns segments : List String) :
    matchesSegments patterns segments = true ↔
      List.Forall₂ (fun pattern segment =>
        pattern = "*" ∨ pattern = segment) patterns segments := by
  induction patterns generalizing segments with
  | nil =>
      cases segments <;> simp [matchesSegments]
  | cons pattern patterns inductionHypothesis =>
      cases segments with
      | nil =>
          simp [matchesSegments]
      | cons segment segments =>
          simp [matchesSegments, inductionHypothesis]

/-- Every path stands for itself, however it is written. -/
theorem standsFor_normalize
    (path : String) :
    StandsFor (Path.normalize path) path := by
  unfold StandsFor
  rw [Path.stateSegments_normalize]
  exact List.forall₂_same.mpr fun _ _ => Or.inr rfl

/-- Segments without a star stand for themselves only. -/
theorem eq_of_starless
    {patterns segments : List String}
    (fits :
      List.Forall₂ (fun pattern segment =>
        pattern = "*" ∨ pattern = segment) patterns segments)
    (starless : "*" ∉ patterns) :
    patterns = segments := by
  induction fits with
  | nil =>
      rfl
  | cons first _ inductionHypothesis =>
      obtain ⟨notStar, starlessRest⟩ :=
        not_or.mp (List.mem_cons.not.mp starless)
      rw [first.resolve_left (Ne.symm notStar),
        inductionHypothesis starlessRest]

section

variable
  {watched : String}
  (canonical : Path.normalize watched = watched)
include canonical

/-- The segments of a canonical path lie between its slashes. -/
theorem stateSegments_eq_segments :
    Path.stateSegments watched = Path.segments watched := by
  rw [← Path.segments_normalize, canonical]

/-- A path in which there is no star stands for no other path. -/
theorem eq_of_standsFor
    {path : String}
    (stands : StandsFor watched path)
    (noPattern : isPattern watched = false) :
    watched = Path.normalize path := by
  have starless : "*" ∉ Path.stateSegments watched := by
    rw [stateSegments_eq_segments canonical]
    intro member
    have inPath :=
      Path.mem_of_mem_segments member
        (List.mem_singleton.mpr rfl : '*' ∈ "*".toList)
    simp [isPattern, inPath] at noPattern
  rw [← canonical]
  exact congrArg Path.canonical (eq_of_starless stands starless)

/--
Looking a path up by its text, and patterns by their segments, finds what
stands for the path.
-/
theorem concerns_iff_standsFor
    (path : String) :
    concerns watched (Path.normalize path) = true ↔
      StandsFor watched path := by
  have bySegments :
      matchesSegments (Path.segments watched)
          (Path.segments (Path.normalize path)) = true ↔
        StandsFor watched path := by
    rw [matchesSegments_iff, Path.segments_normalize,
      ← stateSegments_eq_segments canonical]
    rfl
  simp only [concerns, Bool.or_eq_true, Bool.and_eq_true,
    decide_eq_true_eq, bySegments]
  constructor
  · rintro (rfl | ⟨_, stands⟩)
    · exact standsFor_normalize path
    · exact stands
  · intro stands
    cases isPattern : isPattern watched with
    | true =>
        exact Or.inr ⟨rfl, stands⟩
    | false =>
        exact Or.inl (eq_of_standsFor canonical stands isPattern)

end

/-! ## What a change concerns -/

/--
The watchers that a change at a path concerns, out of those that are
registered: all that stand for the path and each of them once, those of the
very path first, and those of any one path in order of registration.
-/
structure Considers
    (registrations considered : List Registration)
    (path : String) :
    Prop where
  once :
    considered.Perm
      (registrations.filter fun registration =>
        StandsFor registration.1 path)
  identical_first :
    ∃ others,
      considered =
          (registrations.filter fun registration =>
            registration.1 = Path.normalize path) ++ others ∧
        ∀ registration ∈ others, registration.1 ≠ Path.normalize path
  in_order :
    ∀ watched,
      considered.filter (fun registration => registration.1 = watched) =
        (registrations.filter fun registration =>
          StandsFor registration.1 path).filter fun registration =>
            registration.1 = watched

/-- Lists with the same entries under each name have the same entries. -/
theorem perm_of_filter_eq
    {first second : List (String × β)}
    (same :
      ∀ name,
        first.filter (fun entry => entry.1 = name) =
          second.filter fun entry => entry.1 = name) :
    first.Perm second := by
  classical
  refine List.perm_iff_count.mpr fun entry => ?_
  let own : String × β → Bool :=
    fun other => other.1 = entry.1
  have isOwn : own entry = true :=
    decide_eq_true rfl
  rw [← List.count_filter isOwn, ← List.count_filter isOwn (l := second)]
  exact congrArg (List.count entry) (same entry.1)

/-- The registrations of one path, out of its watchers. -/
theorem map_ofPath
    (path : String)
    (registrations : List Registration) :
    (ofPath path registrations).map (Prod.mk path) =
      registrations.filter fun registration => registration.1 = path := by
  rw [ofPath, List.map_map]
  refine (List.map_congr_left fun registration member => ?_).trans
    (List.map_id _)
  have own : registration.1 = path := by
    simpa using (List.mem_filter.mp member).2
  simp [← own]

/-- Of one path, either all registrations stand for another or none does. -/
theorem filter_standsFor
    (registrations : List Registration)
    (path watched : String) :
    ((registrations.filter fun registration =>
        StandsFor registration.1 path).filter fun registration =>
          registration.1 = watched) =
      if StandsFor watched path then
        registrations.filter fun registration => registration.1 = watched
      else
        [] := by
  rw [List.filter_filter]
  split
  · rename_i stands
    refine List.filter_congr fun registration _ => ?_
    by_cases own : registration.1 = watched <;> simp [own, stands]
  · rename_i stands
    refine List.filter_eq_nil_iff.mpr fun registration _ => ?_
    simp only [Bool.and_eq_true, decide_eq_true_eq, not_and]
    rintro rfl
    exact stands

/-- Watchers are told together with the path that they are listed under. -/
theorem exists_entry_of_mem_flatMap
    {entries : Entries (List WatchConfig)}
    {registration : Registration}
    (member : registration ∈ entries.flatMap withPath) :
    ∃ entry ∈ entries, entry.1 = registration.1 := by
  obtain ⟨entry, isEntry, ofEntry⟩ := List.mem_flatMap.mp member
  obtain ⟨config, _, rfl⟩ := List.mem_map.mp ofEntry
  exact ⟨entry, isEntry, rfl⟩

/-- The watchers of the very path come before those of any pattern. -/
theorem concerned_eq_own_append
    (watch : Watch)
    (path : String) :
    ∃ own others,
      watch.concerned path = own ++ others ∧
        (∀ registration ∈ own, registration.1 = path) ∧
          ∀ registration ∈ others, registration.1 ≠ path := by
  refine ⟨_, _, List.flatMap_append, ?_, ?_⟩
  · intro registration member
    obtain ⟨entry, isEntry, same⟩ := exists_entry_of_mem_flatMap member
    simpa [same] using (List.mem_filter.mp isEntry).2
  · intro registration member
    obtain ⟨entry, isEntry, same⟩ := exists_entry_of_mem_flatMap member
    have different := (List.mem_filter.mp isEntry).2
    simp only [Bool.and_eq_true, decide_eq_true_eq] at different
    exact same ▸ different.1.1

section

variable
  {watch : Watch}
  {registrations : List Registration}
  (lists : watch.Lists registrations)
include lists

/-- The watchers of one path that a change concerns are in their order. -/
theorem filter_concerned_of_lists
    (path watched : String) :
    (watch.concerned (Path.normalize path)).filter
        (fun registration => registration.1 = watched) =
      (registrations.filter fun registration =>
        StandsFor registration.1 path).filter fun registration =>
          registration.1 = watched := by
  rw [filter_path_concerned lists.distinct, lists.watchers, map_ofPath,
    filter_standsFor]
  cases shape :
      registrations.filter fun registration => registration.1 = watched with
  | nil =>
      simp
  | cons registration others =>
      have member :
          registration ∈ registrations.filter fun registration =>
            registration.1 = watched := by
        simp [shape]
      obtain ⟨isRegistered, own⟩ := List.mem_filter.mp member
      have canonical := lists.canonical registration isRegistered
      rw [of_decide_eq_true own] at canonical
      simp only [concerns_iff_standsFor canonical]

/-- A change concerns what stands for its path, and each of that once. -/
theorem considers_concerned
    (path : String) :
    Considers registrations (watch.concerned (Path.normalize path))
      path where
  once := by
    refine perm_of_filter_eq fun watched => ?_
    exact filter_concerned_of_lists lists path watched
  identical_first := by
    obtain ⟨own, others, parts, isOwn, isOther⟩ :=
      concerned_eq_own_append watch (Path.normalize path)
    have listed :=
      filter_concerned_of_lists lists path (Path.normalize path)
    have allOwn :=
      List.filter_eq_self.mpr fun registration member =>
        decide_eq_true (isOwn registration member)
    have noOther :=
      List.filter_eq_nil_iff.mpr fun registration member isOwn =>
        isOther registration member (of_decide_eq_true isOwn)
    rw [filter_standsFor, if_pos (standsFor_normalize path), parts,
      List.filter_append, allOwn, noOther, List.append_nil] at listed
    exact ⟨others, by rw [parts, listed], isOther⟩
  in_order :=
    filter_concerned_of_lists lists path

end

end Watch

namespace TimedWatch

/--
A change is shown to the watchers that stand for its path.  Whatever was done
with a watch before, and however the paths were written, the watchers that
answer to a change, one after the other, are the registered ones whose path
has as many segments as the changed one, each of them a star or the segment at
its place; each answers once, those of the very path first, and those of one
path in order of registration.
-/
theorem notify_considers_standing
    (functions : Registry)
    (hasClock : Bool)
    (operations : List WatchOperation)
    (change : StateChange)
    (context : WatchContext) :
    let timed := performAll (fresh functions hasClock) operations
    let path := Path.normalize change.path
    let considered := timed.watch.concerned path
    timed.notify change context =
        considered.foldl
          (fun current watcher =>
            current.answer
              ⟨watcher.1, watcher.2, { change with path := path },
                context⟩)
          timed ∧
      Watch.Considers (WatchOperation.allRegistrations operations)
        considered change.path :=
  ⟨notify_eq_foldl _ change context,
    Watch.considers_concerned
      (lists_performAll functions hasClock operations) change.path⟩

/-- A star in a changed path is a segment like any other. -/
example :
    let greeting : WatchConfig := { action := .string "greet" }
    let operations : List WatchOperation :=
      [.add "cart.*" greeting {}, .add "/cart/a" greeting {},
        .add "*/*" greeting {}, .add "cart/*" greeting {}]
    let timed := performAll {} operations
    (timed.watch.concerned (Path.normalize "cart.*")).map Prod.fst =
      ["/cart/*", "/cart/*", "/*/*"] := by
  decide +kernel

end TimedWatch

end Mockup
