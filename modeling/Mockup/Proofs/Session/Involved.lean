import Mathlib.Logic.Relation
import Mockup.Proofs.Session.Footprint
import Mockup.Proofs.Session.Shutdown

namespace Mockup

/-!
# The kinds that an action involves

An action comes with those that may follow it in its task: after its failure,
its response, or its delay.  A task touches only what the kinds among them may
touch.  Every step of it keeps to that, whatever else happens in between.
While the task is alone and nobody observes it, nothing else is touched.
-/

namespace Action

/-- The kind of an action, and the kinds of those that may follow it. -/
inductive Involves : Action → ActionKind Action → Prop where
  | own
      (action : Action) :
      Involves action action.kind
  | failed
      {action fallback : Action}
      {kind : ActionKind Action} :
      action.onError = some fallback →
      Involves fallback kind →
      Involves action kind
  | followed
      {action next : Action}
      {kind : ActionKind Action} :
      action.kind.followUp? = some next →
      Involves next kind →
      Involves action kind

/-- What an action is told does not change what may follow it. -/
theorem involves_of_withParam
    {action : Action}
    {name : String}
    {value : Value}
    {kind : ActionKind Action}
    (involves : (action.withParam name value).Involves kind) :
    action.Involves kind := by
  cases involves with
  | own =>
      exact .own action
  | failed isFallback further =>
      exact .failed isFallback further
  | followed isNext further =>
      exact .followed isNext further

/-- What may follow the next action may follow the one before. -/
theorem LeadsTo.involves
    {action next : Action}
    {kind : ActionKind Action}
    (leads : action.LeadsTo next)
    (involves : next.Involves kind) :
    action.Involves kind := by
  cases leads with
  | failed isFallback =>
      exact .failed isFallback (involves_of_withParam involves)
  | responded isNext =>
      exact .followed isNext (involves_of_withParam involves)
  | rested isNext =>
      exact .followed isNext involves

end Action

/-- The action of a stage involves no kinds but those of another action. -/
def Stage.KeepsTo
    (stage : Stage)
    (action : Action) :
    Prop :=
  ∀ other, stage.action? = some other →
    ∀ kind, other.Involves kind → action.Involves kind

namespace Session

/-! ## The actions of a task -/

/-- The jobs with a ticket are tasks for an action, or for what follows it. -/
def IsOn
    (ticket : Nat)
    (action : Action)
    (session : Session) :
    Prop :=
  ∀ job,
    ⟨ticket, job⟩ ∈ session.agenda.entries →
    ∃ task, job = .task task ∧ task.stage.KeepsTo action

section

variable {ticket : Nat} {action : Action}

/-- What follows an action keeps to the kinds that it involves. -/
theorem Follows.keepsTo
    {other : Action}
    {depth : Nat}
    {own : Option Job}
    (follows : Follows other depth own)
    (involves : ∀ kind, other.Involves kind → action.Involves kind)
    {job : Job}
    (isOwn : own = some job) :
    ∃ task, job = .task task ∧ task.stage.KeepsTo action := by
  cases follows with
  | ends =>
      cases isOwn
  | leads isNext =>
      cases isOwn
      refine ⟨_, rfl, ?_⟩
      rintro _ ⟨⟩ kind further
      exact involves kind (isNext.involves further)

/-- A task goes on with its action, or with one that follows it. -/
theorem isOn_runTask
    {session : Session}
    (lacks : session.agenda.Lacks ticket)
    {task : Task}
    (keepsTo : task.stage.KeepsTo action) :
    IsOn ticket action (session.runTask ticket task) := by
  obtain ⟨own, jobs, news, yields, works⟩ :=
    works_runTask session ticket task
  intro job member
  have isOwn := yields.own_eq_of_mem lacks member
  cases works with
  | passes _ =>
      cases isOwn
  | awaits _ continues =>
      cases isOwn
      refine ⟨_, rfl, ?_⟩
      cases continues <;> exact keepsTo
  | begins _ _ follows =>
      exact follows.keepsTo (keepsTo _ rfl) isOwn
  | furthers continues _ follows =>
      cases continues <;> exact follows.keepsTo (keepsTo _ rfl) isOwn

/-- Whatever happens, a task stays on its action and on what follows it. -/
theorem Happens.isOn
    {before after : Session}
    {mover : Option Nat}
    (happens : Happens before mover after)
    (orderly : IsOrderly before)
    (given : ticket < before.agenda.nextTicket)
    (isOn : IsOn ticket action before) :
    IsOn ticket action after := by
  by_cases own : mover = some ticket
  · subst own
    obtain ⟨⟨_, job⟩, rest, takes, rfl, rfl⟩ := happens.exists_takes
    obtain ⟨task, rfl, keepsTo⟩ :=
      isOn job (takes.perm.mem_iff.mpr List.mem_cons_self)
    exact isOn_runTask (orderly.agenda.taken takes).2 keepsTo
  · intro job member
    obtain ⟨old, wasThere, same⟩ := happens.left given own member
    obtain ⟨task, rfl, keepsTo⟩ := isOn old wasThere
    rcases same with rfl | wakes
    · exact ⟨task, rfl, keepsTo⟩
    · obtain ⟨_, _, _, _, _, rfl⟩ := exists_of_woken? wakes
      exact ⟨_, rfl, by rintro _ ⟨⟩⟩

/-- A step of a task touches what one of the kinds of its actions may. -/
theorem Happens.footprint
    {before after : Session}
    (happens : Happens before (some ticket) after)
    (isOn : IsOn ticket action before) :
    ∃ kind,
      action.Involves kind ∧ Footprint (· = kind) before after := by
  obtain ⟨⟨_, job⟩, rest, takes, rfl, rfl⟩ := happens.exists_takes
  obtain ⟨⟨origin, stage, settled⟩, rfl, keepsTo⟩ :=
    isOn job (takes.perm.mem_iff.mpr List.mem_cons_self)
  have taken : Stays before { before with agenda := rest } :=
    ⟨rfl, rfl⟩
  -- A stage without an action touches nothing, so that any kind will do.
  let kind := (stage.action?.getD action).kind
  refine ⟨kind, ?_, (Footprint.of_stays taken).trans
    (footprint_runTask _ _ ?_)⟩
  · cases isAction : stage.action? with
    | none =>
        simp only [kind, isAction, Option.getD_none]
        exact .own action
    | some other =>
        simp only [kind, isAction, Option.getD_some]
        exact keepsTo other isAction _ (.own other)
  · intro other isAction
    have found : stage.action? = some other := isAction
    simp [kind, found]

/-! ## A task that is alone -/

/-- While it is quiet, the others change neither the state nor the pages. -/
theorem Moves.stays
    {before after : Session}
    {mover : Option Nat}
    (moves : Moves before mover after)
    (foreign : mover ≠ some ticket)
    (isQuiet : IsQuietFor ticket before) :
    Stays before after := by
  cases moves with
  | @ran entry rest takes =>
      have isToast :=
        isQuiet entry (takes.perm.mem_iff.mpr List.mem_cons_self)
          fun same => foreign (congrArg some same)
      obtain ⟨store, pages, _⟩ :=
        runJob_toastTimer { before with agenda := rest } entry.ticket
          isToast
      exact ⟨store, pages⟩
  | slept _ | wired _ | rewired _ | destroyed | connected _ =>
      exact ⟨rfl, rfl⟩

/--
A task is alone with timers of the toast, and no watcher observes it; since
it was launched only what its kinds may touch has been touched.
-/
structure IsAlone
    (ticket : Nat)
    (action : Action)
    (first session : Session) :
    Prop where
  orderly :
    IsOrderly session
  given :
    ticket < session.agenda.nextTicket
  isOn :
    IsOn ticket action session
  isQuiet :
    IsQuietFor ticket session
  unobserved :
    IsUnobserved session
  kept :
    ∀ job wiring,
      ⟨ticket, job⟩ ∈ session.agenda.entries →
      job.wiring? = some wiring →
        wiring.isObserved = false
  footprint :
    Footprint action.Involves first session

/-- The others leave a task alone. -/
theorem IsAlone.others
    {first before after : Session}
    {mover : Option Nat}
    (alone : IsAlone ticket action first before)
    (moves : Moves before mover after)
    (unobserved : IsUnobserved after)
    (foreign : mover ≠ some ticket) :
    IsAlone ticket action first after where
  orderly :=
    moves.isOrderly alone.orderly
  given :=
    Nat.lt_of_lt_of_le alone.given moves.nextTicket_le
  isOn :=
    (Happens.moved moves).isOn alone.orderly alone.given alone.isOn
  isQuiet :=
    (moves.quiet foreign alone.isQuiet ⟨rfl, rfl⟩).1
  unobserved :=
    unobserved
  kept job wiring member keeps := by
    obtain ⟨old, wasThere, same⟩ :=
      (moves.leaves alone.given foreign).entries _ member rfl
    rcases same with rfl | wakes
    · exact alone.kept _ wiring wasThere keeps
    · obtain ⟨_, _, _, _, _, isVoid⟩ := exists_of_woken? wakes
      obtain rfl : job = _ := isVoid
      cases keeps
  footprint :=
    alone.footprint.trans (.of_stays (moves.stays foreign alone.isQuiet))

/-- A task that takes a step by itself is still alone. -/
theorem IsAlone.own
    {first before after : Session}
    (alone : IsAlone ticket action first before)
    (moves : Moves before (some ticket) after)
    (unobserved : IsUnobserved after) :
    IsAlone ticket action first after := by
  have happens : Happens before (some ticket) after :=
    .moved moves
  have isOn := happens.isOn alone.orderly alone.given alone.isOn
  obtain ⟨⟨other, job⟩, rest, takes, isOwn, rfl⟩ := happens.exists_takes
  obtain rfl : other = ticket := isOwn
  have isThere := takes.perm.mem_iff.mpr List.mem_cons_self
  obtain ⟨task, rfl, keepsTo⟩ := alone.isOn job isThere
  let taken : Session := { before with agenda := rest }
  have lacks : taken.agenda.Lacks other :=
    (alone.orderly.agenda.taken takes).2
  have restQuiet : IsQuietFor other taken := fun entry member =>
    alone.isQuiet entry
      (takes.perm.mem_iff.mpr (List.mem_cons_of_mem _ member))
  have unobservedStage : IsUnobservedFor task.stage taken :=
    ⟨alone.unobserved, fun wiring => alone.kept _ wiring isThere⟩
  have rests : Footprint action.Involves before taken :=
    .of_stays ⟨rfl, rfl⟩
  have touched :
      Footprint action.Involves taken (taken.runTask other task) :=
    footprint_runTask taken other fun further isAction =>
      keepsTo further isAction _ (.own further)
  refine
    ⟨moves.isOrderly alone.orderly,
      Nat.lt_of_lt_of_le alone.given moves.nextTicket_le, isOn,
      isQuietFor_runTask restQuiet unobservedStage, unobserved, ?_,
      alone.footprint.trans (rests.trans touched)⟩
  intro job wiring member keeps
  rcases wiring?_of_mem_runTask lacks member with none | same
  · rw [none] at keeps
    cases keeps
  · exact alone.unobserved wiring (same.symm.trans keeps)

end

/-- A task that has just been launched is on its action. -/
theorem isOn_launch
    {session : Session}
    (orderly : IsOrderly session)
    (origin : Origin)
    (action : Action)
    (depth : Nat) :
    IsOn session.agenda.nextTicket action
      (session.launch origin (.start action depth)).1 := by
  have perm :=
    Agenda.entries_spawn session.agenda
      (.task ⟨origin, .start action depth, none⟩)
  intro job member
  rcases List.mem_cons.mp (perm.mem_iff.mp member) with same | isOld
  · cases same
    refine ⟨_, rfl, ?_⟩
    rintro _ ⟨⟩ kind
    exact id
  · exact absurd (orderly.agenda.given _ isOld) (Nat.lt_irrefl _)

/-- An action that is launched while nothing else is under way is alone. -/
theorem isAlone_launch
    {session : Session}
    (orderly : IsOrderly session)
    (idle :
      ∀ entry ∈ session.agenda.entries, isToastTimer entry.job = true)
    (unobserved : IsUnobserved session)
    (origin : Origin)
    (action : Action)
    (depth : Nat) :
    IsAlone session.agenda.nextTicket action session
      (session.launch origin (.start action depth)).1 := by
  have perm :=
    Agenda.entries_spawn session.agenda
      (.task ⟨origin, .start action depth, none⟩)
  refine
    ⟨orderly.launch origin _, Nat.lt_succ_self _,
      isOn_launch orderly origin action depth, ?_, unobserved, ?_,
      .of_stays ⟨rfl, rfl⟩⟩
  · intro entry member different
    rcases List.mem_cons.mp (perm.mem_iff.mp member) with rfl | isOld
    · exact absurd rfl different
    · exact idle entry isOld
  · intro job wiring member keeps
    rcases List.mem_cons.mp (perm.mem_iff.mp member) with same | isOld
    · cases same
      cases keeps
    · exact absurd (orderly.agenda.given _ isOld) (Nat.lt_irrefl _)

/-- Something happens to a session, by whatever job. -/
def HappensTo
    (before after : Session) :
    Prop :=
  ∃ mover, Happens before mover after

/-- A session moves, and what its actions change is shown to nobody. -/
def MovesUnobserved
    (before after : Session) :
    Prop :=
  (∃ mover, Moves before mover after) ∧ IsUnobserved after

/--
A task touches only what the kinds of its action, and of those that may follow
it, allow.  Whatever else happens, each of its steps keeps to one of these
kinds.  If nothing else is under way and nobody observes it, all that has been
touched since it was launched is theirs.
-/
theorem task_keeps_to_its_kinds
    {session : Session}
    (orderly : IsOrderly session)
    (origin : Origin)
    (action : Action)
    (depth : Nat) :
    let launched := (session.launch origin (.start action depth)).1
    (∀ before after : Session,
      Relation.ReflTransGen HappensTo launched before →
      Happens before (some session.agenda.nextTicket) after →
        ∃ kind,
          action.Involves kind ∧ Footprint (· = kind) before after) ∧
    ((∀ entry ∈ session.agenda.entries, isToastTimer entry.job = true) →
      IsUnobserved session →
      ∀ last : Session,
        Relation.ReflTransGen MovesUnobserved launched last →
          Footprint action.Involves session last) := by
  intro launched
  refine ⟨?_, ?_⟩
  · intro before after becomes happens
    have invariant :
        IsOrderly before ∧
          session.agenda.nextTicket < before.agenda.nextTicket ∧
          IsOn session.agenda.nextTicket action before := by
      clear happens
      induction becomes with
      | refl =>
          exact ⟨orderly.launch origin _, Nat.lt_succ_self _,
            isOn_launch orderly origin action depth⟩
      | tail _ further inductionHypothesis =>
          obtain ⟨mover, happened⟩ := further
          obtain ⟨stillOrderly, given, isOn⟩ := inductionHypothesis
          exact ⟨happened.isOrderly stillOrderly,
            Nat.lt_of_lt_of_le given happened.nextTicket_le,
            happened.isOn stillOrderly given isOn⟩
    exact happens.footprint invariant.2.2
  · intro idle unobserved last runs
    have alone :
        IsAlone session.agenda.nextTicket action session last := by
      induction runs with
      | refl =>
          exact isAlone_launch orderly idle unobserved origin action depth
      | tail _ further inductionHypothesis =>
          obtain ⟨⟨mover, moves⟩, stillUnobserved⟩ := further
          by_cases own : mover = some session.agenda.nextTicket
          · subst own
            exact inductionHypothesis.own moves stillUnobserved
          · exact inductionHypothesis.others moves stillUnobserved own
    exact alone.footprint

/-- Hide the modal. -/
def hideModalAction : Action where
  kind :=
    .hideModal
  params :=
    []
  onError :=
    none

/-- A request after which the modal is hidden. -/
def listRequest : Action where
  kind :=
    .request "/api/list" "GET" none [] (some hideModalAction) none
  params :=
    []
  onError :=
    none

/-- A session in which that request has been sent, and the answer is due. -/
def dueSession : Session :=
  let asked :=
    (quietSession.launch .dispatched
      (.start listRequest 0)).1.proceed
  { asked with agenda := asked.agenda.moveTo 500 }

/-- The request changes neither the state nor the pages. -/
theorem task_keeps_to_its_kinds_listRequest :
    let last := dueSession.proceed.proceed
    last.outcome? 0 = some .completed ∧
      last.pages = quietSession.pages ∧
      last.store.state = quietSession.store.state ∧
      (last.store.response? "/api/list").isSome = true ∧
      (∀ url, url ≠ "/api/list" →
        last.store.response? url = quietSession.store.response? url) ∧
      ∃ kind,
        listRequest.Involves kind ∧
          Footprint (· = kind) dueSession dueSession.proceed := by
  intro last
  have idle :
      ∀ entry ∈ quietSession.agenda.entries,
        isToastTimer entry.job = true := by
    intro entry member
    cases member
  have unobserved :
      ∀ {session : Session},
        session.wiring.map Wiring.isObserved = some false →
        IsUnobserved session := by
    intro session isFalse wiring isWired
    simpa [isWired] using isFalse
  let launched :=
    (quietSession.launch .dispatched (.start listRequest 0)).1
  have starts :
      launched.agenda.ready =
        [⟨0, .task ⟨.dispatched, .start listRequest 0, none⟩⟩] :=
    rfl
  have isDue :
      dueSession.agenda.ready =
        [⟨0, .task ⟨.dispatched, .answered {} listRequest 0, none⟩⟩] :=
    rfl
  have follows :
      ∃ job, dueSession.proceed.agenda.ready = [⟨0, job⟩] :=
    ⟨_, rfl⟩
  have asks := moves_proceed starts
  have receives := moves_proceed isDue
  obtain ⟨job, isNext⟩ := follows
  have hides := moves_proceed isNext
  have sleeps : Moves launched.proceed none dueSession :=
    .slept 500
  have runsUntilDue :
      Relation.ReflTransGen MovesUnobserved launched dueSession :=
    .tail (.tail .refl ⟨⟨_, asks⟩, unobserved rfl⟩)
      ⟨⟨_, sleeps⟩, unobserved rfl⟩
  have runs : Relation.ReflTransGen MovesUnobserved launched last :=
    .tail (.tail runsUntilDue ⟨⟨_, receives⟩, unobserved rfl⟩)
      ⟨⟨_, hides⟩, unobserved (by decide +kernel)⟩
  obtain ⟨steps, alone⟩ :=
    task_keeps_to_its_kinds isOrderly_quietSession .dispatched
      listRequest 0
  have footprint := alone idle (unobserved rfl) last runs
  have involves :
      ∀ kind, listRequest.Involves kind →
        kind.movesPages = false ∧ kind.writesState = false ∧
          ∀ url, url ≠ "/api/list" → kind.url? ≠ some url := by
    intro kind involved
    cases involved with
    | own =>
        exact ⟨rfl, rfl, fun url different same =>
          different (Option.some.inj same).symm⟩
    | failed isFallback _ =>
        cases isFallback
    | followed isNext further =>
        cases isNext
        cases further with
        | own =>
            exact ⟨rfl, rfl, by rintro _ _ ⟨⟩⟩
        | failed isFallback _ =>
            cases isFallback
        | followed isNext _ =>
            cases isNext
  refine ⟨by decide +kernel,
    footprint.pages fun kind involved => (involves kind involved).1,
    footprint.state fun kind involved => (involves kind involved).2.1,
    by decide +kernel,
    fun url different =>
      footprint.elsewhere url fun kind involved =>
        (involves kind involved).2.2 url different, ?_⟩
  exact steps dueSession dueSession.proceed
    (.tail (.tail .refl ⟨_, .moved asks⟩) ⟨_, .moved sleeps⟩)
    (.moved receives)

end Session

end Mockup
