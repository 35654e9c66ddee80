import Mockup.Proofs.Session.Life

namespace Mockup

namespace Session

/-!
# The trail of a call

A call from outside starts a cascade: a task, or watchers that answer a
write, and whatever these start in turn.  The trail of a call tells what the
call and its descendants have done, while anything else may happen to the
session in between.  What a trail notes is lawful when every action on it has
a cause one level above it.
-/

/-! ## Calls and their trails -/

/-- A call from outside that starts a cascade. -/
inductive Call where
  | dispatch (action : Action)
  | write (path : String) (value : Value)

namespace Call

/-- The session after a call. -/
def made
    (session : Session) : Call → Session
  | dispatch action =>
      (session.launch .dispatched (.start action 0)).1
  | write path value =>
      (session.setState path value).session

/-- How many actions a call stands for by itself: a write is a root. -/
def roots : Call → Nat
  | dispatch _ =>
      0
  | write _ _ =>
      1

end Call

/-- What the job with a ticket, or else a call, has done in one step. -/
structure Deed where
  doer : Option Nat
  /-- What its expressions could call. -/
  functions : Registry
  /-- The tickets of the jobs it has started. -/
  tickets : List Nat
  /-- What it has noted. -/
  news : List Occurrence

/-- What has been done between two sessions. -/
def Deed.between
    (doer : Option Nat)
    (before after : Session) :
    Deed where
  doer :=
    doer
  functions :=
    before.functions
  tickets :=
    List.range' before.agenda.nextTicket
      (after.agenda.nextTicket - before.agenda.nextTicket)
  news :=
    after.journal.drop before.journal.length

/-- The tickets of all jobs that have been started on a trail. -/
def descendants
    (trail : List Deed) :
    List Nat :=
  trail.flatMap Deed.tickets

/-- Everything that has been noted on a trail. -/
def chronicle
    (trail : List Deed) :
    List Occurrence :=
  trail.flatMap Deed.news

/-- The action that the task with a ticket carries out, with its depth. -/
def performed?
    (ticket : Nat) : Occurrence → Option (Action × Nat)
  | .performed performer action depth =>
      if performer = ticket then some (action, depth) else none
  | _ =>
      none

/-- The actions that the task with a ticket has carried out, in order. -/
def carriedOut
    (trail : List Deed)
    (ticket : Nat) :
    List (Action × Nat) :=
  (chronicle trail).filterMap (performed? ticket)

/--
The cascade of a call unfolds, before at most so many watchers: its
descendants run in any order, and whatever else happens leaves no trail.
-/
inductive Unfolds
    (watchers : Nat)
    (call : Call)
    (before : Session) : Session → List Deed → Prop where
  | called :
      before.watcherCount ≤ watchers →
      Unfolds watchers call before (call.made before)
        [.between none before (call.made before)]
  | own
      {current next : Session}
      {trail : List Deed}
      {ticket : Nat} :
      Unfolds watchers call before current trail →
      Happens current (some ticket) next →
      ticket ∈ descendants trail →
      current.watcherCount ≤ watchers →
      Unfolds watchers call before next
        (trail ++ [.between (some ticket) current next])
  | other
      {current next : Session}
      {trail : List Deed}
      {mover : Option Nat} :
      Unfolds watchers call before current trail →
      Happens current mover next →
      (∀ ticket ∈ descendants trail, mover ≠ some ticket) →
      Unfolds watchers call before next trail

/-! ## Causes -/

/-- How the first action of a task has come about. -/
inductive Begins
    (call : Call)
    (earlier : List Deed)
    (ticket : Nat) : Action → Nat → Prop where
  /-- It is the action of the call. -/
  | called
      {deed : Deed}
      {action : Action} :
      deed ∈ earlier →
      deed.doer = none →
      ticket ∈ deed.tickets →
      call = .dispatch action →
      Begins call earlier ticket action 0
  /-- A watcher has started it, one level deeper than it was shown. -/
  | fired
      {deed : Deed}
      {firing : Firing}
      {action : Action} :
      deed ∈ earlier →
      ticket ∈ deed.tickets →
      .fired firing ∈ deed.news →
      Action.ofValue (firedValue deed.functions firing) = .ok action →
      Begins call earlier ticket action (firing.context.depth + 1)

/--
An action is due at a depth: it follows the last action of its task, one
level deeper, or else it is the first action of its task.
-/
def IsDue
    (call : Call)
    (earlier : List Deed)
    (ticket : Nat)
    (action : Action)
    (depth : Nat) :
    Prop :=
  match (carriedOut earlier ticket).getLast? with
  | some (parent, level) =>
      parent.LeadsTo action ∧ depth = level + 1
  | none =>
      Begins call earlier ticket action depth

/-- A write is made at the depth of the action that makes it. -/
def IsWrittenAt
    (trail : List Deed)
    (depth : Nat) : Option Nat → Prop
  | none =>
      depth = 0
  | some ticket =>
      ∃ action,
        (carriedOut trail ticket).getLast? = some (action, depth)

/--
A watcher answers a change that was shown to it, in the same step or, when it
had asked for a timer, once the time of that timer is over.
-/
def Answers
    (trail : List Deed)
    (deed : Deed)
    (firing : Firing) :
    Prop :=
  ∃ write ∈ trail,
    Tells write.news firing ∧
      (write = deed ∨
        ∃ timer ∈ write.tickets, deed.doer = some timer)

/-- What a note on a trail has to agree with. -/
inductive IsLawful
    (call : Call)
    (limit : Nat)
    (earlier : List Deed)
    (deed : Deed) : Occurrence → Prop where
  | performed
      {ticket : Nat}
      {action : Action}
      {depth : Nat} :
      deed.doer = some ticket →
      depth ≤ limit →
      IsDue call earlier ticket action depth →
      IsLawful call limit earlier deed (.performed ticket action depth)
  | notified
      {change : StateChange}
      {context : WatchContext} :
      context.depth ≤ limit →
      IsWrittenAt (earlier ++ [deed]) context.depth deed.doer →
      IsLawful call limit earlier deed (.notified change context)
  | fired
      {firing : Firing} :
      firing.context.depth ≤ limit →
      Answers (earlier ++ [deed]) deed firing →
      IsLawful call limit earlier deed (.fired firing)
  | aside
      {occurrence : Occurrence} :
      isAside occurrence = true →
      IsLawful call limit earlier deed occurrence

/-- Why a job is on the agenda, as far as a trail tells. -/
inductive IsWarranted
    (call : Call)
    (limit : Nat)
    (trail : List Deed)
    (ticket : Nat) : Job → Prop where
  | due
      {origin : Origin}
      {action : Action}
      {depth : Nat}
      {settled : Option Outcome} :
      IsDue call trail ticket action depth →
      IsWarranted call limit trail ticket
        (.task ⟨origin, .start action depth, settled⟩)
  | underWay
      {origin : Origin}
      {stage : Stage}
      {action : Action}
      {depth : Nat}
      {settled : Option Outcome} :
      Stage.Continues action depth stage →
      depth ≤ limit →
      (carriedOut trail ticket).getLast? = some (action, depth) →
      IsWarranted call limit trail ticket
        (.task ⟨origin, stage, settled⟩)
  | spent
      {origin : Origin}
      {settled : Option Outcome} :
      IsWarranted call limit trail ticket
        (.task ⟨origin, .void, settled⟩)
  | hides
      {timer : Timer Errand} :
      timer.work = .hideToast →
      IsWarranted call limit trail ticket (.timer timer)
  | waits
      {timer : Timer Errand}
      {firing : Firing}
      {write : Deed} :
      timer.work = .fire firing →
      firing.context.depth ≤ limit →
      write ∈ trail →
      ticket ∈ write.tickets →
      Tells write.news firing →
      IsWarranted call limit trail ticket (.timer timer)

/-! ## Trails that grow -/

section

variable {trail : List Deed} {deed : Deed} {ticket : Nat}

theorem descendants_append :
    descendants (trail ++ [deed]) = descendants trail ++ deed.tickets := by
  simp [descendants]

theorem carriedOut_append :
    carriedOut (trail ++ [deed]) ticket =
      carriedOut trail ticket ++
        deed.news.filterMap (performed? ticket) := by
  simp [carriedOut, chronicle]

/-- A deed in which a task begins no action adds none to the trail. -/
theorem carriedOut_append_of_not_mem
    (none :
      ∀ action depth, .performed ticket action depth ∉ deed.news) :
    carriedOut (trail ++ [deed]) ticket = carriedOut trail ticket := by
  have nothing : deed.news.filterMap (performed? ticket) = [] := by
    rw [List.filterMap_eq_nil_iff]
    intro occurrence member
    unfold performed?
    split
    · rw [if_neg]
      rintro rfl
      exact none _ _ member
    · rfl
  rw [carriedOut_append, nothing, List.append_nil]

variable {call : Call} {limit : Nat}

theorem Begins.append
    {action : Action}
    {depth : Nat}
    (begins : Begins call trail ticket action depth) :
    Begins call (trail ++ [deed]) ticket action depth := by
  cases begins with
  | called member noDoer started isCall =>
      exact .called (List.mem_append_left _ member) noDoer started isCall
  | fired member started fired reads =>
      exact .fired (List.mem_append_left _ member) started fired reads

/-- What warrants a job still does when others have done something. -/
theorem IsWarranted.append
    {job : Job}
    (warranted : IsWarranted call limit trail ticket job)
    (none :
      ∀ action depth, .performed ticket action depth ∉ deed.news) :
    IsWarranted call limit (trail ++ [deed]) ticket job := by
  have same :
      carriedOut (trail ++ [deed]) ticket = carriedOut trail ticket :=
    carriedOut_append_of_not_mem none
  cases warranted with
  | due isDue =>
      refine .due ?_
      unfold IsDue at isDue ⊢
      rw [same]
      split at isDue
      · exact isDue
      · exact isDue.append
  | underWay continues within last =>
      exact .underWay continues within (by rw [same]; exact last)
  | spent =>
      exact .spent
  | hides work =>
      exact .hides work
  | waits work within member started tells =>
      exact .waits work within (List.mem_append_left _ member) started
        tells

/-- A job that is woken before its time has nothing left to do. -/
theorem IsWarranted.left
    {job left : Job}
    (warranted : IsWarranted call limit trail ticket job)
    (same : job = left ∨ woken? job = some left) :
    IsWarranted call limit trail ticket left := by
  rcases same with rfl | wakes
  · exact warranted
  · obtain ⟨_, _, _, _, _, rfl⟩ := exists_of_woken? wakes
    exact .spent

end

/-! ## What effects leave on a trail -/

section

variable
  {call : Call}
  {limit depth bound ticket : Nat}
  {trail : List Deed}
  {deed : Deed}
  {known : List Occurrence}
  {jobs : List Job}
  {news : List Occurrence}

/-- Jobs that are owed to the writes of a deed are warranted by it. -/
theorem AllOwed.isWarranted
    (owed : AllOwed deed.functions depth bound known jobs news)
    (within : depth ≤ limit)
    (subset : known ⊆ deed.news)
    {job : Job}
    (isJob : job ∈ jobs)
    (started : ticket ∈ deed.tickets)
    (unbegun : carriedOut (trail ++ [deed]) ticket = []) :
    IsWarranted call limit (trail ++ [deed]) ticket job := by
  have isLast : deed ∈ trail ++ [deed] :=
    List.mem_append_right _ (List.mem_singleton_self _)
  cases owed.owed job isJob with
  | hides =>
      exact .hides rfl
  | waits tells atDepth =>
      exact .waits rfl (atDepth ▸ within) isLast started
        (tells.mono subset)
  | starts _ atDepth fired reads =>
      refine .due ?_
      rw [IsDue, unbegun, ← atDepth]
      exact .fired isLast started (subset fired) reads

/-- What the writes of a deed have noted is lawful. -/
theorem AllOwed.isLawful
    (owed : AllOwed deed.functions depth bound known jobs news)
    (within : depth ≤ limit)
    (subset : known ⊆ deed.news)
    (written : IsWrittenAt (trail ++ [deed]) depth deed.doer)
    {occurrence : Occurrence}
    (isNews : occurrence ∈ news) :
    IsLawful call limit trail deed occurrence := by
  cases owed.minor occurrence isNews with
  | aside isAside =>
      exact .aside isAside
  | notified atDepth =>
      subst atDepth
      exact .notified within written
  | fired tells atDepth =>
      have isLast : deed ∈ trail ++ [deed] :=
        List.mem_append_right _ (List.mem_singleton_self _)
      exact .fired (atDepth ▸ within)
        ⟨deed, isLast, tells.mono subset, Or.inl rfl⟩

/-- A task that is done with its action is warranted to go on. -/
theorem Follows.isWarranted
    {action : Action}
    {own : Option Job}
    {job : Job}
    (follows : Follows action depth own)
    (last : (carriedOut trail ticket).getLast? = some (action, depth))
    (isOwn : own = some job) :
    IsWarranted call limit trail ticket job := by
  cases follows with
  | ends =>
      cases isOwn
  | leads leads =>
      cases isOwn
      refine .due ?_
      rw [IsDue, last]
      exact ⟨leads, rfl⟩

end

/-! ## What a job leaves on a trail -/

section

variable
  {call : Call}
  {limit watchers ticket : Nat}
  {trail : List Deed}
  {deed : Deed}
  {job : Job}
  {own : Option Job}
  {jobs : List Job}
  {news : List Occurrence}

/-- A job begins actions under its own ticket only. -/
theorem Works.performer_eq
    {functions : Registry}
    (works : Works functions limit watchers ticket job own jobs news)
    {performer : Nat}
    {action : Action}
    {depth : Nat}
    (performed : .performed performer action depth ∈ news) :
    performer = ticket := by
  have notMinor :
      ∀ {known : List Occurrence} {level : Nat},
        ¬ IsMinor level known (.performed performer action depth) := by
    intro known level minor
    cases minor with
    | aside isAside =>
        cases isAside
  cases works with
  | waits =>
      cases performed
  | passes aside =>
      cases aside _ performed
  | fires _ _ =>
      cases List.mem_singleton.mp performed
  | awaits _ _ =>
      cases List.mem_singleton.mp performed
      rfl
  | begins _ owed _ =>
      rcases List.mem_cons.mp performed with same | later
      · cases same
        rfl
      · exact absurd (owed.minor _ later) notMinor
  | furthers _ owed _ =>
      exact absurd (owed.minor _ performed) notMinor

/-- What the last action of a task is, once it has begun another one. -/
theorem getLast?_carriedOut_append
    {action : Action}
    {depth : Nat}
    (noted : deed.news = .performed ticket action depth :: news)
    (minor :
      ∀ occurrence ∈ news, performed? ticket occurrence = none) :
    (carriedOut (trail ++ [deed]) ticket).getLast? =
      some (action, depth) := by
  have others : news.filterMap (performed? ticket) = [] :=
    List.filterMap_eq_nil_iff.mpr minor
  rw [carriedOut_append, noted, List.filterMap_cons, others]
  simp [performed?]

theorem IsMinor.performed?_eq_none
    {depth : Nat}
    {known : List Occurrence}
    {occurrence : Occurrence}
    (minor : IsMinor depth known occurrence)
    (ticket : Nat) :
    performed? ticket occurrence = none := by
  cases minor with
  | aside isAside =>
      cases occurrence <;> simp_all [performed?, Session.isAside]
  | notified _ =>
      rfl
  | fired _ _ =>
      rfl

/-- What a deed notes is lawful, and the jobs that it leaves are warranted. -/
structure Justifies
    (call : Call)
    (limit ticket : Nat)
    (trail : List Deed)
    (deed : Deed)
    (own : Option Job)
    (jobs : List Job) :
    Prop where
  lawful :
    ∀ occurrence ∈ deed.news, IsLawful call limit trail deed occurrence
  /-- The job itself, when it comes back. -/
  back :
    ∀ left, own = some left →
      IsWarranted call limit (trail ++ [deed]) ticket left
  /-- The jobs that it starts. -/
  started :
    ∀ started ∈ deed.tickets, ∀ other ∈ jobs,
      IsWarranted call limit (trail ++ [deed]) started other

/-- A task that has yet to carry out its action does so lawfully. -/
theorem IsWarranted.isLawful_performed
    {origin : Origin}
    {action : Action}
    {depth : Nat}
    {settled : Option Outcome}
    (warranted :
      IsWarranted call limit trail ticket
        (.task ⟨origin, .start action depth, settled⟩))
    (doer : deed.doer = some ticket)
    (within : depth ≤ limit) :
    IsLawful call limit trail deed (.performed ticket action depth) := by
  cases warranted with
  | due isDue =>
      exact .performed doer within isDue
  | underWay continues =>
      cases continues

/-- A task that is under way has begun its action within the limit. -/
theorem IsWarranted.begun
    {origin : Origin}
    {stage : Stage}
    {action : Action}
    {depth : Nat}
    {settled : Option Outcome}
    (warranted :
      IsWarranted call limit trail ticket
        (.task ⟨origin, stage, settled⟩))
    (continues : Stage.Continues action depth stage) :
    depth ≤ limit ∧
      (carriedOut trail ticket).getLast? = some (action, depth) := by
  cases warranted with
  | due _ =>
      cases continues
  | underWay known within last =>
      cases continues <;> cases known <;> exact ⟨within, last⟩
  | spent =>
      cases continues

/-- What is owed at the depth of the last action of a task is justified. -/
theorem AllOwed.justifies
    {action : Action}
    {depth bound : Nat}
    {known : List Occurrence}
    (owed : AllOwed deed.functions depth bound known jobs news)
    (subset : known ⊆ deed.news)
    (noted :
      ∀ occurrence ∈ deed.news,
        occurrence ∈ news ∨ IsLawful call limit trail deed occurrence)
    (within : depth ≤ limit)
    (doer : deed.doer = some ticket)
    (last :
      (carriedOut (trail ++ [deed]) ticket).getLast? =
        some (action, depth))
    (follows : Follows action depth own)
    (unbegun :
      ∀ started ∈ deed.tickets,
        carriedOut (trail ++ [deed]) started = []) :
    Justifies call limit ticket trail deed own jobs where
  lawful occurrence member := by
    have written : IsWrittenAt (trail ++ [deed]) depth deed.doer := by
      rw [doer]
      exact ⟨action, last⟩
    rcases noted occurrence member with isNews | lawful
    · exact owed.isLawful within subset written isNews
    · exact lawful
  back left isBack :=
    follows.isWarranted last isBack
  started started isStarted other isJob :=
    owed.isWarranted within subset isJob isStarted
      (unbegun started isStarted)

/-- What a timer of a watcher lets fire answers the write it was armed for. -/
theorem justifies_fired
    {timer : Timer Errand}
    {firing : Firing}
    (warranted : IsWarranted call limit trail ticket (.timer timer))
    (work : timer.work = .fire firing)
    (starts : Starts deed.functions firing jobs)
    (doer : deed.doer = some ticket)
    (noted : deed.news = [.fired firing])
    (unbegun :
      ∀ started ∈ deed.tickets,
        carriedOut (trail ++ [deed]) started = []) :
    Justifies call limit ticket trail deed none jobs := by
  cases warranted with
  | hides hidesWork =>
      rw [work] at hidesWork
      cases hidesWork
  | @waits _ waited write waitsWork within member started tells =>
      rw [work] at waitsWork
      cases waitsWork
      have isLast : deed ∈ trail ++ [deed] :=
        List.mem_append_right _ (List.mem_singleton_self _)
      have fired : Occurrence.fired firing ∈ deed.news := by
        simp [noted]
      have answers : Answers (trail ++ [deed]) deed firing :=
        ⟨write, List.mem_append_left _ member, tells,
          Or.inr ⟨ticket, started, doer⟩⟩
      refine ⟨by simpa [noted] using .fired within answers, by simp, ?_⟩
      intro other isStarted left isJob
      cases starts with
      | nothing =>
          cases isJob
      | task reads =>
          cases List.mem_singleton.mp isJob
          refine .due ?_
          rw [IsDue, unbegun other isStarted]
          exact .fired isLast isStarted fired reads

/-- A warranted job justifies what it notes and the jobs that it leaves. -/
theorem Works.justifies
    (works :
      Works deed.functions limit watchers ticket job own jobs deed.news)
    (warranted : IsWarranted call limit trail ticket job)
    (doer : deed.doer = some ticket)
    (unbegun :
      ∀ started ∈ deed.tickets,
        carriedOut (trail ++ [deed]) started = []) :
    Justifies call limit ticket trail deed own jobs := by
  generalize noted : deed.news = news at works
  cases works with
  | @waits timer =>
      refine ⟨by simp [noted], ?_, by simp⟩
      rintro left ⟨⟩
      refine IsWarranted.append ?_ (by simp [noted])
      cases warranted with
      | hides work =>
          exact .hides work
      | waits work within member started tells =>
          exact .waits work within member started tells
  | passes aside =>
      refine ⟨fun occurrence member => .aside ?_, by simp, by simp⟩
      exact aside occurrence (noted ▸ member)
  | fires work starts =>
      exact justifies_fired warranted work starts doer noted unbegun
  | @awaits origin stage action depth settled within continues =>
      have last :
          (carriedOut (trail ++ [deed]) ticket).getLast? =
            some (action, depth) :=
        getLast?_carriedOut_append noted (by simp)
      have lawful := warranted.isLawful_performed doer within
      refine ⟨by simpa [noted] using lawful, ?_, by simp⟩
      rintro left ⟨⟩
      exact .underWay continues within last
  | @begins origin action depth settled own jobs news within owed
      follows =>
      have last :
          (carriedOut (trail ++ [deed]) ticket).getLast? =
            some (action, depth) :=
        getLast?_carriedOut_append noted
          fun occurrence member =>
            (owed.minor occurrence member).performed?_eq_none ticket
      refine owed.justifies ?_ ?_ within doer last follows unbegun
      · rw [noted]
        exact List.subset_cons_self _ _
      · intro occurrence member
        rw [noted] at member
        rcases List.mem_cons.mp member with rfl | isNews
        · exact Or.inr (warranted.isLawful_performed doer within)
        · exact Or.inl isNews
  | furthers continues owed follows =>
      obtain ⟨within, last⟩ := warranted.begun continues
      have still :
          carriedOut (trail ++ [deed]) ticket =
            carriedOut trail ticket := by
        refine carriedOut_append_of_not_mem ?_
        intro other level member
        rw [noted] at member
        have minor := (owed.minor _ member).performed?_eq_none ticket
        simp [performed?] at minor
      rw [← still] at last
      refine owed.justifies ?_ ?_ within doer last follows unbegun
      · rw [noted]
        exact List.Subset.refl _
      · intro occurrence member
        exact Or.inl (noted ▸ member)

end

end Session

end Mockup
