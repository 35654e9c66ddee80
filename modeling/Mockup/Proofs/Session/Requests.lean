import Mockup.Proofs.Session.Receptions
import Mockup.Proofs.Session.Shutdown

namespace Mockup

/-!
# Requests in flight

Any number of requests may be in flight at once, in different tasks.  Within
its task a request is told by its depth, because whatever follows an action
lies one level deeper.  A history tells which actions the tasks have begun and
which requests have been answered.  However the tasks are interleaved, what
follows a request does so by its own answer, and under every URL the response
that came last is kept.
-/

namespace Session

/-! ## Histories -/

/-- A task has got on. -/
inductive Event where
  /-- It has set about an action. -/
  | began (ticket : Nat) (action : Action) (depth : Nat)
  /-- Its request has been answered. -/
  | received (reception : Reception)

namespace Event

/-- The task that has got on. -/
def ticket : Event → Nat
  | .began ticket _ _ =>
      ticket
  | .received reception =>
      reception.ticket

/-- How far the task has got: an action is begun before it is answered. -/
def rank : Event → Nat
  | .began _ _ depth =>
      2 * depth
  | .received reception =>
      2 * reception.depth + 1

/-- The task and the depth of an action that has been begun. -/
def begun? : Event → Option (Nat × Nat)
  | .began ticket _ depth =>
      some (ticket, depth)
  | .received _ =>
      none

/-- The task and the depth of a request that has been answered. -/
def received? : Event → Option (Nat × Nat)
  | .began _ _ _ =>
      none
  | .received reception =>
      some (reception.ticket, reception.depth)

/-- The response that has come to a request to a URL. -/
def response?
    (url : String) : Event → Option Value
  | .began _ _ _ =>
      none
  | .received reception =>
      if reception.action.kind.url? = some url then
        reception.answer.toOption
      else
        none

end Event

/-- What a stage tells of its task. -/
def stageEvent?
    (before after : Session)
    (ticket : Nat) : Stage → Option Event
  | .start action depth =>
      some (.began ticket action depth)
  | .answered wiring action depth =>
      match action.kind with
      | .request url _ data _ _ _ =>
          some (.received
            { ticket := ticket,
              action := action,
              depth := depth,
              answer := (before.networkOf wiring.line).answer url data,
              before := before.store,
              after := after.store })
      | _ =>
          none
  | .rested _ _ =>
      none
  | .void =>
      none

/-- What a job tells of its task. -/
def event?
    (before after : Session)
    (entry : Ticketed Job) :
    Option Event :=
  match entry.job with
  | .task task =>
      stageEvent? before after entry.ticket task.stage
  | .timer _ =>
      none

/--
Whatever may happen has happened to a session; what the tasks tell of it is
written down in order.
-/
inductive History
    (first : Session) : List Event → Session → Prop where
  | rest :
      History first [] first
  | ran
      {events : List Event}
      {before after : Session}
      {entry : Ticketed Job}
      {rest : Agenda Job} :
      History first events before →
      before.agenda.Takes entry rest →
      after =
        { before with agenda := rest }.runJob entry.ticket entry.job →
      History first
        (events ++ (before.event? after entry).toList) after
  | otherwise
      {events : List Event}
      {before after : Session} :
      History first events before →
      Happens before none after →
      History first events after

theorem History.proceed
    {first before : Session}
    {events : List Event}
    (history : History first events before)
    {entry : Ticketed Job}
    {later : List (Ticketed Job)}
    (isNext : before.agenda.ready = entry :: later) :
    History first
      (events ++ (before.event? before.proceed entry).toList)
      before.proceed :=
  .ran history ⟨[], later, isNext, rfl⟩ (proceed_eq isNext)

/-! ## Where a task goes on -/

/-- Carrying out an action leads on: a request is waited for. -/
inductive Progress.Advances
    (action : Action)
    (depth : Nat) : Progress → Prop where
  | ended
      {outcome : Outcome} :
      Advances action depth (.ended outcome)
  | followed
      {outcome : Outcome}
      {next : Action} :
      action.kind.url? = none →
      Advances action depth (.follow outcome (.start next (depth + 1)))
  | asked
      {delay : Nat}
      {wiring : Wiring} :
      Advances action depth (.wait delay (.answered wiring action depth))
  | rests
      {delay : Nat} :
      action.kind.url? = none →
      Advances action depth (.wait delay (.rested action depth))

theorem advances_perform
    (session : Session)
    (wiring : Wiring)
    (action : Action)
    (depth : Nat) :
    (conclude action depth
      (session.perform wiring action depth).outcome).Advances action
        depth := by
  cases isUrl : action.kind.url? with
  | some url =>
      unfold perform
      cases kind : action.kind with
      | request url method data headers onSuccess path =>
          exact .asked
      | _ =>
          simp [kind, ActionKind.url?] at isUrl
  | none =>
      rcases acts_perform session wiring action depth with
          acts | ⟨delay, stage, continues, waits⟩
      · have ends := ends_conclude acts.result depth
        generalize
          conclude action depth
            (session.perform wiring action depth).outcome = progress
          at ends
        cases ends with
        | ended =>
            exact .ended
        | follow _ =>
            exact .followed isUrl
      · rw [waits]
        cases continues with
        | answered =>
            exact .asked
        | rested =>
            exact .rests isUrl

theorem advances_start
    (session : Session)
    (ticket : Nat)
    (action : Action)
    (depth : Nat) :
    (session.advanceStage ticket (.start action depth)).2.Advances action
      depth := by
  simp only [advanceStage]
  split
  · exact .ended
  · split
    · exact .ended
    · exact advances_perform _ _ action depth

/-! ## The course of a task -/

/-- So far a task has not got to a point in its course. -/
def IsShortOf
    (events : List Event)
    (ticket rank : Nat) :
    Prop :=
  ∀ event ∈ events, event.ticket = ticket → event.rank < rank

/-- If an action comes after a request, it follows the answer to it. -/
def FollowsAnswer
    (events : List Event)
    (ticket : Nat)
    (next : Action) : Nat → Prop
  | 0 =>
      True
  | depth + 1 =>
      ∀ request,
        .began ticket request depth ∈ events →
        request.kind.url?.isSome →
          ∃ reception,
            .received reception ∈ events ∧
              reception.ticket = ticket ∧
              reception.action = request ∧
              reception.depth = depth ∧
              reception.LeadsTo next

/-- What has happened before justifies that a task gets on. -/
def Event.IsLawful
    (earlier : List Event) : Event → Prop
  | .began ticket action depth =>
      FollowsAnswer earlier ticket action depth
  | .received reception =>
      ∀ request,
        .began reception.ticket request reception.depth ∈ earlier →
          reception.action = request

/-- A task may be at a stage after some events. -/
def Suits
    (events : List Event)
    (ticket : Nat) : Stage → Prop
  | .start action depth =>
      IsShortOf events ticket (2 * depth) ∧
        FollowsAnswer events ticket action depth
  | .answered _ action depth =>
      IsShortOf events ticket (2 * depth + 1) ∧
        ∀ other, .began ticket other depth ∈ events → action = other
  | .rested _ depth =>
      IsShortOf events ticket (2 * depth + 1) ∧
        ∀ other, .began ticket other depth ∈ events →
          other.kind.url? = none
  | .void =>
      True

section

variable {events : List Event} {ticket : Nat}

theorem IsShortOf.append
    {rank : Nat}
    (short : IsShortOf events ticket rank)
    {news : List Event}
    (newShort : IsShortOf news ticket rank) :
    IsShortOf (events ++ news) ticket rank := by
  intro event member
  rcases List.mem_append.mp member with isOld | isNew
  · exact short event isOld
  · exact newShort event isNew

theorem IsShortOf.mono
    {rank later : Nat}
    (short : IsShortOf events ticket rank)
    (before : rank ≤ later) :
    IsShortOf events ticket later :=
  fun event member isOwn =>
    Nat.lt_of_lt_of_le (short event member isOwn) before

/-- What other tasks do leaves a task where it is in its course. -/
theorem Suits.others
    {stage : Stage}
    (suits : Suits events ticket stage)
    {news : List Event}
    (foreign : ∀ event ∈ news, event.ticket ≠ ticket) :
    Suits (events ++ news) ticket stage := by
  have short :
      ∀ {rank : Nat}, IsShortOf events ticket rank →
        IsShortOf (events ++ news) ticket rank :=
    fun isShort => isShort.append
      fun event member isOwn => absurd isOwn (foreign event member)
  have isOld :
      ∀ {action : Action} {depth : Nat},
        .began ticket action depth ∈ events ++ news →
        .began ticket action depth ∈ events := by
    intro action depth member
    exact (List.mem_append.mp member).resolve_right
      fun isNew => foreign _ isNew rfl
  cases stage with
  | start action depth =>
      refine ⟨short suits.1, ?_⟩
      cases depth with
      | zero =>
          trivial
      | succ depth =>
          intro request began isRequest
          obtain ⟨reception, received, rest⟩ :=
            suits.2 request (isOld began) isRequest
          exact ⟨reception, List.mem_append_left _ received, rest⟩
  | answered wiring action depth =>
      exact ⟨short suits.1, fun other began => suits.2 other (isOld began)⟩
  | rested action depth =>
      exact ⟨short suits.1, fun other began => suits.2 other (isOld began)⟩
  | void =>
      trivial

/-- A task of which nothing has been told may be at any stage. -/
theorem suits_of_untold
    (untold : ∀ event ∈ events, event.ticket ≠ ticket)
    (stage : Stage) :
    Suits events ticket stage := by
  have nothing : Suits [] ticket stage := by
    cases stage with
    | start action depth =>
        cases depth <;> simp [Suits, IsShortOf, FollowsAnswer]
    | _ =>
        simp [Suits, IsShortOf]
  exact nothing.others untold

/-- An action that a task begins is the only one at its depth. -/
theorem eq_of_began
    {action other : Action}
    {depth : Nat}
    (short : IsShortOf events ticket (2 * depth))
    (began :
      .began ticket other depth ∈ events ++ [.began ticket action depth]) :
    other = action := by
  rcases List.mem_append.mp began with isOld | isNew
  · have before := short _ isOld rfl
    simp [Event.rank] at before
  · simpa using isNew

/-- From stage to stage a task keeps to its course. -/
theorem Suits.next
    {session after : Session}
    {stage next : Stage}
    (suits : Suits events ticket stage)
    (sameStore :
      after.store = (session.advanceStage ticket stage).1.store)
    (goesOn :
      (session.advanceStage ticket stage).2.stage? = some next) :
    Suits (events ++ (session.stageEvent? after ticket stage).toList)
      ticket next := by
  cases stage with
  | start action depth =>
      have advances := advances_start session ticket action depth
      generalize (session.advanceStage ticket (.start action depth)).2 =
        progress at advances goesOn
      have short :
          IsShortOf (events ++ [.began ticket action depth]) ticket
            (2 * depth + 1) := by
        refine (suits.1.mono (Nat.le_succ _)).append ?_
        simp [IsShortOf, Event.rank]
      have same :
          ∀ other,
            .began ticket other depth ∈
                events ++ [.began ticket action depth] →
              other = action :=
        fun other => eq_of_began suits.1
      cases advances with
      | ended =>
          cases goesOn
      | followed noRequest =>
          cases goesOn
          refine ⟨short.mono (by omega), ?_⟩
          intro request began isRequest
          rw [same request began, noRequest] at isRequest
          cases isRequest
      | asked =>
          cases goesOn
          exact ⟨short, fun other began => (same other began).symm⟩
      | rests noRequest =>
          cases goesOn
          refine ⟨short, fun other began => ?_⟩
          rw [same other began]
          exact noRequest
  | answered wiring action depth =>
      simp only [advanceStage] at goesOn sameStore
      cases kind : action.kind with
      | request url method data headers onSuccess path =>
          have ends := ends_receive kind session ticket wiring depth
          obtain ⟨further, rfl, leads⟩ := ends.leadsTo goesOn
          simp only [stageEvent?, kind, Option.toList_some, sameStore]
          refine ⟨(suits.1.mono (by omega)).append ?_, ?_⟩
          · simp [IsShortOf, Event.rank]
            omega
          · intro request began _
            have isOld : .began ticket request depth ∈ events := by
              simpa using began
            exact ⟨_, by simp, rfl, suits.2 request isOld, rfl, leads⟩
      | _ =>
          simp only [receive, kind] at goesOn
          cases goesOn
  | rested action depth =>
      have ends := ends_rested action depth
      simp only [advanceStage] at goesOn
      generalize
        conclude action depth (.ok (.ofNext action.kind.followUp?)) =
          progress at ends goesOn
      simp only [stageEvent?, Option.toList_none, List.append_nil]
      cases ends with
      | ended =>
          cases goesOn
      | follow _ =>
          cases goesOn
          refine ⟨suits.1.mono (by omega), ?_⟩
          intro request began isRequest
          rw [suits.2 request began] at isRequest
          cases isRequest
  | void =>
      cases goesOn

/-- What a task tells is lawful, and it has not got so far before. -/
theorem Suits.event
    {session after : Session}
    {stage : Stage}
    (suits : Suits events ticket stage)
    {event : Event}
    (tells : session.stageEvent? after ticket stage = some event) :
    event.ticket = ticket ∧
      event.IsLawful events ∧
      IsShortOf events ticket event.rank := by
  cases stage with
  | start action depth =>
      cases tells
      exact ⟨rfl, suits.2, suits.1⟩
  | answered wiring action depth =>
      simp only [stageEvent?] at tells
      split at tells
      · cases tells
        exact ⟨rfl, suits.2, suits.1⟩
      · cases tells
  | rested action depth =>
      cases tells
  | void =>
      cases tells

end

/-! ## What is kept -/

/-- A task keeps the response to its request, and no other. -/
theorem response?_runTask
    (session : Session)
    (ticket : Nat)
    (task : Task)
    (url : String) :
    let after := session.runTask ticket task
    after.store.response? url =
      ((session.stageEvent? after ticket task.stage).bind
        (Event.response? url)).or (session.store.response? url) := by
  intro after
  have sameStore :
      after.store = (session.advanceStage ticket task.stage).1.store :=
    (concluded_runTask session ticket task).stays.store
  obtain ⟨origin, stage, settled⟩ := task
  cases stage with
  | start action depth =>
      have same :
          (session.advanceStage ticket
            (.start action depth)).1.store.responses =
            session.store.responses := by
        simp only [advanceStage]
        split
        · rfl
        · split
          · rfl
          · exact responses_perform _ _ action depth
      rw [sameStore, Store.response?, same]
      rfl
  | answered wiring action depth =>
      simp only [advanceStage] at sameStore
      cases kind : action.kind with
      | request other method data headers onSuccess path =>
          have kept := responses_receive kind session ticket wiring depth
          rw [sameStore, Store.response?, kept]
          simp only [stageEvent?, kind, Option.bind_some,
            Event.response?, ActionKind.url?]
          cases (session.networkOf wiring.line).answer other data with
          | error failure =>
              simp [Except.toOption, Store.response?]
          | ok response =>
              by_cases same : other = url
              · subst same
                simp [Except.toOption, Entries.get?_insert_same]
              · simp [same, Store.response?,
                  Entries.get?_insert_other _ _ (Ne.symm same)]
      | _ =>
          simp only [receive, kind] at sameStore
          rw [sameStore]
          simp only [stageEvent?, kind]
          rfl
  | rested action depth =>
      rw [sameStore]
      rfl
  | void =>
      rw [sameStore]
      rfl

/-- What no job does leaves the responses as they are. -/
theorem Happens.responses_eq
    {before after : Session}
    (happens : Happens before none after) :
    after.store.responses = before.store.responses := by
  cases happens with
  | moved moves =>
      cases moves <;> rfl
  | wrote path value =>
      have written :
          (before.store.set path value).1.responses =
            before.store.responses := by
        rw [Store.set_eq]
      unfold setState
      simp only
      split
      · exact written
      · exact
          (congrArg Store.responses (stays_notify _ _ _).store).trans
            written
  | watched path config depth =>
      exact congrArg Store.responses
        (stays_addWatcher before path config depth).store
  | _ =>
      rfl

/-! ## Whole histories -/

/-- A timer that comes back is still a timer. -/
theorem isTimer_of_mem_runJob
    {session : Session}
    {ticket : Nat}
    (lacks : session.agenda.Lacks ticket)
    {timer : Timer Errand}
    {job : Job}
    (member :
      ⟨ticket, job⟩ ∈
        (session.runJob ticket (.timer timer)).agenda.entries) :
    ∃ other, job = .timer other := by
  obtain ⟨own, jobs, news, yields, works⟩ :=
    works_runJob session ticket (.timer timer)
  have isOwn := yields.own_eq_of_mem lacks member
  cases works with
  | waits =>
      cases isOwn
      exact ⟨_, rfl⟩
  | passes _ =>
      cases isOwn
  | fires _ _ =>
      cases isOwn

/-- The history of a session accounts for its tasks and its responses. -/
structure IsAccount
    (first : Session)
    (events : List Event)
    (session : Session) :
    Prop where
  orderly :
    IsOrderly session
  given :
    ∀ event ∈ events, event.ticket < session.agenda.nextTicket
  suits :
    ∀ entry ∈ session.agenda.entries, ∀ task,
      entry.job = .task task →
        Suits events entry.ticket task.stage
  ordered :
    events.Pairwise fun earlier later =>
      earlier.ticket = later.ticket → earlier.rank < later.rank
  lawful :
    ∀ earlier event later,
      events = earlier ++ event :: later →
        event.IsLawful earlier
  responses :
    ∀ url,
      session.store.response? url =
        (events.filterMap (Event.response? url)).getLast?.or
          (first.store.response? url)

namespace IsAccount

variable {first before after : Session} {events : List Event}

/-- What another job does leaves a task where it is in its course. -/
theorem suits_of_foreign
    (account : IsAccount first events before)
    {mover : Option Nat}
    (happens : Happens before mover after)
    {entry : Ticketed Job}
    (member : entry ∈ after.agenda.entries)
    (foreign : mover ≠ some entry.ticket)
    {task : Task}
    (isTask : entry.job = .task task) :
    Suits events entry.ticket task.stage := by
  by_cases given : entry.ticket < before.agenda.nextTicket
  · obtain ⟨job, wasThere, same⟩ := happens.left given foreign member
    rcases same with rfl | wakes
    · exact account.suits _ wasThere task isTask
    · obtain ⟨_, _, _, _, _, isVoid⟩ := exists_of_woken? wakes
      rw [isVoid] at isTask
      cases isTask
      trivial
  · refine suits_of_untold ?_ task.stage
    intro event told isOwn
    exact given (isOwn ▸ account.given event told)

/-- What no job does leaves the account as it is. -/
theorem otherwise
    (account : IsAccount first events before)
    (happens : Happens before none after) :
    IsAccount first events after where
  orderly :=
    happens.isOrderly account.orderly
  given event told :=
    Nat.lt_of_lt_of_le (account.given event told) happens.nextTicket_le
  suits _ member _ isTask :=
    account.suits_of_foreign happens member nofun isTask
  ordered :=
    account.ordered
  lawful :=
    account.lawful
  responses url := by
    rw [Store.response?, happens.responses_eq]
    exact account.responses url

/-- A timer that runs tells nothing. -/
theorem ran_timer
    (account : IsAccount first events before)
    {ticket : Nat}
    {timer : Timer Errand}
    {rest : Agenda Job}
    (takes : before.agenda.Takes ⟨ticket, .timer timer⟩ rest) :
    IsAccount first events
      ({ before with agenda := rest }.runJob ticket (.timer timer)) := by
  let taken : Session := { before with agenda := rest }
  have happens :
      Happens before (some ticket) (taken.runJob ticket (.timer timer)) :=
    .moved (.ran takes)
  have stays : Stays taken (taken.runJob ticket (.timer timer)) := by
    simp only [runJob]
    split
    · exact stays_runErrand taken timer.work
    · exact ⟨rfl, rfl⟩
  refine
    ⟨happens.isOrderly account.orderly,
      fun event told =>
        Nat.lt_of_lt_of_le (account.given event told)
          happens.nextTicket_le,
      ?_, account.ordered, account.lawful, ?_⟩
  · rintro ⟨other, job⟩ member task isTask
    by_cases own : other = ticket
    · subst own
      have lacks := (account.orderly.agenda.taken takes).2
      obtain ⟨_, isTimer⟩ := isTimer_of_mem_runJob lacks member
      rw [isTimer] at isTask
      cases isTask
    · exact account.suits_of_foreign happens member
        (fun same => own (Option.some.inj same).symm) isTask
  · intro url
    rw [stays.store]
    exact account.responses url

/-- A task that runs tells how it has got on. -/
theorem ran_task
    (account : IsAccount first events before)
    {ticket : Nat}
    {task : Task}
    {rest : Agenda Job}
    (takes : before.agenda.Takes ⟨ticket, .task task⟩ rest) :
    let after := { before with agenda := rest }.runTask ticket task
    IsAccount first
      (events ++ (before.stageEvent? after ticket task.stage).toList)
      after := by
  intro after
  let taken : Session := { before with agenda := rest }
  have happens : Happens before (some ticket) after :=
    .moved (.ran takes)
  have isThere := takes.perm.mem_iff.mpr List.mem_cons_self
  have suits : Suits events ticket task.stage :=
    account.suits _ isThere task rfl
  have isGiven : ticket < before.agenda.nextTicket :=
    account.orderly.agenda.given _ isThere
  -- The agenda does not matter to what the task tells.
  have tells :
      before.stageEvent? after ticket task.stage =
        taken.stageEvent? after ticket task.stage :=
    rfl
  have isOwn :
      ∀ event ∈ (before.stageEvent? after ticket task.stage).toList,
        event.ticket = ticket :=
    fun event member =>
      (suits.event (Option.mem_toList.mp member)).1
  refine ⟨happens.isOrderly account.orderly, ?_, ?_, ?_, ?_, ?_⟩
  · intro event member
    refine Nat.lt_of_lt_of_le ?_ happens.nextTicket_le
    rcases List.mem_append.mp member with isOld | isNew
    · exact account.given event isOld
    · rw [isOwn event isNew]
      exact isGiven
  · rintro ⟨other, job⟩ member current isTask
    by_cases own : other = ticket
    · subst own
      have lacks : taken.agenda.Lacks other :=
        (account.orderly.agenda.taken takes).2
      obtain ⟨stage, settled, isBack, goesOn⟩ :=
        exists_stage_of_mem_runTask lacks member
      obtain rfl : current = ⟨task.origin, stage, settled⟩ :=
        Job.task.inj (isTask.symm.trans isBack)
      rw [tells]
      exact suits.next
        (concluded_runTask taken other task).stays.store goesOn
    · have waits :=
        account.suits_of_foreign happens member
          (fun same => own (Option.some.inj same).symm) isTask
      refine waits.others fun event isNew => ?_
      rw [isOwn event isNew]
      exact Ne.symm own
  · refine List.pairwise_append.mpr ⟨account.ordered, ?_, ?_⟩
    · cases before.stageEvent? after ticket task.stage <;> simp
    · intro earlier isOld event isNew sameTicket
      have told := suits.event (Option.mem_toList.mp isNew)
      exact told.2.2 earlier isOld (sameTicket.trans told.1)
  · cases told : before.stageEvent? after ticket task.stage with
    | none =>
        simpa using account.lawful
    | some event =>
        exact forall_concat events account.lawful (suits.event told).2.1
  · intro url
    have kept := response?_runTask taken ticket task url
    simp only at kept
    have keptBefore : taken.store.response? url = _ :=
      account.responses url
    rw [kept, ← tells, List.filterMap_append, List.getLast?_append,
      keptBefore, Option.or_assoc]
    cases before.stageEvent? after ticket task.stage with
    | none =>
        rfl
    | some event =>
        cases told : event.response? url <;> simp [told]

end IsAccount

/-- Whatever happens, the history accounts for it. -/
theorem History.isAccount
    {first last : Session}
    {events : List Event}
    (history : History first events last)
    (orderly : IsOrderly first) :
    IsAccount first events last := by
  induction history with
  | rest =>
      refine ⟨orderly, nofun, ?_, .nil, ?_, fun _ => rfl⟩
      · intro entry _ task _
        exact suits_of_untold (by simp) task.stage
      · intro earlier event later split
        simp at split
  | @ran events before after entry rest _ takes isAfter
      inductionHypothesis =>
      obtain ⟨ticket, job⟩ := entry
      subst isAfter
      cases job with
      | task task =>
          exact inductionHypothesis.ran_task takes
      | timer timer =>
          have silent := inductionHypothesis.ran_timer takes
          simpa [event?] using silent
  | otherwise _ happens inductionHypothesis =>
      exact inductionHypothesis.otherwise happens

/--
Requests in flight do not mix, whatever happens.  A task begins one action at
each depth, so that of a request at most one action follows, at most once.  A
request is answered once at most.  If an action follows it, it has been
answered before: either with a response of its own, which has been kept under
its URL, written where it wants, and given to the action; or it has failed in
its own way, of which the action has been told.  Under every URL the response
is kept that came last to a request to that URL.
-/
theorem requests_do_not_mix
    {first last : Session}
    {events : List Event}
    (orderly : IsOrderly first)
    (history : History first events last) :
    (events.filterMap Event.begun?).Nodup ∧
      (events.filterMap Event.received?).Nodup ∧
      (∀ (earlier later : List Event) (reception : Reception)
          (request : Action),
        events = earlier ++ .received reception :: later →
        .began reception.ticket request reception.depth ∈ earlier →
          reception.action = request) ∧
      (∀ (earlier later : List Event) (ticket depth : Nat)
          (request next : Action),
        events = earlier ++ .began ticket next (depth + 1) :: later →
        .began ticket request depth ∈ earlier →
        request.kind.url?.isSome →
          ∃ reception,
            .received reception ∈ earlier ∧
              reception.ticket = ticket ∧
              reception.action = request ∧
              reception.depth = depth ∧
              reception.LeadsTo next) ∧
      ∀ url,
        last.store.response? url =
          (events.filterMap (Event.response? url)).getLast?.or
            (first.store.response? url) := by
  have account := history.isAccount orderly
  refine ⟨?_, ?_, ?_, ?_, account.responses⟩
  · refine account.ordered.filterMap _ ?_
    rintro (⟨ticket, action, depth⟩ | _)
      (⟨otherTicket, otherAction, otherDepth⟩ | _) precedes _ ⟨⟩ _ ⟨⟩
      same
    cases same
    exact Nat.lt_irrefl _ (precedes rfl)
  · refine account.ordered.filterMap _ ?_
    rintro (_ | reception) (_ | other) precedes _ ⟨⟩ _ ⟨⟩ same
    obtain ⟨sameTicket, sameDepth⟩ := Prod.mk.inj same
    have further := precedes sameTicket
    simp only [Event.rank] at further
    omega
  · intro earlier later reception request split
    exact account.lawful earlier _ later split request
  · intro earlier later ticket depth request next split
    exact account.lawful earlier _ later split request

/-- Hide the toast. -/
def hideToastAction : Action where
  kind :=
    .hideToast
  params :=
    []
  onError :=
    none

/-- A request that is answered with its own data. -/
def echoRequest
    (data : Value) :
    Action where
  kind :=
    .request "/echo" "POST" (some data) [] (some hideToastAction) none
  params :=
    []
  onError :=
    none

/-- The task of such a request, when its answer is there. -/
def echoTask
    (data : Value) :
    Job :=
  .task ⟨.dispatched, .answered {} (echoRequest data) 0, none⟩

/-- The task of such a request when it goes on with its response. -/
def hideTask
    (data : Value) :
    Job :=
  .task
    ⟨.dispatched,
      .start
        (hideToastAction.withParam "response"
          (Network.echo (some data))) 1,
      some .completed⟩

/-- A session in which two such requests have been launched. -/
def echoSession : Session :=
  ((quietSession.launch .dispatched
      (.start (echoRequest (.int 1)) 0)).1.launch .dispatched
    (.start (echoRequest (.int 2)) 0)).1

/-- That session when both answers are due. -/
def echoDueSession : Session :=
  let asked := echoSession.proceed.proceed
  { asked with agenda := asked.agenda.moveTo 500 }

/-- A ready job has run while others were waiting. -/
def ranBefore
    (session : Session)
    (others : List (Ticketed Job))
    (entry : Ticketed Job) :
    Session :=
  { session with
    agenda := { session.agenda with ready := others } }.runJob
      entry.ticket entry.job

/-- Of two requests to one URL the second is answered before the first. -/
theorem requests_do_not_mix_echo :
    let crossed :=
      echoDueSession.ranBefore [⟨0, echoTask (.int 1)⟩]
        ⟨1, echoTask (.int 2)⟩
    let last :=
      crossed.ranBefore [⟨1, hideTask (.int 2)⟩] ⟨0, echoTask (.int 1)⟩
    ∃ events,
      History echoSession events last.proceed ∧
        events.filterMap Event.received? = [(1, 0), (0, 0)] ∧
        last.proceed.store.response? "/echo" =
          some (Network.echo (some (.int 1))) ∧
        ∃ reception,
          .received reception ∈ events ∧
            reception.ticket = 0 ∧
            reception.action = echoRequest (.int 1) ∧
            reception.LeadsTo
              (hideToastAction.withParam "response"
                (Network.echo (some (.int 1)))) := by
  intro crossed last
  have orderly : IsOrderly echoSession :=
    (isOrderly_quietSession.launch .dispatched _).launch .dispatched _
  have starts :
      echoSession.agenda.ready =
        [⟨0, .task
            ⟨.dispatched, .start (echoRequest (.int 1)) 0, none⟩⟩,
          ⟨1, .task
            ⟨.dispatched, .start (echoRequest (.int 2)) 0, none⟩⟩] :=
    rfl
  have startsNext :
      echoSession.proceed.agenda.ready =
        [⟨1, .task
          ⟨.dispatched, .start (echoRequest (.int 2)) 0, none⟩⟩] :=
    rfl
  have second :
      echoDueSession.agenda.Takes ⟨1, echoTask (.int 2)⟩
        { echoDueSession.agenda with
          ready := [⟨0, echoTask (.int 1)⟩] } :=
    ⟨[⟨0, echoTask (.int 1)⟩], [], rfl, rfl⟩
  have first :
      crossed.agenda.Takes ⟨0, echoTask (.int 1)⟩
        { crossed.agenda with ready := [⟨1, hideTask (.int 2)⟩] } :=
    ⟨[⟨1, hideTask (.int 2)⟩], [], rfl, rfl⟩
  have hides :
      last.agenda.ready =
        [⟨0, hideTask (.int 1)⟩, ⟨1, hideTask (.int 2)⟩] :=
    rfl
  let begun : List Event :=
    [.began 0 (echoRequest (.int 1)) 0,
      .began 1 (echoRequest (.int 2)) 0]
  let secondReception : Reception :=
    ⟨1, echoRequest (.int 2), 0, .ok (Network.echo (some (.int 2))),
      echoDueSession.store, crossed.store⟩
  let firstReception : Reception :=
    ⟨0, echoRequest (.int 1), 0, .ok (Network.echo (some (.int 1))),
      crossed.store, last.store⟩
  let received : List Event :=
    begun ++ [.received secondReception, .received firstReception]
  let hidden : Action :=
    hideToastAction.withParam "response"
      (Network.echo (some (.int 1)))
  have waited : History echoSession begun echoDueSession :=
    ((History.rest.proceed starts).proceed startsNext).otherwise
      (.moved (.slept 500))
  have answered : History echoSession received last :=
    (waited.ran second rfl).ran first rfl
  have history :
      History echoSession (received ++ [.began 0 hidden 1])
        last.proceed :=
    answered.proceed hides
  obtain ⟨_, _, _, follows, kept⟩ := requests_do_not_mix orderly history
  obtain ⟨reception, isReceived, ticket, action, _, leads⟩ :=
    follows received [] 0 0 (echoRequest (.int 1)) hidden rfl
      List.mem_cons_self rfl
  exact ⟨_, history, rfl, kept "/echo", reception,
    List.mem_append_left _ isReceived, ticket, action, leads⟩

end Session

end Mockup
