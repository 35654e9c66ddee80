import Mockup.Proofs.Session.Life

namespace Mockup

/-!
# After the shutdown

A session that has been stopped has no wiring, no watchers and no timers, and
nothing that watchers started is under way.  What is left are tasks from
outside.  They come to nothing, except that a request cannot be called back:
its response is still kept, and written where the request says.
-/

/-- A task waits for the response to a request that says where to write it. -/
def Task.Awaits
    (task : Task)
    (url : String)
    (path : Option String) :
    Prop :=
  ∃ wiring action depth method data headers onSuccess,
    task.stage = .answered wiring action depth ∧
      action.kind = .request url method data headers onSuccess path

namespace Session

/-! ## Late responses -/

/-- A response that comes to a request after the session has been stopped. -/
structure Arrival where
  ticket : Nat
  url : String
  /-- Where the response is to be written. -/
  path : Option String
  response : Value

namespace Arrival

/-- Write a response where a request says, unless it says nowhere. -/
def write
    (store : Store)
    (path : Option String)
    (response : Value) :
    Store :=
  match path with
  | none =>
      store
  | some target =>
      if target = "" then store else (store.set target response).1

/-- The store once a response has come. -/
def land
    (store : Store)
    (arrival : Arrival) :
    Store :=
  write (store.keepResponse arrival.url arrival.response) arrival.path
    arrival.response

/-- What is noted of a response. -/
def report
    (arrival : Arrival) :
    Nat × String × Value :=
  (arrival.ticket, arrival.url, arrival.response)

end Arrival

/-- The response that a task was given, with its ticket and the URL. -/
def response? : Occurrence → Option (Nat × String × Value)
  | .responded ticket url response =>
      some (ticket, url, response)
  | _ =>
      none

/--
Whether a note may still be made after the shutdown: of a response, of a
change that no watcher is there to see, or of the end of a task.
-/
def isBelated : Occurrence → Bool
  | .responded _ _ _ =>
      true
  | .notified _ _ =>
      true
  | .finished _ _ _ _ =>
      true
  | _ =>
      false

/-- A request from outside waits for the response that has come. -/
def IsInFlight
    (session : Session)
    (arrival : Arrival) :
    Prop :=
  ∃ task : Task,
    ⟨arrival.ticket, .task task⟩ ∈ session.agenda.entries ∧
      task.origin ≠ .cascade ∧
      task.Awaits arrival.url arrival.path

/-! ## Writes that nobody sees -/

/-- Pages and watchers stay, and nothing but belated notes is made. -/
structure Hushes
    (before after : Session)
    (news : List Occurrence) :
    Prop where
  pages :
    after.pages = before.pages
  registered :
    after.watch.registered = before.watch.registered
  journal :
    after.journal = before.journal ++ news
  belated :
    ∀ occurrence ∈ news, isBelated occurrence = true

namespace Hushes

theorem of_eq
    {before after : Session}
    (pages : after.pages = before.pages)
    (registered : after.watch.registered = before.watch.registered)
    (journal : after.journal = before.journal) :
    Hushes before after [] :=
  ⟨pages, registered, by rw [journal, List.append_nil], by simp⟩

theorem trans
    {first second third : Session}
    {earlierNews laterNews : List Occurrence}
    (earlier : Hushes first second earlierNews)
    (later : Hushes second third laterNews) :
    Hushes first third (earlierNews ++ laterNews) where
  pages :=
    later.pages.trans earlier.pages
  registered :=
    later.registered.trans earlier.registered
  journal := by
    rw [later.journal, earlier.journal, List.append_assoc]
  belated :=
    List.forall_mem_append.mpr ⟨earlier.belated, later.belated⟩

theorem note
    (session : Session)
    {occurrence : Occurrence}
    (belated : isBelated occurrence = true) :
    Hushes session (session.note occurrence) [occurrence] :=
  ⟨rfl, rfl, rfl, by simpa using belated⟩

end Hushes

/-- A change that no watcher is there to see is noted, and that is all. -/
theorem notify_of_unwatched
    {session : Session}
    (unwatched : session.watch.registered = [])
    (change : StateChange)
    (context : WatchContext) :
    session.notify change context =
      session.note (.notified change context) := by
  have concerned :
      ∀ path, (session.note
        (.notified change context)).watch.concerned path = [] := by
    intro path
    have none :
        (session.note (.notified change context)).watch.registered =
          [] :=
      unwatched
    simp [Watch.concerned, none]
  simp [notify, Watch.notify, concerned, Watch.reactAll]

/-- A write that no watcher is there to see. -/
theorem hushes_commit
    {session : Session}
    (unwatched : session.watch.registered = [])
    (wiring : Wiring)
    (path : String)
    (value : Value)
    (depth : Nat) :
    let after := (session.commit wiring path value depth).session
    after.store = (session.store.set path value).1 ∧
      after.agenda = session.agenda ∧
        ∃ news,
          Hushes session after news ∧ news.filterMap response? = [] := by
  intro after
  let written : Session :=
    { session with store := (session.store.set path value).1 }
  have hushes : Hushes session written [] :=
    .of_eq rfl rfl rfl
  simp only [after]
  unfold commit
  simp only [session_observe]
  split
  · exact ⟨rfl, rfl, [], hushes, rfl⟩
  · split
    · rename_i write _ _
      let change : StateChange := ⟨write.path, some value, write.old⟩
      let context : WatchContext :=
        ⟨(session.store.set path value).1.state, depth⟩
      have writtenUnwatched : written.watch.registered = [] :=
        unwatched
      have noted :
          written.notify change context =
            written.note (.notified change context) :=
        notify_of_unwatched writtenUnwatched change context
      simp only [succeed]
      change
        (written.notify change context).store = _ ∧
          (written.notify change context).agenda = _ ∧
            ∃ news, Hushes session (written.notify change context) news ∧ _
      rw [noted]
      exact ⟨rfl, rfl, _, hushes.trans (.note written rfl), rfl⟩
    · exact ⟨rfl, rfl, [], hushes, rfl⟩

theorem hushes_commitResponse
    {session : Session}
    (unwatched : session.watch.registered = [])
    (wiring : Wiring)
    (path : Option String)
    (response : Value)
    (depth : Nat) :
    let after :=
      (session.commitResponse wiring path response depth).session
    after.store = Arrival.write session.store path response ∧
      after.agenda = session.agenda ∧
        ∃ news,
          Hushes session after news ∧ news.filterMap response? = [] := by
  have idle : Hushes session session [] :=
    .of_eq rfl rfl rfl
  unfold commitResponse
  cases path with
  | none =>
      exact ⟨rfl, rfl, [], idle, rfl⟩
  | some target =>
      by_cases nowhere : target = ""
      · simp only [nowhere, if_true]
        exact ⟨by simp [Arrival.write, succeed], rfl, [], idle, rfl⟩
      · have hushes :=
          hushes_commit unwatched wiring target response depth
        simp only [nowhere, if_false]
        have same :
            ((session.commit wiring target response
                depth).andThen fun written _ =>
                  written.succeed ()).session =
              (session.commit wiring target response
                depth).session := by
          unfold Attempt.andThen
          split <;> rfl
        rw [same]
        simpa [Arrival.write, nowhere] using hushes

/-! ## Work that fades -/

/-- A job from outside that waits for no response. -/
def IsIdle
    (job : Job) :
    Prop :=
  ∃ task : Task,
    job = .task task ∧ ∀ url path, ¬ task.Awaits url path

/-- A task waits for a response at the stage of an answer only. -/
theorem isIdle_of_unanswered
    {task : Task}
    (unanswered :
      ∀ wiring action depth, task.stage ≠ .answered wiring action depth) :
    IsIdle (.task task) := by
  refine ⟨task, rfl, ?_⟩
  rintro _ _ ⟨_, _, _, _, _, _, _, isAnswered, _⟩
  exact unanswered _ _ _ isAnswered

/-- A job that is woken before its time waits for no response. -/
theorem isIdle_of_woken?
    {job woken : Job}
    (wakes : woken? job = some woken) :
    IsIdle woken := by
  obtain ⟨_, _, _, _, _, rfl⟩ := exists_of_woken? wakes
  exact isIdle_of_unanswered (by simp)

/-- Nothing is seen to happen, and the store changes by responses only. -/
structure Fades
    (before after : Session)
    (arrivals : List Arrival)
    (news : List Occurrence) :
    Prop extends Hushes before after news where
  reports :
    news.filterMap response? = arrivals.map Arrival.report
  store :
    after.store = arrivals.foldl Arrival.land before.store

theorem Fades.of_eq
    {before after : Session}
    (pages : after.pages = before.pages)
    (registered : after.watch.registered = before.watch.registered)
    (journal : after.journal = before.journal)
    (store : after.store = before.store) :
    Fades before after [] [] :=
  ⟨.of_eq pages registered journal, rfl, store⟩

theorem Fades.trans
    {first second third : Session}
    {arrivals laterArrivals : List Arrival}
    {news laterNews : List Occurrence}
    (earlier : Fades first second arrivals news)
    (later : Fades second third laterArrivals laterNews) :
    Fades first third (arrivals ++ laterArrivals) (news ++ laterNews) where
  toHushes :=
    earlier.toHushes.trans later.toHushes
  reports := by
    rw [List.filterMap_append, List.map_append, earlier.reports,
      later.reports]
  store := by
    rw [later.store, earlier.store, List.foldl_append]

/-- A task is given the response that it waits for, once, or nothing. -/
structure Lands
    (ticket : Nat)
    (task : Task)
    (before after : Session)
    (arrivals : List Arrival)
    (news : List Occurrence) :
    Prop extends Fades before after arrivals news where
  awaited :
    ∀ arrival ∈ arrivals,
      arrival.ticket = ticket ∧ task.Awaits arrival.url arrival.path
  once :
    arrivals.length ≤ 1
  entries :
    ∀ entry ∈ after.agenda.entries,
      entry ∈ before.agenda.entries ∨ IsIdle entry.job

theorem Lands.refl
    (ticket : Nat)
    (task : Task)
    (session : Session) :
    Lands ticket task session session [] [] :=
  ⟨.of_eq rfl rfl rfl rfl, by simp, by simp, fun _ => Or.inl⟩

/-- A response that comes to a request is kept, and written where it says. -/
theorem lands_receive
    {session : Session}
    (unwatched : session.watch.registered = [])
    (ticket : Nat)
    (wiring : Wiring)
    (action : Action)
    (depth : Nat)
    (origin : Origin)
    (settled : Option Outcome) :
    ∃ arrivals news,
      Lands ticket ⟨origin, .answered wiring action depth, settled⟩
        session (session.receive ticket wiring action depth).session
        arrivals news := by
  cases kind : action.kind with
  | request url method data headers onSuccess path =>
      cases answer :
          (session.networkOf wiring.line).answer url data with
      | error failure =>
          rw [receive_of_failure ticket kind answer depth]
          exact ⟨[], [], .refl ticket _ session⟩
      | ok response =>
          let arrival : Arrival := ⟨ticket, url, path, response⟩
          let base := session.answered ticket url response
          have baseUnwatched : base.watch.registered = [] :=
            unwatched
          obtain ⟨store, agenda, news, hushes, silent⟩ :=
            hushes_commitResponse baseUnwatched wiring path response depth
          have kept :
              Hushes session base [.responded ticket url response] :=
            ⟨rfl, rfl, rfl, by simp [isBelated]⟩
          have same :
              (session.receive ticket wiring action depth).session =
                (base.commitResponse wiring path response
                  depth).session := by
            rw [receive_of_response ticket kind answer depth,
              Attempt.andThen]
            split <;> rfl
          rw [same]
          refine ⟨[arrival], _, ⟨kept.trans hushes, ?_, store⟩, ?_,
            by simp, ?_⟩
          · simp [silent, response?, arrival, Arrival.report]
          · have awaits :
                Task.Awaits
                  ⟨origin, .answered wiring action depth, settled⟩ url
                  path :=
              ⟨_, _, _, _, _, _, _, rfl, kind⟩
            simpa [arrival] using awaits
          · rw [agenda]
            exact fun _ => Or.inl
  | _ =>
      simp only [receive, kind]
      exact ⟨[], [], .refl ticket _ session⟩

/-- The end of a task is noted, and that is all. -/
theorem Lands.finished
    {session between : Session}
    {ticket : Nat}
    {task : Task}
    {arrivals : List Arrival}
    {news : List Occurrence}
    (lands : Lands ticket task session between arrivals news)
    (time : Nat)
    (origin : Origin)
    (outcome : Outcome) :
    let finished := Occurrence.finished time ticket origin outcome
    Lands ticket task session (between.note finished) arrivals
      (news ++ [finished]) := by
  intro finished
  have noted : Fades between (between.note finished) [] [finished] :=
    ⟨.note between rfl, rfl, rfl⟩
  have fades := lands.toFades.trans noted
  rw [List.append_nil] at fades
  exact ⟨fades, lands.awaited, lands.once, lands.entries⟩

/-- A task that is done with its action does nothing besides. -/
theorem Concluded.lands
    {session between after : Session}
    {ticket : Nat}
    {task : Task}
    {progress : Progress}
    {action : Action}
    {depth : Nat}
    {arrivals : List Arrival}
    {news : List Occurrence}
    (concluded : Concluded between ticket task progress after)
    (ends : progress.Ends action depth)
    (lands : Lands ticket task session between arrivals news) :
    ∃ more, Lands ticket task session after arrivals more := by
  cases concluded with
  | ended =>
      exact ⟨_, lands.finished _ _ _⟩
  | @follow outcome next agenda perm _ =>
      have rescheduled :
          Fades between { between with agenda := agenda } [] [] :=
        .of_eq rfl rfl rfl rfl
      have fades := lands.toFades.trans rescheduled
      rw [List.append_nil] at fades
      refine ⟨_, fades, lands.awaited, lands.once, ?_⟩
      intro entry member
      rcases List.mem_cons.mp (perm.mem_iff.mp member) with
          rfl | isOther
      · cases ends with
        | follow leads =>
            exact Or.inr (isIdle_of_unanswered (by simp))
      · exact lands.entries entry isOther
  | wait =>
      cases ends

/-- A task of an inert session is given its response at most. -/
theorem lands_runTask
    (session : Session)
    (unwired : session.wiring = none)
    (unwatched : session.watch.registered = [])
    (ticket : Nat)
    (task : Task) :
    ∃ arrivals news,
      Lands ticket task session (session.runTask ticket task) arrivals
        news := by
  have concluded := concluded_runTask session ticket task
  obtain ⟨origin, stage, settled⟩ := task
  -- A stage that ends, and leaves the session as it is, adds only that note.
  have passes :
      ∀ outcome,
        session.advanceStage ticket stage = (session, .ended outcome) →
        ∃ arrivals news,
          Lands ticket ⟨origin, stage, settled⟩ session
            (session.runTask ticket ⟨origin, stage, settled⟩) arrivals
            news := by
    intro outcome advanced
    simp only [advanced] at concluded
    generalize session.runTask ticket _ = after at concluded ⊢
    cases concluded with
    | ended =>
        exact ⟨[], _, (Lands.refl ticket _ session).finished _ _ _⟩
  cases stage with
  | start action depth =>
      by_cases deep : session.settings.cascadeLimit < depth
      · exact passes .failed (by simp [advanceStage, deep])
      · exact passes .skipped (by simp [advanceStage, deep, unwired])
  | answered wiring action depth =>
      obtain ⟨_, _, acts⟩ :=
        acts_receive session ticket wiring action depth
      obtain ⟨arrivals, news, lands⟩ :=
        lands_receive unwatched ticket wiring action depth origin settled
      exact ⟨arrivals,
        concluded.lands (ends_conclude acts.result depth) lands⟩
  | rested action depth =>
      exact ⟨[],
        concluded.lands (ends_rested action depth)
          (.refl ticket _ session)⟩
  | void =>
      exact passes .skipped rfl

/-! ## Work that subsides -/

/--
Work subsides from one session to another: it fades, responses come only to
requests that wait for them, each of them once, and no task begins to wait.
-/
structure Subsides
    (before after : Session)
    (arrivals : List Arrival)
    (news : List Occurrence) :
    Prop extends Fades before after arrivals news where
  awaited :
    ∀ arrival ∈ arrivals,
      ∃ task : Task,
        ⟨arrival.ticket, .task task⟩ ∈ before.agenda.entries ∧
          task.Awaits arrival.url arrival.path
  distinct :
    (arrivals.map Arrival.ticket).Nodup
  entries :
    ∀ entry ∈ after.agenda.entries,
      (entry ∈ before.agenda.entries ∧
          entry.ticket ∉ arrivals.map Arrival.ticket) ∨
        IsIdle entry.job

namespace Subsides

theorem of_entries
    {before after : Session}
    (fades : Fades before after [] [])
    (entries :
      ∀ entry ∈ after.agenda.entries,
        entry ∈ before.agenda.entries ∨ IsIdle entry.job) :
    Subsides before after [] [] :=
  ⟨fades, by simp, List.nodup_nil, by simpa using entries⟩

theorem refl
    (session : Session) :
    Subsides session session [] [] :=
  of_entries (.of_eq rfl rfl rfl rfl) fun _ => Or.inl

/-- A job that waits for a response later on has waited all the time. -/
theorem waited
    {before after : Session}
    {arrivals : List Arrival}
    {news : List Occurrence}
    (subsides : Subsides before after arrivals news)
    {ticket : Nat}
    {task : Task}
    (member : ⟨ticket, .task task⟩ ∈ after.agenda.entries)
    {url : String}
    {path : Option String}
    (awaits : task.Awaits url path) :
    ⟨ticket, .task task⟩ ∈ before.agenda.entries ∧
      ticket ∉ arrivals.map Arrival.ticket := by
  rcases subsides.entries _ member with waited | ⟨other, same, idle⟩
  · exact waited
  · cases same
    exact absurd awaits (idle url path)

theorem trans
    {first second third : Session}
    {arrivals laterArrivals : List Arrival}
    {news laterNews : List Occurrence}
    (earlier : Subsides first second arrivals news)
    (later : Subsides second third laterArrivals laterNews) :
    Subsides first third (arrivals ++ laterArrivals)
      (news ++ laterNews) where
  toFades :=
    earlier.toFades.trans later.toFades
  awaited := by
    refine List.forall_mem_append.mpr ⟨earlier.awaited, ?_⟩
    intro arrival member
    obtain ⟨task, wasThere, awaits⟩ := later.awaited arrival member
    exact ⟨task, (earlier.waited wasThere awaits).1, awaits⟩
  distinct := by
    rw [List.map_append, List.nodup_append]
    refine ⟨earlier.distinct, later.distinct, ?_⟩
    rintro ticket isEarlier _ isLater rfl
    obtain ⟨arrival, member, rfl⟩ := List.mem_map.mp isLater
    obtain ⟨task, wasThere, awaits⟩ := later.awaited arrival member
    exact (earlier.waited wasThere awaits).2 isEarlier
  entries entry member := by
    rcases later.entries entry member with ⟨wasThere, notLater⟩ | idle
    · rcases earlier.entries entry wasThere with
          ⟨wasBefore, notEarlier⟩ | idle
      · refine Or.inl ⟨wasBefore, ?_⟩
        rw [List.map_append, List.mem_append]
        exact not_or.mpr ⟨notEarlier, notLater⟩
      · exact Or.inr idle
    · exact Or.inr idle

end Subsides

/-- A task that runs subsides, since no other job has its ticket. -/
theorem Lands.subsides
    {session after : Session}
    {entry : Ticketed Job}
    {rest : Agenda Job}
    {task : Task}
    {arrivals : List Arrival}
    {news : List Occurrence}
    (orderly : IsOrderly session)
    (takes : session.agenda.Takes entry rest)
    (isTask : entry.job = .task task)
    (lands :
      Lands entry.ticket task { session with agenda := rest } after
        arrivals news) :
    Subsides session after arrivals news where
  pages :=
    lands.pages
  registered :=
    lands.registered
  journal :=
    lands.journal
  belated :=
    lands.belated
  reports :=
    lands.reports
  store :=
    lands.store
  awaited arrival member := by
    obtain ⟨sameTicket, awaits⟩ := lands.awaited arrival member
    refine ⟨task, ?_, awaits⟩
    rw [sameTicket, ← isTask]
    exact takes.perm.mem_iff.mpr List.mem_cons_self
  distinct := by
    have once := lands.once
    match arrivals with
    | [] => exact List.nodup_nil
    | [arrival] => simp
  entries other member := by
    refine (lands.entries other member).imp_left ?_
    intro isOther
    refine ⟨takes.perm.mem_iff.mpr (List.mem_cons_of_mem _ isOther), ?_⟩
    intro isArrival
    obtain ⟨arrival, isIn, sameTicket⟩ := List.mem_map.mp isArrival
    have lacks := (orderly.agenda.taken takes).2
    refine lacks.absent other isOther ?_
    rw [← sameTicket, (lands.awaited arrival isIn).1]

/-! ## Sessions that have been stopped -/

/-- Nothing but tasks are left, and neither wiring nor watchers. -/
structure IsStill
    (session : Session) :
    Prop where
  unwired :
    session.wiring = none
  unwatched :
    session.watch.registered = []
  tasks :
    ∀ entry ∈ session.agenda.entries, ∃ task, entry.job = .task task

/-- A still session runs by its moves, as long as it is not wired anew. -/
inductive Drifts
    (first : Session) : Session → Prop where
  | rest :
      Drifts first first
  | step
      {before after : Session}
      {mover : Option Nat} :
      Drifts first before →
      Moves before mover after →
      after.wiring = none →
      Drifts first after

/-- What a still session does is to subside. -/
theorem Moves.subsides
    {before after : Session}
    {mover : Option Nat}
    (moves : Moves before mover after)
    (orderly : IsOrderly before)
    (still : IsStill before)
    (unwired : after.wiring = none) :
    ∃ arrivals news, Subsides before after arrivals news := by
  cases moves with
  | @ran entry rest takes =>
      obtain ⟨task, isTask⟩ :=
        still.tasks entry (takes.perm.mem_iff.mpr List.mem_cons_self)
      obtain ⟨arrivals, news, lands⟩ :=
        lands_runTask { before with agenda := rest } still.unwired
          still.unwatched entry.ticket task
      rw [isTask]
      exact ⟨arrivals, news, lands.subsides orderly takes isTask⟩
  | slept time =>
      exact ⟨[], [], .of_entries (.of_eq rfl rfl rfl rfl)
        fun entry member => Or.inl
          ((Agenda.entries_moveTo before.agenda time).mem_iff.mp
            member)⟩
  | wired wiring =>
      cases unwired
  | rewired change =>
      exact ⟨[], [], .of_entries (.of_eq rfl rfl rfl rfl)
        fun _ => Or.inl⟩
  | destroyed =>
      refine ⟨[], [], .of_entries (.of_eq rfl rfl rfl rfl) ?_⟩
      intro entry member
      obtain ⟨job, wasThere, same | wakes⟩ := mem_entries_destroy member
      · rw [same] at wasThere
        exact Or.inl wasThere
      · exact Or.inr (isIdle_of_woken? wakes)
  | connected network =>
      exact ⟨[], [], .of_entries (.of_eq rfl rfl rfl rfl)
        fun _ => Or.inl⟩

/-- A session that subsides stays still. -/
theorem IsStill.of_subsides
    {before after : Session}
    {arrivals : List Arrival}
    {news : List Occurrence}
    (still : IsStill before)
    (subsides : Subsides before after arrivals news)
    (unwired : after.wiring = none) :
    IsStill after where
  unwired :=
    unwired
  unwatched :=
    subsides.registered.trans still.unwatched
  tasks entry member := by
    rcases subsides.entries entry member with ⟨wasThere, _⟩ | idle
    · exact still.tasks entry wasThere
    · obtain ⟨task, isTask, _⟩ := idle
      exact ⟨task, isTask⟩

/-- A still session subsides however long it runs. -/
theorem Drifts.subsides
    {first last : Session}
    (drifts : Drifts first last)
    (orderly : IsOrderly first)
    (still : IsStill first) :
    IsOrderly last ∧ IsStill last ∧
      ∃ arrivals news, Subsides first last arrivals news := by
  induction drifts with
  | rest =>
      exact ⟨orderly, still, [], [], .refl first⟩
  | step _ moves unwired inductionHypothesis =>
      obtain ⟨beforeOrderly, beforeStill, arrivals, news, earlier⟩ :=
        inductionHypothesis
      obtain ⟨laterArrivals, laterNews, later⟩ :=
        moves.subsides beforeOrderly beforeStill unwired
      exact ⟨moves.isOrderly beforeOrderly,
        beforeStill.of_subsides later unwired, _, _,
        earlier.trans later⟩

/-- A session that has been stopped is still. -/
theorem isStill_shutdown
    {session : Session}
    (tracked : IsTracked session) :
    IsStill session.shutdown where
  unwired :=
    rfl
  unwatched :=
    rfl
  tasks entry member := by
    rw [shutdown_eq, Agenda.entries_filter, List.mem_filter] at member
    rcases Agenda.mem_entries_rouse member.1 with
        isOld | ⟨job, _, wakes⟩
    · -- Both tables have cancelled all of their timers.
      have noToast : isTimerFor true entry.job = false :=
        (Happens.isTracked_unwatched tracked).toast.not_isKind_of_cancelled
          isOld
      have noWatcher : isTimerFor false entry.job = false :=
        tracked.watchers.not_isKind_of_cancelled
          (Agenda.mem_entries_abortAll isOld)
      cases isJob : entry.job with
      | task task =>
          exact ⟨task, rfl⟩
      | timer timer =>
          rw [isJob] at noToast noWatcher
          cases work : timer.work <;>
            simp [isTimerFor, work] at noToast noWatcher
    · obtain ⟨_, _, _, _, _, same⟩ := exists_of_woken? wakes
      exact ⟨_, same⟩

/-- What is in flight after the shutdown was in flight before, from outside. -/
theorem isInFlight_of_shutdown
    {session : Session}
    {arrival : Arrival}
    {task : Task}
    (member :
      ⟨arrival.ticket, .task task⟩ ∈ session.shutdown.agenda.entries)
    (awaits : task.Awaits arrival.url arrival.path) :
    IsInFlight session arrival := by
  obtain ⟨fromOutside, job, wasThere, same⟩ :=
    mem_entries_shutdown member
  have notWoken : job = .task task := by
    refine same.resolve_right ?_
    intro wakes
    obtain ⟨_, isTask, idle⟩ := isIdle_of_woken? wakes
    cases isTask
    exact idle _ _ awaits
  rw [notWoken] at wasThere
  exact ⟨task, Agenda.mem_entries_abortAll wasThere,
    by simpa [isCascade] using fromOutside, awaits⟩

/--
A session that has been stopped is inert, in whichever order the work that
was under way goes on, and however much time passes.  The pages stay as they
are, nothing is shown, no watcher fires, no listener is told, and no action
is carried out.  The state and the responses stay as they are too, except
that the response to a request from outside that was in flight at the
shutdown may still come, once: it is kept, and written where the request says.
-/
theorem drifts_shutdown
    {app : AppDocument}
    {settings : Settings}
    {session last : Session}
    (lived : Lived app settings session)
    (drifts : Drifts session.shutdown last) :
    ∃ (arrivals : List Arrival) (news : List Occurrence),
      last.pages = session.pages.destroy ∧
      last.journal = session.journal ++ news ∧
      (∀ occurrence ∈ news, isBelated occurrence = true) ∧
      last.store = arrivals.foldl Arrival.land session.store ∧
      news.filterMap response? = arrivals.map Arrival.report ∧
      (arrivals.map Arrival.ticket).Nodup ∧
      ∀ arrival ∈ arrivals, IsInFlight session arrival := by
  have orderly := Happens.isOrderly_shutdown lived.isOrderly
  obtain ⟨_, _, arrivals, news, subsides⟩ :=
    drifts.subsides orderly (isStill_shutdown lived.isTracked)
  refine ⟨arrivals, news, subsides.pages, subsides.journal,
    subsides.belated, subsides.store, subsides.reports,
    subsides.distinct, ?_⟩
  intro arrival member
  obtain ⟨task, isThere, awaits⟩ := subsides.awaited arrival member
  exact isInFlight_of_shutdown isThere awaits

/-! ## A late response -/

/-- Run the next job, if there is one. -/
def proceed
    (session : Session) :
    Session :=
  session.step?.getD session

/-- The next job is the first of the ready ones. -/
theorem proceed_eq
    {session : Session}
    {entry : Ticketed Job}
    {later : List (Ticketed Job)}
    (isNext : session.agenda.ready = entry :: later) :
    session.proceed =
      { session with
        agenda := { session.agenda with ready := later } }.runJob
          entry.ticket entry.job := by
  simp [Session.proceed, step?, Agenda.next?, isNext]

theorem moves_proceed
    {session : Session}
    {entry : Ticketed Job}
    {later : List (Ticketed Job)}
    (isNext : session.agenda.ready = entry :: later) :
    Moves session (some entry.ticket) session.proceed := by
  rw [proceed_eq isNext]
  exact .ran ⟨[], later, isNext, rfl⟩

theorem Lived.proceed
    {app : AppDocument}
    {settings : Settings}
    {session : Session}
    (lived : Lived app settings session) :
    Lived app settings session.proceed := by
  unfold Session.proceed
  cases stepped : session.step? with
  | none =>
      exact lived
  | some next =>
      obtain ⟨_, moves⟩ := exists_moves_of_step? stepped
      exact .happened lived (.moved moves)

theorem Drifts.proceed
    {first session : Session}
    (drifts : Drifts first session)
    (unwired : session.proceed.wiring = none) :
    Drifts first session.proceed := by
  unfold Session.proceed at unwired ⊢
  cases stepped : session.step? with
  | none =>
      exact drifts
  | some next =>
      rw [stepped] at unwired
      obtain ⟨_, moves⟩ := exists_moves_of_step? stepped
      exact .step drifts moves unwired

/-- A request whose response is to be written into the state. -/
def lateRequest : Action where
  kind :=
    .request "/api/list" "GET" none [] none (some "/late")
  params :=
    []
  onError :=
    none

/-- A session whose network has yet to answer a request from outside. -/
def waitingSession : Session :=
  ((boot {} {}).launch .dispatched (.start lateRequest 0)).1.proceed

/-- That session, stopped, at a later time. -/
def stoppedSession
    (time : Nat) :
    Session :=
  { waitingSession.shutdown with
    agenda := waitingSession.shutdown.agenda.moveTo time }

/-- A response that comes after the shutdown is kept and written. -/
theorem drifts_shutdown_lateRequest :
    let last := (stoppedSession 500).proceed
    ∃ arrival,
      Drifts waitingSession.shutdown last ∧
        IsInFlight waitingSession arrival ∧
        last.pages = waitingSession.pages.destroy ∧
        last.store = arrival.land waitingSession.store := by
  intro last
  have lived : Lived {} {} waitingSession :=
    (Lived.happened .booted (.launched .dispatched _)).proceed
  have unwired : last.wiring = none := by
    decide +kernel
  have drifts : Drifts waitingSession.shutdown last :=
    (Drifts.step .rest (.slept 500) rfl).proceed unwired
  obtain ⟨arrivals, news, pages, journal, _, store, reports, _,
    inFlight⟩ := drifts_shutdown lived drifts
  have before :
      waitingSession.journal.filterMap response? = [] := by
    rw [← List.length_eq_zero_iff]
    decide +kernel
  have after : (last.journal.filterMap response?).length = 1 := by
    decide +kernel
  rw [journal, List.filterMap_append, before, reports] at after
  obtain ⟨arrival, rfl⟩ :=
    List.length_eq_one_iff.mp (by simpa using after)
  exact ⟨arrival, drifts, inFlight arrival (by simp), pages, store⟩

/-- A session that has been stopped need not keep its state. -/
theorem advance_shutdown_lateRequest :
    let stopped := waitingSession.shutdown
    let later := stopped.advance 500
    stopped.isWired = false ∧
      (stopped.store.response? "/api/list").isSome = false ∧
      (stopped.store.get? "/late").isSome = false ∧
      (later.store.response? "/api/list").isSome = true ∧
      (later.store.get? "/late").isSome = true := by
  decide +kernel

end Session

end Mockup
