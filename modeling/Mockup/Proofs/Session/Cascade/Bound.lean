import Mockup.Proofs.Session.Cascade.Trail
import Mockup.Proofs.Session.Load

namespace Mockup

namespace Session

/-!
# The bound on a cascade

A cascade keeps an account: what its jobs have carried out, and what they may
yet carry out, stays within the bound that the call began with.  So every
note on the trail of a call is lawful, no action lies deeper than the limit,
and there are no more actions than a tree has nodes in which every action
leads to one further action and to one for every watcher.
-/

/-! ## The account of a cascade -/

/-- The jobs of a session that have been started on a trail. -/
def pending
    (session : Session)
    (trail : List Deed) :
    List (Ticketed Job) :=
  session.agenda.entries.filter fun entry =>
    entry.ticket ∈ descendants trail

/--
The account of a cascade: its jobs are warranted, its deeds are lawful, and
what it has carried out and may yet carry out stays within the bound.
-/
structure IsAccounted
    (watchers limit : Nat)
    (call : Call)
    (session : Session)
    (trail : List Deed) :
    Prop where
  orderly :
    IsOrderly session
  cascadeLimit :
    session.settings.cascadeLimit = limit
  given :
    ∀ ticket ∈ descendants trail, ticket < session.agenda.nextTicket
  unbegun :
    ∀ ticket, session.agenda.nextTicket ≤ ticket →
      carriedOut trail ticket = []
  warranted :
    ∀ entry ∈ pending session trail,
      IsWarranted call limit trail entry.ticket entry.job
  lawful :
    ∀ earlier deed later,
      trail = earlier ++ deed :: later →
      ∀ occurrence ∈ deed.news,
        IsLawful call limit earlier deed occurrence
  paid :
    performances (chronicle trail) +
        load watchers limit (pending session trail) + call.roots ≤
      forest watchers (limit + 1)

theorem mem_pending
    {session : Session}
    {trail : List Deed}
    {entry : Ticketed Job} :
    entry ∈ pending session trail ↔
      entry ∈ session.agenda.entries ∧
        entry.ticket ∈ descendants trail := by
  simp [pending]

theorem nodup_pending
    {session : Session}
    (orderly : IsOrderly session)
    (trail : List Deed) :
    ((pending session trail).map Ticketed.ticket).Nodup :=
  (List.filter_sublist.map Ticketed.ticket).nodup
    orderly.agenda.distinct

/-- A job that is woken before its time does not weigh more. -/
theorem weight_le_of_left
    (watchers limit : Nat)
    {job left : Job}
    (same : job = left ∨ woken? job = some left) :
    weight watchers limit left ≤ weight watchers limit job := by
  rcases same with rfl | wakes
  · exact Nat.le_refl _
  · obtain ⟨_, _, _, _, _, rfl⟩ := exists_of_woken? wakes
    exact Nat.zero_le _

/-- What does not belong to a cascade leaves its account in order. -/
theorem IsAccounted.other
    {watchers limit : Nat}
    {call : Call}
    {current next : Session}
    {trail : List Deed}
    {mover : Option Nat}
    (accounted : IsAccounted watchers limit call current trail)
    (happens : Happens current mover next)
    (foreign : ∀ ticket ∈ descendants trail, mover ≠ some ticket) :
    IsAccounted watchers limit call next trail := by
  have orderly := happens.isOrderly accounted.orderly
  have left :
      ∀ entry ∈ pending next trail,
        ∃ job,
          ⟨entry.ticket, job⟩ ∈ pending current trail ∧
            (job = entry.job ∨ woken? job = some entry.job) := by
    intro entry member
    obtain ⟨isThere, isOurs⟩ := mem_pending.mp member
    obtain ⟨job, wasThere, same⟩ :=
      happens.left (accounted.given _ isOurs) (foreign _ isOurs) isThere
    exact ⟨job, mem_pending.mpr ⟨wasThere, isOurs⟩, same⟩
  refine ⟨orderly, ?_, ?_, ?_, ?_, accounted.lawful, ?_⟩
  · rw [happens.settings_eq]
    exact accounted.cascadeLimit
  · intro ticket isOurs
    exact Nat.lt_of_lt_of_le (accounted.given ticket isOurs)
      happens.nextTicket_le
  · intro ticket isNew
    exact accounted.unbegun ticket
      (Nat.le_trans happens.nextTicket_le isNew)
  · intro entry member
    obtain ⟨job, wasOurs, same⟩ := left entry member
    exact (accounted.warranted _ wasOurs).left same
  · have lighter :
        load watchers limit (pending next trail) ≤
          load watchers limit (pending current trail) := by
      refine load_le_of_matched watchers limit
        (nodup_pending orderly trail) ?_
      intro entry member
      obtain ⟨job, wasOurs, same⟩ := left entry member
      exact ⟨_, wasOurs, rfl, weight_le_of_left watchers limit same⟩
    have paid := accounted.paid
    omega

/-- A deed is told by the tickets that were given and the notes made. -/
theorem Deed.between_eq
    {before after : Session}
    {count : Nat}
    {news : List Occurrence}
    (doer : Option Nat)
    (nextTicket :
      after.agenda.nextTicket = before.agenda.nextTicket + count)
    (journal : after.journal = before.journal ++ news) :
    Deed.between doer before after =
      ⟨doer, before.functions,
        List.range' before.agenda.nextTicket count, news⟩ := by
  simp [Deed.between, nextTicket, journal]

/-- What becomes of the jobs of a cascade when one of them has run. -/
theorem pending_yields
    {current rest next : Session}
    {trail : List Deed}
    {deed : Deed}
    {entry : Ticketed Job}
    {own : Option Job}
    {jobs : List Job}
    {news : List Occurrence}
    (orderly : IsOrderly current)
    (takes : current.agenda.Takes entry rest.agenda)
    (yields : Yields entry.ticket rest next own jobs news)
    (tickets :
      deed.tickets =
        List.range' current.agenda.nextTicket jobs.length)
    {left : Ticketed Job}
    (member : left ∈ pending next (trail ++ [deed])) :
    (left ∈ rest.agenda.entries ∧
        left.ticket ∈ descendants trail ∧
        left.ticket ≠ entry.ticket) ∨
      (left.ticket = entry.ticket ∧ own = some left.job) ∨
      left ∈ numbered current.agenda.nextTicket jobs := by
  obtain ⟨isThere, isOurs⟩ := mem_pending.mp member
  rw [← takes.nextTicket_eq]
  refine (yields.entries left isThere).imp_left ?_
  intro wasThere
  -- A job that was there has an old ticket, which this deed cannot give.
  have given : left.ticket < current.agenda.nextTicket :=
    orderly.agenda.given left
      (takes.perm.mem_iff.mpr (List.mem_cons_of_mem _ wasThere))
  have lacks := (orderly.agenda.taken takes).2
  rw [descendants_append, tickets, List.mem_append,
    List.mem_range'_1] at isOurs
  refine ⟨wasThere, ?_, lacks.absent left wasThere⟩
  rcases isOurs with isOld | isNew
  · exact isOld
  · omega

/-- The load of a cascade changes by what becomes of the job that has run. -/
theorem load_pending_yields
    (watchers limit : Nat)
    {current rest next : Session}
    {trail : List Deed}
    {deed : Deed}
    {entry : Ticketed Job}
    {own : Option Job}
    {jobs : List Job}
    {news : List Occurrence}
    (orderly : IsOrderly current)
    (takes : current.agenda.Takes entry rest.agenda)
    (isOurs : entry.ticket ∈ descendants trail)
    (yields : Yields entry.ticket rest next own jobs news)
    (tickets :
      deed.tickets =
        List.range' current.agenda.nextTicket jobs.length)
    (nextOrderly : IsOrderly next) :
    load watchers limit (pending next (trail ++ [deed])) +
        weight watchers limit entry.job ≤
      load watchers limit (pending current trail) +
        (weightOf? watchers limit own +
          (jobs.map (weight watchers limit)).sum) := by
  let back : List (Ticketed Job) :=
    own.toList.map (Ticketed.mk entry.ticket)
  let others :=
    pending rest trail ++
      (back ++ numbered current.agenda.nextTicket jobs)
  have lighter :
      load watchers limit (pending next (trail ++ [deed])) ≤
        load watchers limit others := by
    refine load_le_of_matched watchers limit
      (nodup_pending nextOrderly _) ?_
    intro left member
    refine ⟨left, ?_, rfl, Nat.le_refl _⟩
    simp only [others, back, List.mem_append]
    rcases pending_yields orderly takes yields tickets member with
        ⟨wasThere, wasOurs, _⟩ | ⟨isOwn, isBack⟩ | isNew
    · exact Or.inl (mem_pending.mpr ⟨wasThere, wasOurs⟩)
    · refine Or.inr (Or.inl ?_)
      rw [isBack, ← isOwn]
      exact List.mem_singleton_self _
    · exact Or.inr (Or.inr isNew)
  have backWeight :
      load watchers limit back = weightOf? watchers limit own := by
    cases own <;> simp [back, load, weightOf?]
  have taken :
      load watchers limit (pending current trail) =
        weight watchers limit entry.job +
          load watchers limit (pending rest trail) := by
    have perm :
        (pending current trail).Perm (entry :: pending rest trail) := by
      have filtered := takes.perm.filter fun other =>
        other.ticket ∈ descendants trail
      rwa [List.filter_cons_of_pos (by simpa using isOurs)] at filtered
    exact load_perm watchers limit perm
  rw [load_append, load_append, backWeight, load_numbered] at lighter
  omega

/-- The account of a cascade goes on by the deed of a job of its own. -/
theorem IsAccounted.append
    {watchers limit : Nat}
    {call : Call}
    {current rest next : Session}
    {trail : List Deed}
    {deed : Deed}
    {entry : Ticketed Job}
    {own : Option Job}
    {jobs : List Job}
    (accounted : IsAccounted watchers limit call current trail)
    (orderly : IsOrderly next)
    (settings : next.settings = current.settings)
    (takes : current.agenda.Takes entry rest.agenda)
    (isOurs : entry.ticket ∈ descendants trail)
    (fewer : rest.watch.size ≤ watchers)
    (yields : Yields entry.ticket rest next own jobs deed.news)
    (works :
      Works deed.functions limit rest.watch.size entry.ticket entry.job
        own jobs deed.news)
    (doer : deed.doer = some entry.ticket)
    (tickets :
      deed.tickets =
        List.range' current.agenda.nextTicket jobs.length) :
    IsAccounted watchers limit call next (trail ++ [deed]) := by
  have nextTicket :
      next.agenda.nextTicket =
        current.agenda.nextTicket + jobs.length := by
    rw [yields.nextTicket, ← takes.nextTicket_eq]
  have wasOurs : entry ∈ pending current trail :=
    mem_pending.mpr
      ⟨takes.perm.mem_iff.mpr List.mem_cons_self, isOurs⟩
  have given := accounted.given entry.ticket isOurs
  -- Only the job that runs has begun an action.
  have quiet :
      ∀ other, other ≠ entry.ticket →
        ∀ action depth, .performed other action depth ∉ deed.news :=
    fun other different _ _ performed =>
      different (works.performer_eq performed)
  have unbegun :
      ∀ other, current.agenda.nextTicket ≤ other →
        carriedOut (trail ++ [deed]) other = [] := by
    intro other isNew
    rw [carriedOut_append_of_not_mem (quiet other (by omega))]
    exact accounted.unbegun other isNew
  have isStarted :
      ∀ ticket, ticket ∈ deed.tickets ↔
        current.agenda.nextTicket ≤ ticket ∧
          ticket < next.agenda.nextTicket := by
    intro ticket
    rw [tickets, List.mem_range'_1, nextTicket]
  have justified :=
    works.justifies (accounted.warranted entry wasOurs) doer
      fun other started => unbegun other ((isStarted other).mp started).1
  refine ⟨orderly, settings ▸ accounted.cascadeLimit, ?_, ?_, ?_,
    forall_concat trail accounted.lawful justified.lawful, ?_⟩
  · intro ticket isOurs
    rw [descendants_append, List.mem_append] at isOurs
    rcases isOurs with isOld | isNew
    · have older := accounted.given ticket isOld
      omega
    · exact ((isStarted ticket).mp isNew).2
  · intro other isNew
    exact unbegun other (by omega)
  · intro left member
    rcases pending_yields accounted.orderly takes yields tickets member
        with ⟨wasThere, wasOurs, different⟩ | ⟨isOwn, back⟩ | isNew
    · have waited : left ∈ pending current trail :=
        mem_pending.mpr
          ⟨takes.perm.mem_iff.mpr (List.mem_cons_of_mem _ wasThere),
            wasOurs⟩
      exact (accounted.warranted left waited).append
        (quiet left.ticket different)
    · rw [isOwn]
      exact justified.back left.job back
    · obtain ⟨lower, upper, isJob⟩ := ticket_of_mem_numbered isNew
      exact justified.started left.ticket
        ((isStarted _).mpr ⟨lower, nextTicket ▸ upper⟩) left.job isJob
  · have pays := works.pays fewer
    have loads :=
      load_pending_yields watchers limit accounted.orderly takes isOurs
        yields tickets orderly
    have paid := accounted.paid
    have counted :
        performances (chronicle (trail ++ [deed])) =
          performances (chronicle trail) + performances deed.news := by
      simp [chronicle, performances]
    rw [counted]
    omega

/-- A job of a cascade that runs keeps the account in order. -/
theorem IsAccounted.own
    {watchers limit : Nat}
    {call : Call}
    {current next : Session}
    {trail : List Deed}
    {ticket : Nat}
    (accounted : IsAccounted watchers limit call current trail)
    (happens : Happens current (some ticket) next)
    (isOurs : ticket ∈ descendants trail)
    (le : current.watcherCount ≤ watchers) :
    IsAccounted watchers limit call next
      (trail ++ [.between (some ticket) current next]) := by
  have orderly := happens.isOrderly accounted.orderly
  have settings := happens.settings_eq
  obtain ⟨entry, rest, takes, rfl, rfl⟩ := happens.exists_takes
  let base : Session := { current with agenda := rest }
  obtain ⟨own, jobs, news, yields, works⟩ :=
    works_runJob base entry.ticket entry.job
  have limited : base.settings.cascadeLimit = limit :=
    accounted.cascadeLimit
  rw [limited] at works
  have fewer : base.watch.size ≤ watchers := by
    rw [watcherCount_eq] at le
    exact le
  have nextTicket :
      (base.runJob entry.ticket entry.job).agenda.nextTicket =
        current.agenda.nextTicket + jobs.length := by
    rw [yields.nextTicket, ← takes.nextTicket_eq]
  rw [Deed.between_eq _ nextTicket yields.journal]
  exact accounted.append orderly settings takes isOurs fewer yields works
    rfl rfl

/-! ## Calls -/

/-- The account of a cascade begins with the jobs that its call starts. -/
theorem isAccounted_first
    {watchers : Nat}
    {call : Call}
    {before after : Session}
    {deed : Deed}
    {jobs : List Job}
    (orderly : IsOrderly before)
    (afterOrderly : IsOrderly after)
    (adds : Adds before after jobs deed.news)
    (tickets :
      deed.tickets =
        List.range' before.agenda.nextTicket jobs.length)
    (unbegun : ∀ ticket, carriedOut [deed] ticket = [])
    (warranted :
      ∀ ticket ∈ deed.tickets, ∀ job ∈ jobs,
        IsWarranted call before.settings.cascadeLimit [deed] ticket job)
    (lawful :
      ∀ occurrence ∈ deed.news,
        IsLawful call before.settings.cascadeLimit [] deed occurrence)
    (paid :
      performances deed.news +
          (jobs.map (weight watchers before.settings.cascadeLimit)).sum +
          call.roots ≤
        forest watchers (before.settings.cascadeLimit + 1)) :
    IsAccounted watchers before.settings.cascadeLimit call after
      [deed] := by
  have first :
      descendants [deed] =
        List.range' before.agenda.nextTicket jobs.length := by
    simp [descendants, tickets]
  have started :
      ∀ entry ∈ pending after [deed],
        entry ∈ numbered before.agenda.nextTicket jobs := by
    intro entry member
    obtain ⟨isThere, isOurs⟩ := mem_pending.mp member
    refine (adds.entries entry isThere).resolve_left ?_
    intro isOld
    have given := orderly.agenda.given entry isOld
    rw [first, List.mem_range'_1] at isOurs
    omega
  have lighter :
      load watchers before.settings.cascadeLimit (pending after [deed]) ≤
        (jobs.map (weight watchers before.settings.cascadeLimit)).sum := by
    rw [← load_numbered _ _ before.agenda.nextTicket jobs]
    refine load_le_of_matched _ _ (nodup_pending afterOrderly _) ?_
    intro entry member
    exact ⟨entry, started entry member, rfl, Nat.le_refl _⟩
  refine ⟨afterOrderly, by rw [adds.settings], ?_,
    fun ticket _ => unbegun ticket, ?_,
    forall_concat [] (by simp) lawful, ?_⟩
  · intro ticket isOurs
    rw [first, List.mem_range'_1] at isOurs
    rw [adds.nextTicket]
    exact isOurs.2
  · intro entry member
    obtain ⟨lower, upper, isJob⟩ :=
      ticket_of_mem_numbered (started entry member)
    refine warranted entry.ticket ?_ entry.job isJob
    rw [tickets]
    exact List.mem_range'_1.mpr ⟨lower, upper⟩
  · have noted : chronicle [deed] = deed.news := by
      simp [chronicle]
    rw [noted]
    omega

/-- A dispatch starts the one task of its cascade. -/
theorem isAccounted_dispatch
    {before : Session}
    (orderly : IsOrderly before)
    (watchers : Nat)
    (action : Action) :
    let call : Call := .dispatch action
    IsAccounted watchers before.settings.cascadeLimit call
      (call.made before) [.between none before (call.made before)] := by
  intro call
  let job : Job := .task ⟨.dispatched, .start action 0, none⟩
  have adds : Adds before (call.made before) [job] [] :=
    .spawn before ⟨.dispatched, .start action 0, none⟩
  rw [Deed.between_eq none adds.nextTicket adds.journal]
  refine isAccounted_first orderly (orderly.launch _ _) adds rfl
    (fun _ => rfl) ?_ (by simp) ?_
  · intro ticket started other isJob
    cases List.mem_singleton.mp isJob
    exact .due (.called (List.mem_singleton_self _) rfl started rfl)
  · have root : call.roots = 0 :=
      rfl
    simp [performances, job, weight, root]

/-- A write from outside starts one task or timer for a watcher at most. -/
theorem isAccounted_write
    {before : Session}
    (orderly : IsOrderly before)
    {watchers : Nat}
    (le : before.watcherCount ≤ watchers)
    (path : String)
    (value : Value) :
    let call : Call := .write path value
    IsAccounted watchers before.settings.cascadeLimit call
      (call.made before) [.between none before (call.made before)] := by
  intro call
  obtain ⟨jobs, news, adds, owed⟩ := acts_setState before path value
  change Adds before (call.made before) jobs news at adds
  rw [Deed.between_eq none adds.nextTicket adds.journal]
  let deed : Deed :=
    ⟨none, before.functions,
      List.range' before.agenda.nextTicket jobs.length, news⟩
  have unbegun : ∀ ticket, carriedOut ([] ++ [deed]) ticket = [] := by
    intro ticket
    refine carriedOut_append_of_not_mem ?_
    intro action depth member
    have minor := (owed.minor _ member).performed?_eq_none ticket
    simp [performed?] at minor
  have written : IsWrittenAt ([] ++ [deed]) 0 deed.doer :=
    rfl
  refine isAccounted_first orderly
    (orderly.grow (grows_setState before path value)) adds rfl unbegun
    ?_ ?_ ?_
  · intro ticket started job isJob
    exact owed.isWarranted (Nat.zero_le _) (List.Subset.refl news) isJob
      started (unbegun ticket)
  · exact fun occurrence =>
      owed.isLawful (Nat.zero_le _) (List.Subset.refl news) written
  · have owes :=
      sum_weight_le watchers before.settings.cascadeLimit owed
    have fewer :
        1 * before.watch.size *
            forest watchers (before.settings.cascadeLimit - 0) ≤
          watchers *
            forest watchers before.settings.cascadeLimit := by
      rw [Nat.one_mul, ← watcherCount_eq]
      exact Nat.mul_le_mul_right _ le
    have root : call.roots = 1 :=
      rfl
    rw [performances_of_allOwed owed, root, forest_succ, Nat.add_mul]
    omega

/-! ## The bound -/

/-- Whatever happens, the account of a cascade stays in order. -/
theorem Unfolds.isAccounted
    {watchers : Nat}
    {call : Call}
    {before session : Session}
    {trail : List Deed}
    (orderly : IsOrderly before)
    (unfolds : Unfolds watchers call before session trail) :
    IsAccounted watchers before.settings.cascadeLimit call session
      trail := by
  induction unfolds with
  | called le =>
      cases call with
      | dispatch action =>
          exact isAccounted_dispatch orderly watchers action
      | write path value =>
          exact isAccounted_write orderly le path value
  | own _ happens isOurs le inductionHypothesis =>
      exact inductionHypothesis.own happens isOurs le
  | other _ happens foreign inductionHypothesis =>
      exact inductionHypothesis.other happens foreign

/-- How deep in a cascade lies what a note tells of. -/
def level? : Occurrence → Option Nat
  | .performed _ _ depth =>
      some depth
  | .notified _ context =>
      some context.depth
  | .fired firing =>
      some firing.context.depth
  | _ =>
      none

theorem IsLawful.level_le
    {call : Call}
    {limit : Nat}
    {earlier : List Deed}
    {deed : Deed}
    {occurrence : Occurrence}
    (lawful : IsLawful call limit earlier deed occurrence)
    {level : Nat}
    (isLevel : level? occurrence = some level) :
    level ≤ limit := by
  cases lawful with
  | performed _ within _ =>
      cases isLevel
      exact within
  | notified within _ =>
      cases isLevel
      exact within
  | fired within _ =>
      cases isLevel
      exact within
  | aside isAside =>
      cases occurrence <;> simp_all [level?, Session.isAside]

/--
The cascade of a call is bounded, in whichever order its jobs run and whatever
else happens.  An action is carried out within the limit only; a follow-up is
one level deeper than the action it follows, and an action that a watcher
starts one level deeper than the write it answers.  The next level never
overflows 32 bits.  And there are no more actions than on the levels of a
tree whose nodes each have one child for every watcher, and one more.
-/
theorem unfolds_isBounded
    {app : AppDocument}
    {settings : Settings}
    {watchers : Nat}
    {call : Call}
    {before session : Session}
    {trail : List Deed}
    (lived : Lived app settings before)
    (fits : settings.cascadeLimit + 1 < 2 ^ 32)
    (unfolds : Unfolds watchers call before session trail) :
    (∀ earlier deed later,
      trail = earlier ++ deed :: later →
      ∀ occurrence ∈ deed.news,
        IsLawful call settings.cascadeLimit earlier deed occurrence) ∧
    (∀ occurrence ∈ chronicle trail,
      ∀ level, level? occurrence = some level →
        level ≤ settings.cascadeLimit ∧ level + 1 < 2 ^ 32) ∧
    performances (chronicle trail) + call.roots ≤
      ∑ level ∈ Finset.range (settings.cascadeLimit + 1),
        (watchers + 1) ^ level := by
  have accounted := unfolds.isAccounted lived.isOrderly
  rw [lived.settings_eq] at accounted
  refine ⟨accounted.lawful, ?_, ?_⟩
  · intro occurrence member level isLevel
    obtain ⟨deed, isDeed, isNews⟩ := List.mem_flatMap.mp member
    obtain ⟨earlier, later, split⟩ := List.append_of_mem isDeed
    have within :=
      (accounted.lawful earlier deed later split occurrence
        isNews).level_le isLevel
    exact ⟨within, by omega⟩
  · have paid := accounted.paid
    have bound :
        forest watchers (settings.cascadeLimit + 1) =
          ∑ level ∈ Finset.range (settings.cascadeLimit + 1),
            (watchers + 1) ^ level :=
      rfl
    omega

/-! ## A cascade that is let run -/

/-- Let only the next job run, while it belongs to the cascade. -/
def follow : Nat → Session × List Deed → Session × List Deed
  | 0, reached =>
      reached
  | fuel + 1, (current, trail) =>
      match current.agenda.next? with
      | none =>
          (current, trail)
      | some (entry, rest) =>
          if entry.ticket ∈ descendants trail then
            let next :=
              { current with agenda := rest }.runJob entry.ticket
                entry.job
            follow fuel
              (next,
                trail ++ [.between (some entry.ticket) current next])
          else
            (current, trail)

theorem watcherCount_runJob
    (session : Session)
    (ticket : Nat)
    (job : Job) :
    (session.runJob ticket job).watcherCount = session.watcherCount := by
  obtain ⟨_, _, _, yields, _⟩ := works_runJob session ticket job
  rw [watcherCount, Watch.info, yields.watch.registered]
  rfl

/-- A cascade that is let run unfolds. -/
theorem Unfolds.follow
    {watchers : Nat}
    {call : Call}
    {before : Session}
    (fuel : Nat)
    {reached : Session × List Deed}
    (le : reached.1.watcherCount ≤ watchers)
    (unfolds : Unfolds watchers call before reached.1 reached.2) :
    Unfolds watchers call before
      (Session.follow fuel reached).1 (Session.follow fuel reached).2 := by
  induction fuel generalizing reached with
  | zero =>
      exact unfolds
  | succ fuel inductionHypothesis =>
      obtain ⟨current, trail⟩ := reached
      unfold Session.follow
      split
      · exact unfolds
      · rename_i entry rest isNext
        split
        · rename_i isOurs
          have happens :=
            Happens.moved (.ran (Agenda.takes_of_next? isNext))
          refine inductionHypothesis ?_ (.own unfolds happens isOurs le)
          rw [watcherCount_runJob]
          exact le
        · exact unfolds

/-- A watcher of a place whose action writes to that very place. -/
def restless : WatchConfig where
  action :=
    .map
      [("type", .string "updateState"), ("statePath", .string "/n"),
        ("stateValue", .bool true)]

/-- A session in which one watcher triggers itself, up to depth two. -/
def restlessSession : Session :=
  (boot {} { cascadeLimit := 2 }).addWatcher "/n" restless 0

/-- A write that a watcher answers again and again comes to an end. -/
theorem unfolds_isBounded_restless :
    let call : Call := .write "/n" (.bool false)
    let start :=
      (call.made restlessSession,
        [Deed.between none restlessSession (call.made restlessSession)])
    let reached := follow 9 start
    Unfolds 1 call restlessSession reached.1 reached.2 ∧
      reached.1.agenda.entries.length = 0 ∧
      performances (chronicle reached.2) = 2 ∧
      performances (chronicle reached.2) + call.roots ≤ 7 := by
  intro call start reached
  have lived : Lived {} { cascadeLimit := 2 } restlessSession :=
    .happened .booted (.watched "/n" restless 0)
  have registered : restlessSession.watcherCount ≤ 1 := by
    decide +kernel
  have stillRegistered : start.1.watcherCount ≤ 1 := by
    decide +kernel
  have unfolds : Unfolds 1 call restlessSession reached.1 reached.2 :=
    .follow 9 stillRegistered (.called registered)
  have rests : reached.1.agenda.entries.length = 0 := by
    decide +kernel
  have twice : performances (chronicle reached.2) = 2 := by
    decide +kernel
  obtain ⟨_, _, bounded⟩ :=
    unfolds_isBounded lived (by decide) unfolds
  refine ⟨unfolds, rests, twice, ?_⟩
  simpa [Finset.sum_range_succ] using bounded

end Session

end Mockup
