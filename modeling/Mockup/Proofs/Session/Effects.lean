import Mockup.Proofs.Agenda
import Mockup.Session.Control

namespace Mockup

/-!
# What effects leave alone

The journal of a session is read in three ways: what was shown to the user,
how a task ended, and which responses it was given.  Effects may show
something, but they never report on a task, and jobs come to the agenda with
new tickets only.
-/

namespace Occurrence

/-- What was shown to the user, if anything. -/
def shown? : Occurrence → Option Presentation
  | .presented _ shown =>
      some shown
  | _ =>
      none

/-- The response that the task with a ticket was given, with its URL. -/
def answer?
    (ticket : Nat) : Occurrence → Option (String × Value)
  | .responded given url response =>
      if given = ticket then some (url, response) else none
  | _ =>
      none

/-- Whether it reports on a task: on its end, or on a response to it. -/
def isReport : Occurrence → Bool
  | .finished _ _ _ _ =>
      true
  | .responded _ _ _ =>
      true
  | _ =>
      false

end Occurrence

namespace Session

/-- What has been shown to the user, in order. -/
def presentations
    (session : Session) :
    List Presentation :=
  session.journal.filterMap Occurrence.shown?

/-- The responses that the task with a ticket was given, in order. -/
def answers
    (session : Session)
    (ticket : Nat) :
    List (String × Value) :=
  session.journal.filterMap (Occurrence.answer? ticket)

/-! ## Notes -/

/-- Only a report on a task tells how one ended. -/
theorem outcome?_note_of_not_isReport
    (session : Session)
    {occurrence : Occurrence}
    (noReport : occurrence.isReport = false)
    (ticket : Nat) :
    (session.note occurrence).outcome? ticket =
      session.outcome? ticket := by
  cases occurrence <;>
    simp_all [Session.outcome?, note, List.findSome?_append,
      Occurrence.isReport]

/-- Only a report on a task tells what it was given. -/
theorem answers_note_of_not_isReport
    (session : Session)
    {occurrence : Occurrence}
    (noReport : occurrence.isReport = false)
    (ticket : Nat) :
    (session.note occurrence).answers ticket =
      session.answers ticket := by
  cases occurrence <;>
    simp_all [answers, note, Occurrence.answer?, Occurrence.isReport]

/-- A task that is said to have ended has ended, unless it had before. -/
theorem outcome?_note_finished
    (session : Session)
    (time ticket : Nat)
    (origin : Origin)
    (outcome : Outcome)
    (other : Nat) :
    (session.note (.finished time ticket origin outcome)).outcome? other =
      (session.outcome? other).or
        (if ticket = other then some outcome else none) := by
  simp [Session.outcome?, note, List.findSome?_append]

theorem outcome?_note_responded
    (session : Session)
    (ticket : Nat)
    (url : String)
    (response : Value)
    (other : Nat) :
    (session.note (.responded ticket url response)).outcome? other =
      session.outcome? other := by
  simp [Session.outcome?, note, List.findSome?_append]

/-- A response to a task is the last one that it was given. -/
theorem answers_note_responded
    (session : Session)
    (ticket : Nat)
    (url : String)
    (response : Value)
    (other : Nat) :
    (session.note (.responded ticket url response)).answers other =
      session.answers other ++
        if ticket = other then [(url, response)] else [] := by
  by_cases same : ticket = other <;>
    simp [answers, note, Occurrence.answer?, same]

theorem answers_note_finished
    (session : Session)
    (time ticket : Nat)
    (origin : Origin)
    (outcome : Outcome)
    (other : Nat) :
    (session.note (.finished time ticket origin outcome)).answers other =
      session.answers other := by
  simp [answers, note, Occurrence.answer?]

/-- What shows nothing leaves what has been shown as it is. -/
theorem presentations_note
    (session : Session)
    {occurrence : Occurrence}
    (showsNothing : occurrence.shown? = none) :
    (session.note occurrence).presentations = session.presentations := by
  simp [presentations, note, showsNothing]

/-! ## Sessions that grow -/

/-- Jobs come with new tickets, and nothing is reported on a task. -/
structure Grows
    (before after : Session) :
    Prop where
  agenda :
    before.agenda.Extends after.agenda
  outcomes :
    ∀ ticket, after.outcome? ticket = before.outcome? ticket
  answers :
    ∀ ticket, after.answers ticket = before.answers ticket

namespace Grows

theorem of_extends
    {before after : Session}
    (agenda : before.agenda.Extends after.agenda)
    (journal : after.journal = before.journal) :
    Grows before after where
  agenda :=
    agenda
  outcomes ticket := by
    simp [Session.outcome?, journal]
  answers ticket := by
    simp [Session.answers, journal]

theorem of_eq
    {before after : Session}
    (agenda : after.agenda = before.agenda)
    (journal : after.journal = before.journal) :
    Grows before after :=
  of_extends (agenda ▸ .refl _) journal

theorem refl
    (session : Session) :
    Grows session session :=
  of_eq rfl rfl

theorem trans
    {first second third : Session}
    (earlier : Grows first second)
    (later : Grows second third) :
    Grows first third where
  agenda :=
    earlier.agenda.trans later.agenda
  outcomes ticket :=
    (later.outcomes ticket).trans (earlier.outcomes ticket)
  answers ticket :=
    (later.answers ticket).trans (earlier.answers ticket)

theorem note
    (session : Session)
    {occurrence : Occurrence}
    (noReport : occurrence.isReport = false) :
    Grows session (session.note occurrence) where
  agenda :=
    .refl _
  outcomes :=
    outcome?_note_of_not_isReport session noReport
  answers :=
    answers_note_of_not_isReport session noReport

theorem spawn
    (session : Session)
    (job : Job) :
    Grows session (session.spawn job).1 :=
  of_extends (.spawn session.agenda job) rfl

end Grows

/-! ## Watchers -/

theorem grows_trigger
    (session : Session)
    (firing : Firing) :
    Grows session (session.trigger firing) := by
  have noted : Grows session (session.note (.fired firing)) :=
    .note session rfl
  unfold trigger
  simp only
  split
  · exact noted.trans (.spawn _ _)
  · exact noted

theorem grows_carryOut
    (session : Session)
    (reaction : Watch.Reaction) :
    Grows session (session.carryOut reaction) := by
  cases reaction with
  | fire firing =>
      exact grows_trigger session firing
  | arm delay firing =>
      exact .of_extends (.schedule session.timers session.agenda _ _) rfl

theorem grows_foldl_carryOut
    (session : Session)
    (reactions : List Watch.Reaction) :
    Grows session (reactions.foldl carryOut session) := by
  induction reactions generalizing session with
  | nil =>
      exact .refl session
  | cons reaction reactions inductionHypothesis =>
      exact (grows_carryOut session reaction).trans (inductionHypothesis _)

/-- Showing a change to the watchers makes a session grow. -/
theorem grows_notify
    (session : Session)
    (change : StateChange)
    (context : WatchContext) :
    Grows session (session.notify change context) := by
  let noted := session.note (.notified change context)
  let answer := noted.watch.notify ⟨noted.agenda.now, true⟩ change context
  have isNoted : Grows session noted :=
    .note session rfl
  have remembers : Grows noted { noted with watch := answer.1 } :=
    .of_eq rfl rfl
  exact isNoted.trans
    (remembers.trans (grows_foldl_carryOut _ answer.2))

theorem grows_addWatcher
    (session : Session)
    (path : String)
    (config : WatchConfig)
    (depth : Nat) :
    Grows session (session.addWatcher path config depth) := by
  unfold addWatcher
  simp only
  split
  · rename_i watch firing _
    have remembers : Grows session { session with watch := watch } :=
      .of_eq rfl rfl
    exact remembers.trans (grows_trigger _ firing)
  · exact .of_eq rfl rfl

/-! ## Sessions that stay where they are -/

/-- The state, the responses and the pages are as they were. -/
structure Stays
    (before after : Session) :
    Prop where
  store :
    after.store = before.store
  pages :
    after.pages = before.pages

namespace Stays

theorem refl
    (session : Session) :
    Stays session session :=
  ⟨rfl, rfl⟩

theorem trans
    {first second third : Session}
    (earlier : Stays first second)
    (later : Stays second third) :
    Stays first third where
  store :=
    later.store.trans earlier.store
  pages :=
    later.pages.trans earlier.pages

/-- What is tried after an attempt that stays may stay, too. -/
theorem andThen
    {before : Session}
    {attempt : Attempt α}
    {next : Session → α → Attempt β}
    (first : Stays before attempt.session)
    (later :
      ∀ session result, Stays session (next session result).session) :
    Stays before (attempt.andThen next).session := by
  unfold Attempt.andThen
  split
  · exact first.trans (later _ _)
  · exact first

end Stays

theorem stays_trigger
    (session : Session)
    (firing : Firing) :
    Stays session (session.trigger firing) := by
  unfold trigger
  simp only
  split <;> exact ⟨rfl, rfl⟩

theorem stays_foldl_carryOut
    (session : Session)
    (reactions : List Watch.Reaction) :
    Stays session (reactions.foldl carryOut session) := by
  induction reactions generalizing session with
  | nil =>
      exact .refl session
  | cons reaction reactions inductionHypothesis =>
      refine Stays.trans ?_ (inductionHypothesis _)
      cases reaction with
      | fire firing =>
          exact stays_trigger session firing
      | arm delay firing =>
          exact ⟨rfl, rfl⟩

/-- Watchers neither write into the state nor move the pages. -/
theorem stays_notify
    (session : Session)
    (change : StateChange)
    (context : WatchContext) :
    Stays session (session.notify change context) := by
  let noted := session.note (.notified change context)
  let answer := noted.watch.notify ⟨noted.agenda.now, true⟩ change context
  have remembers : Stays session { noted with watch := answer.1 } :=
    ⟨rfl, rfl⟩
  exact remembers.trans (stays_foldl_carryOut _ answer.2)

theorem stays_addWatcher
    (session : Session)
    (path : String)
    (config : WatchConfig)
    (depth : Nat) :
    Stays session (session.addWatcher path config depth) := by
  unfold addWatcher
  simp only
  split
  · rename_i watch firing _
    have remembers : Stays session { session with watch := watch } :=
      ⟨rfl, rfl⟩
    exact remembers.trans (stays_trigger _ firing)
  · exact ⟨rfl, rfl⟩

/-! ## Other effects -/

/-- The observer shows a change to the watchers, whether it crashes or not. -/
theorem session_observe
    (session : Session)
    (wiring : Wiring)
    (change : StateChange)
    (context : WatchContext) :
    (session.observe wiring change context).session =
      if wiring.isObserved then
        session.notify change context
      else
        session := by
  unfold observe
  split <;> rfl

theorem grows_commit
    (session : Session)
    (wiring : Wiring)
    (path : String)
    (value : Value)
    (depth : Nat) :
    Grows session (session.commit wiring path value depth).session := by
  have written :
      Grows session
        { session with store := (session.store.set path value).1 } :=
    .of_eq rfl rfl
  unfold commit
  simp only [session_observe]
  split
  · exact written
  · split
    · exact written.trans (grows_notify _ _ _)
    · exact written

theorem pages_commit
    (session : Session)
    (wiring : Wiring)
    (path : String)
    (value : Value)
    (depth : Nat) :
    (session.commit wiring path value depth).session.pages =
      session.pages := by
  unfold commit
  simp only [session_observe]
  split
  · rfl
  · split
    · exact (stays_notify _ _ _).pages
    · rfl

theorem grows_foldl_delivered
    (session : Session)
    (deliveries : List PageDelivery) :
    Grows session
      (deliveries.foldl (fun told delivery =>
        told.note (.delivered delivery)) session) := by
  induction deliveries generalizing session with
  | nil =>
      exact .refl session
  | cons delivery deliveries inductionHypothesis =>
      have told : Grows session (session.note (.delivered delivery)) :=
        .note session rfl
      exact told.trans (inductionHypothesis _)

theorem stays_foldl_delivered
    (session : Session)
    (deliveries : List PageDelivery) :
    Stays session
      (deliveries.foldl (fun told delivery =>
        told.note (.delivered delivery)) session) := by
  induction deliveries generalizing session with
  | nil =>
      exact .refl session
  | cons delivery deliveries inductionHypothesis =>
      have told : Stays session (session.note (.delivered delivery)) :=
        ⟨rfl, rfl⟩
      exact told.trans (inductionHypothesis _)

/-- Moving the pages moves them, empties their queue, and does no more. -/
theorem stays_movePages
    (session : Session)
    (move : PageStack → PageStack × Except Failure α) :
    Stays
      { session with
        pages := { (move session.pages).1 with queued := [] } }
      (session.movePages move).session :=
  stays_foldl_delivered _ (move session.pages).1.deliver.2

theorem grows_movePages
    (session : Session)
    (move : PageStack → PageStack × Except Failure α) :
    Grows session (session.movePages move).session := by
  let delivered := (move session.pages).1.deliver
  have moved : Grows session { session with pages := delivered.1 } :=
    .of_eq rfl rfl
  exact moved.trans (grows_foldl_delivered _ delivered.2)

theorem grows_present
    (session : Session)
    (wiring : Wiring)
    (shown : Presentation) :
    Grows session (session.present wiring shown).session := by
  have noted :
      Grows session
        (session.note (.presented session.agenda.now shown)) :=
    .note session rfl
  unfold present
  simp only
  split
  · exact noted
  · exact .refl session

theorem stays_present
    (session : Session)
    (wiring : Wiring)
    (shown : Presentation) :
    Stays session (session.present wiring shown).session := by
  unfold present
  simp only
  split <;> exact ⟨rfl, rfl⟩

theorem grows_armToast
    (session : Session)
    (duration : Nat) :
    Grows session (session.armToast duration) :=
  .of_extends (.schedule session.toastTimer session.agenda _ _) rfl

theorem grows_disarmToast
    (session : Session) :
    Grows session session.disarmToast :=
  .of_extends (.abortAll session.agenda _) rfl

/-! ## Sessions that are left alone -/

/--
The agenda, the state, the responses and the pages are as they were, and
nothing was shown.  Events about pages may have been delivered in between.
-/
structure Untouched
    (before after : Session) :
    Prop where
  agenda :
    after.agenda = before.agenda
  store :
    after.store = before.store
  pages :
    { after.pages with queued := [] } = { before.pages with queued := [] }
  presentations :
    after.presentations = before.presentations

namespace Untouched

theorem refl
    (session : Session) :
    Untouched session session :=
  ⟨rfl, rfl, rfl, rfl⟩

theorem trans
    {first second third : Session}
    (earlier : Untouched first second)
    (later : Untouched second third) :
    Untouched first third where
  agenda :=
    later.agenda.trans earlier.agenda
  store :=
    later.store.trans earlier.store
  pages :=
    later.pages.trans earlier.pages
  presentations :=
    later.presentations.trans earlier.presentations

theorem note
    (session : Session)
    {occurrence : Occurrence}
    (showsNothing : occurrence.shown? = none) :
    Untouched session (session.note occurrence) where
  agenda :=
    rfl
  store :=
    rfl
  pages :=
    rfl
  presentations :=
    presentations_note session showsNothing

theorem foldl_delivered
    (session : Session)
    (deliveries : List PageDelivery) :
    Untouched session
      (deliveries.foldl (fun told delivery =>
        told.note (.delivered delivery)) session) := by
  induction deliveries generalizing session with
  | nil =>
      exact .refl session
  | cons delivery deliveries inductionHypothesis =>
      have told :
          Untouched session (session.note (.delivered delivery)) :=
        .note session rfl
      exact told.trans (inductionHypothesis _)

end Untouched

end Session

end Mockup
