import Mockup.Proofs.Session.ToastTimer

namespace Mockup

/-!
# The latest toast is hidden after its time

Toasts are shown and hidden while time passes, and the session may go inert and
be wired again.  An account of what has been done tells when a toast has to be
hidden: if, of all that was done before with the toast or to end the session,
the last is that it was shown, and its time is over just then.  That is when it
is hidden, and at no other time; what earlier toasts were to last for is of no
account.
-/

/-! ## Operations -/

/-- What is done to a session in which toasts are shown. -/
inductive ToastOperation where
  | showToast
      (toast : Option ToastSpec)
      (id : Option String)
      (params : Entries Value)
      (onError : Option Action)
  | hideToast
      (params : Entries Value)
      (onError : Option Action)
  | destroy
  | wire (wiring : Wiring)
  | advance (time : Nat)

namespace ToastOperation

/-- Do it; actions are dispatched, each to its end. -/
def perform
    (session : Session) : ToastOperation → Session
  | .showToast toast id params onError =>
      (session.dispatch
        (.start ⟨.showToast toast id, params, onError⟩ 0)).1
  | .hideToast params onError =>
      (session.dispatch (.start ⟨.hideToast, params, onError⟩ 0)).1
  | .destroy =>
      session.destroy
  | .wire wiring =>
      session.wire wiring
  | .advance time =>
      session.advance time

/-- No presenter that a session is wired to crashes. -/
def IsCalm : ToastOperation → Prop
  | .wire wiring =>
      ∀ shown, wiring.presenter.crash? shown = none
  | _ =>
      True

end ToastOperation

/-! ## The account of them -/

/-- What took effect, and when. -/
inductive ToastEvent where
  | shown (time duration : Nat)
  | hidden (time : Nat)
  | destroyed (time : Nat)
  | wired (time : Nat) (wiring : Wiring)

namespace ToastEvent

/-- When it took effect. -/
def time : ToastEvent → Nat
  | .shown time _ =>
      time
  | .hidden time =>
      time
  | .destroyed time =>
      time
  | .wired time _ =>
      time

/-- Whether it decides on when the toast is hidden. -/
def isDecisive : ToastEvent → Bool
  | .wired _ _ =>
      false
  | _ =>
      true

/-- When the toast it shows is to be hidden. -/
def due? : ToastEvent → Option Nat
  | .shown time duration =>
      some (time + duration)
  | _ =>
      none

theorem eq_shown_of_due?
    {event : ToastEvent}
    {due : Nat}
    (isDue : event.due? = some due) :
    ∃ time duration, event = .shown time duration ∧ time + duration = due := by
  cases event with
  | shown time duration =>
      exact ⟨time, duration, rfl, Option.some.inj isDue⟩
  | hidden _ =>
      cases isDue
  | destroyed _ =>
      cases isDue
  | wired _ _ =>
      cases isDue

/-- What it leaves the session wired to, if it changes that. -/
def wiring? : ToastEvent → Option (Option Wiring)
  | .wired _ wiring =>
      some (some wiring)
  | .destroyed _ =>
      some none
  | _ =>
      none

/-- The latest of some events that decides on the toast. -/
def latest?
    (events : List ToastEvent) :
    Option ToastEvent :=
  events.find? isDecisive

/-- What some events, the latest first, leave the session wired to. -/
def wiringAfter
    (events : List ToastEvent) :
    Option Wiring :=
  (events.findSome? wiring?).join

end ToastEvent

/-- The time on the clock, and what took effect, the latest first. -/
structure ToastAccount where
  now : Nat := 0
  events : List ToastEvent := []

namespace ToastAccount

/-- Something takes effect now. -/
def note
    (account : ToastAccount)
    (event : Nat → ToastEvent) :
    ToastAccount :=
  { account with events := event account.now :: account.events }

/-- What took effect before a time. -/
def before
    (account : ToastAccount)
    (time : Nat) :
    List ToastEvent :=
  account.events.filter fun event => event.time < time

/--
The account of one operation more.  Nothing can be shown or hidden while the
session is inert, and no toast that is neither given nor found.
-/
def after
    (app : AppDocument)
    (settings : Settings)
    (account : ToastAccount) : ToastOperation → ToastAccount
  | .showToast toast id _ _ =>
      match ToastEvent.wiringAfter account.events, app.toastOf? toast id with
      | some _, some spec =>
          account.note fun now =>
            .shown now (spec.resolve settings.toastDuration).duration
      | _, _ =>
          account
  | .hideToast _ _ =>
      match ToastEvent.wiringAfter account.events with
      | some _ =>
          account.note .hidden
      | none =>
          account
  | .destroy =>
      account.note .destroyed
  | .wire wiring =>
      account.note fun now => .wired now wiring
  | .advance time =>
      { account with now := account.now + time }

/-- The account of a whole run. -/
def ofOperations
    (app : AppDocument)
    (settings : Settings)
    (operations : List ToastOperation) :
    ToastAccount :=
  operations.foldl (after app settings) {}

/--
Whether the toast has to be hidden at a time: of all that was done before, the
latest that decides on it is that it was shown, for just as long.
-/
def HidesAt
    (account : ToastAccount)
    (time : Nat) :
    Prop :=
  ∃ shownAt duration,
    ToastEvent.latest? (account.before time) =
        some (.shown shownAt duration) ∧
      shownAt + duration = time

/-- What the session is wired to when the clock gets to a time. -/
def wiringAt
    (account : ToastAccount)
    (time : Nat) :
    Option Wiring :=
  ToastEvent.wiringAfter (account.before time)

/-- Whether the user can see what is done at a time. -/
def isSeenAt
    (account : ToastAccount)
    (time : Nat) :
    Bool :=
  (account.wiringAt time).any fun wiring => wiring.presenter.isShowing

/-! ## Looking back -/

theorem mem_events_after
    {app : AppDocument}
    {settings : Settings}
    {account : ToastAccount}
    {event : ToastEvent}
    (member : event ∈ account.events)
    (operation : ToastOperation) :
    event ∈ (account.after app settings operation).events := by
  cases operation <;> simp only [after]
  case showToast =>
    split
    · exact List.mem_cons_of_mem _ member
    · exact member
  case hideToast =>
    split
    · exact List.mem_cons_of_mem _ member
    · exact member
  case destroy =>
    exact List.mem_cons_of_mem _ member
  case wire =>
    exact List.mem_cons_of_mem _ member
  case advance =>
    exact member

/-- When the toast that was shown last is to be hidden, if that lies ahead. -/
def pending?
    (account : ToastAccount) :
    Option Nat :=
  ((ToastEvent.latest? account.events).bind ToastEvent.due?).filter
    fun due => account.now < due

/-- A toast that is shown now is to be hidden later. -/
theorem pending?_note_shown
    {account : ToastAccount}
    {duration : Nat}
    (long : 0 < duration) :
    (account.note fun now => .shown now duration).pending? =
      some (account.now + duration) :=
  Option.filter_eq_some_iff.mpr
    ⟨rfl, decide_eq_true (Nat.lt_add_of_pos_right long)⟩

/-- Of what lies ahead, time leaves what lies ahead still. -/
theorem pending?_later
    (account : ToastAccount)
    (time : Nat) :
    ({ account with now := account.now + time } : ToastAccount).pending? =
      account.pending?.filter fun due => account.now + time < due := by
  have still (due : Nat) :
      decide (account.now + time < due) =
        (decide (account.now < due) &&
          decide (account.now + time < due)) := by
    rw [← Bool.decide_and, decide_eq_decide]
    omega
  unfold pending?
  rw [Option.filter_filter]
  simp only [← still]

/-- What happens now does not count for what had to happen before. -/
theorem before_note
    {account : ToastAccount}
    {event : Nat → ToastEvent}
    (atNow : (event account.now).time = account.now)
    {time : Nat}
    (early : time ≤ account.now) :
    (account.note event).before time = account.before time :=
  List.filter_cons_of_neg (by simp [atNow, early])

section

variable
  {account : ToastAccount}
  (past : ∀ event ∈ account.events, event.time ≤ account.now)
  {time : Nat}
  (ahead : account.now < time)
include past ahead

/-- Ahead of all that has happened, all of it counts. -/
theorem before_of_ahead :
    account.before time = account.events :=
  List.filter_eq_self.mpr fun event member => by
    simpa using Nat.lt_of_le_of_lt (past event member) ahead

theorem hidesAt_iff_pending? :
    account.HidesAt time ↔ account.pending? = some time := by
  unfold HidesAt pending?
  rw [before_of_ahead past ahead, Option.filter_eq_some_iff]
  constructor
  · rintro ⟨shownAt, duration, latest, rfl⟩
    rw [latest]
    exact ⟨rfl, decide_eq_true ahead⟩
  · rintro ⟨isDue, _⟩
    obtain ⟨_, latest, isDue⟩ := Option.bind_eq_some_iff.mp isDue
    obtain ⟨shownAt, duration, rfl, isTime⟩ :=
      ToastEvent.eq_shown_of_due? isDue
    exact ⟨shownAt, duration, latest, isTime⟩

end

end ToastAccount

namespace Session

/-- What an account of a session tells is so. -/
structure IsToldBy
    (app : AppDocument)
    (settings : Settings)
    (account : ToastAccount)
    (session : Session) :
    Prop where
  app :
    session.app = app
  settings :
    session.settings = settings
  now :
    session.agenda.now = account.now
  wiring :
    session.wiring = ToastEvent.wiringAfter account.events
  calm :
    ∀ wiring ∈ session.wiring, ∀ shown,
      wiring.presenter.crash? shown = none
  waits :
    AwaitsHide account.pending? session
  past :
    ∀ event ∈ account.events, event.time ≤ account.now
  wired :
    ∀ time, account.HidesAt time → account.wiringAt time ≠ none
  ends :
    ∀ time shows,
      (time, shows) ∈ toastEnds session.journal ↔
        time ≤ account.now ∧ account.HidesAt time ∧
          account.isSeenAt time = shows
  once :
    (toastEnds session.journal).Pairwise fun first second =>
      first.1 < second.1

variable
  {app : AppDocument}
  {settings : Settings}
  {account : ToastAccount}
  {session after : Session}

namespace IsToldBy

theorem inert
    (capacity : Nat) :
    IsToldBy app settings {} (Session.inert app settings capacity) where
  app := by
    change (PageStack.ofApp app capacity).app = app
    simp only [PageStack.ofApp, PageStack.push]
    split <;> rfl
  settings :=
    rfl
  now :=
    rfl
  wiring :=
    rfl
  calm wiring isWired :=
    absurd isWired (Option.not_mem_none wiring)
  waits :=
    .of_none rfl rfl rfl
  past event member :=
    absurd member List.not_mem_nil
  wired time hides := by
    obtain ⟨_, _, isLatest, _⟩ := hides
    cases isLatest
  ends time shows := by
    refine iff_of_false List.not_mem_nil ?_
    rintro ⟨_, ⟨_, _, isLatest, _⟩, _⟩
    cases isLatest
  once :=
    List.Pairwise.nil

/-- What takes no effect needs no account. -/
theorem unnoted
    (told : IsToldBy app settings account session)
    (waits : AwaitsHide account.pending? after)
    (keeps : KeepsToasts session after)
    (wiring : after.wiring = session.wiring) :
    IsToldBy app settings account after where
  app :=
    keeps.app.trans told.app
  settings :=
    keeps.settings.trans told.settings
  now :=
    keeps.now.trans told.now
  wiring :=
    wiring.trans told.wiring
  calm :=
    wiring ▸ told.calm
  waits :=
    waits
  past :=
    told.past
  wired :=
    told.wired
  ends :=
    keeps.ends ▸ told.ends
  once :=
    keeps.ends ▸ told.once

/-- What takes effect now is noted. -/
theorem noted
    (told : IsToldBy app settings account session)
    {event : Nat → ToastEvent}
    (atNow : (event account.now).time = account.now)
    (waits : AwaitsHide (account.note event).pending? after)
    (keeps : KeepsToasts session after)
    (wiring :
      after.wiring = ToastEvent.wiringAfter (account.note event).events)
    (calm :
      ∀ wiring ∈ after.wiring, ∀ shown,
        wiring.presenter.crash? shown = none)
    (wired :
      ∀ time duration,
        ToastEvent.latest? (account.note event).events =
            some (.shown time duration) →
          ToastEvent.wiringAfter (account.note event).events ≠ none) :
    IsToldBy app settings (account.note event) after := by
  have past :
      ∀ other ∈ (account.note event).events,
        other.time ≤ (account.note event).now := by
    intro other member
    rcases List.mem_cons.mp member with rfl | isOld
    · exact Nat.le_of_eq atNow
    · exact told.past other isOld
  refine ⟨keeps.app.trans told.app, keeps.settings.trans told.settings,
    keeps.now.trans told.now, wiring, calm, waits, past, ?_, ?_,
    keeps.ends ▸ told.once⟩
  · intro time hides
    unfold ToastAccount.HidesAt at hides
    unfold ToastAccount.wiringAt
    rcases Nat.lt_or_ge account.now time with ahead | early
    · rw [ToastAccount.before_of_ahead past ahead] at hides ⊢
      obtain ⟨shownAt, duration, isLatest, _⟩ := hides
      exact wired shownAt duration isLatest
    · rw [ToastAccount.before_note atNow early] at hides ⊢
      exact told.wired time hides
  · intro time shows
    rw [keeps.ends, told.ends]
    refine and_congr_right fun early => ?_
    unfold ToastAccount.HidesAt ToastAccount.isSeenAt ToastAccount.wiringAt
    rw [ToastAccount.before_note atNow early]

theorem ahead_of_pending
    (told : IsToldBy app settings account session)
    {due : Nat}
    (isDue : account.pending? = some due) :
    account.now < due := by
  rw [← told.now]
  exact told.waits.ahead due isDue

/-- Of the ends up to a later time, the one that is new is waited for now. -/
theorem mem_ends_or_endsUpTo_iff
    (told : IsToldBy app settings account session)
    {time due : Nat}
    (later : account.now ≤ time)
    {seen shows : Bool}
    (isSeen :
      (session.wiring.any fun wiring => wiring.presenter.isShowing) = seen) :
    (due, shows) ∈
        toastEnds session.journal ++ endsUpTo account.pending? time seen ↔
      due ≤ time ∧ account.HidesAt due ∧ account.isSeenAt due = shows := by
  rw [List.mem_append, told.ends, mem_endsUpTo_iff]
  rcases Nat.lt_or_ge account.now due with ahead | early
  · have seenThen : account.isSeenAt due = seen := by
      rw [← isSeen, told.wiring, ToastAccount.isSeenAt,
        ToastAccount.wiringAt, ToastAccount.before_of_ahead told.past ahead]
    rw [ToastAccount.hidesAt_iff_pending? told.past ahead, seenThen]
    have notEarly : ¬ due ≤ account.now :=
      Nat.not_le.mpr ahead
    tauto
  · have notDue : account.pending? ≠ some due := fun isDue =>
      Nat.not_lt.mpr early (told.ahead_of_pending isDue)
    have among : due ≤ time :=
      Nat.le_trans early later
    tauto

/-- Time passes, and the toast is hidden if its end is among it. -/
theorem advanced
    (told : IsToldBy app settings account session)
    (time : Nat) :
    IsToldBy app settings { account with now := account.now + time }
      (session.advance time) := by
  obtain ⟨waits, ⟨app, settings, wiring, now⟩, ends⟩ :=
    awaitsHide_advance told.waits time
  rw [told.now] at waits now ends
  refine ⟨app.trans told.app, settings.trans told.settings, now,
    wiring.trans told.wiring, wiring ▸ told.calm, ?_, ?_,
    told.wired, ?_, ?_⟩
  · rw [ToastAccount.pending?_later]
    exact waits
  · exact fun event member =>
      Nat.le_add_right_of_le (told.past event member)
  · intro due shows
    rw [ends]
    exact told.mem_ends_or_endsUpTo_iff (Nat.le_add_right _ _) rfl
  · rw [ends, List.pairwise_append]
    refine ⟨told.once, pairwise_endsUpTo _ _ _, ?_⟩
    rintro ⟨first, _⟩ isOld ⟨due, _⟩ isNew
    have isPast := ((told.ends _ _).mp isOld).1
    have isDue := (mem_endsUpTo_iff.mp isNew).1
    exact Nat.lt_of_le_of_lt isPast (told.ahead_of_pending isDue)

/-- An action on a session that is inert takes no effect. -/
theorem dispatched_of_inert
    (told : IsToldBy app settings account session)
    (isInert : ToastEvent.wiringAfter account.events = none)
    (action : Action) :
    IsToldBy app settings account
      (session.dispatch (.start action 0)).1 := by
  obtain ⟨waits, keeps, wiring⟩ :=
    dispatch_of_inert told.waits (told.wiring.trans isInert) action
  exact told.unnoted waits keeps wiring

/-- A toast is shown, if the session is wired and there is such a one. -/
theorem showToast
    (told : IsToldBy app settings account session)
    {toast : Option ToastSpec}
    {id : Option String}
    {params : Entries Value}
    {onError : Option Action}
    (lasting :
      ∀ time duration,
        .shown time duration ∈
            (account.after app settings
              (.showToast toast id params onError)).events →
          0 < duration) :
    IsToldBy app settings
      (account.after app settings (.showToast toast id params onError))
      (session.dispatch
        (.start ⟨.showToast toast id, params, onError⟩ 0)).1 := by
  obtain rfl := told.app
  obtain rfl := told.settings
  cases isWired : ToastEvent.wiringAfter account.events with
  | none =>
      simp only [ToastAccount.after, isWired]
      exact told.dispatched_of_inert isWired _
  | some wiring =>
      have wired : session.wiring = some wiring :=
        told.wiring.trans isWired
      have calm := told.calm wiring wired
      cases found : session.app.toastOf? toast id with
      | none =>
          obtain ⟨waits, keeps, wiring⟩ :=
            dispatch_of_no_toast told.waits wired found params onError
          simp only [ToastAccount.after, isWired, found]
          exact told.unnoted waits keeps wiring
      | some spec =>
          simp only [ToastAccount.after, isWired, found] at lasting ⊢
          have long := lasting _ _ List.mem_cons_self
          obtain ⟨waits, keeps, wiring⟩ :=
            dispatch_showToast told.waits wired calm params onError found
              long
          refine told.noted rfl ?_ keeps (wiring.trans told.wiring)
            (wiring ▸ told.calm) ?_
          · rw [ToastAccount.pending?_note_shown long, ← told.now]
            exact waits
          · intro _ _ _
            change ToastEvent.wiringAfter account.events ≠ none
            rw [isWired]
            exact Option.some_ne_none _

/-- The toast is hidden, if the session is wired. -/
theorem hideToast
    (told : IsToldBy app settings account session)
    (params : Entries Value)
    (onError : Option Action) :
    IsToldBy app settings
      (account.after app settings (.hideToast params onError))
      (session.dispatch (.start ⟨.hideToast, params, onError⟩ 0)).1 := by
  cases isWired : ToastEvent.wiringAfter account.events with
  | none =>
      simp only [ToastAccount.after, isWired]
      exact told.dispatched_of_inert isWired _
  | some wiring =>
      have wired : session.wiring = some wiring :=
        told.wiring.trans isWired
      have calm := told.calm wiring wired
      obtain ⟨waits, keeps, wiring⟩ :=
        dispatch_hideToast told.waits wired calm params onError
      simp only [ToastAccount.after, isWired]
      refine told.noted rfl waits keeps (wiring.trans told.wiring)
        (wiring ▸ told.calm) fun _ _ isLatest => ?_
      cases isLatest

/-- An operation is told by its account. -/
theorem perform
    (told : IsToldBy app settings account session)
    {operation : ToastOperation}
    (calm : operation.IsCalm)
    (lasting :
      ∀ time duration,
        .shown time duration ∈
            (account.after app settings operation).events →
          0 < duration) :
    IsToldBy app settings (account.after app settings operation)
      (operation.perform session) := by
  cases operation with
  | showToast toast id params onError =>
      exact told.showToast lasting
  | hideToast params onError =>
      exact told.hideToast params onError
  | destroy =>
      obtain ⟨waits, keeps⟩ := awaitsHide_destroy told.waits
      refine told.noted rfl waits keeps rfl ?_ ?_
      · intro _ isWired
        cases isWired
      · intro _ _ isLatest
        cases isLatest
  | wire wiring =>
      obtain ⟨waits, keeps⟩ := awaitsHide_wire told.waits wiring
      change
        IsToldBy _ _ (account.note fun now => .wired now wiring)
          (session.wire wiring)
      refine told.noted rfl waits keeps rfl ?_ ?_
      · rintro _ ⟨⟩
        exact calm
      · exact fun _ _ _ => Option.some_ne_none wiring
  | advance time =>
      exact told.advanced time

end IsToldBy

/-- A run of operations is told by its account. -/
theorem isToldBy_foldl
    (capacity : Nat)
    {operations : List ToastOperation}
    (calm : ∀ operation ∈ operations, operation.IsCalm)
    (lasting :
      ∀ time duration,
        .shown time duration ∈
            (ToastAccount.ofOperations app settings operations).events →
          0 < duration) :
    IsToldBy app settings
      (ToastAccount.ofOperations app settings operations)
      (operations.foldl ToastOperation.perform
        (inert app settings capacity)) := by
  induction operations using List.reverseRecOn with
  | nil =>
      exact .inert capacity
  | append_singleton operations operation inductionHypothesis =>
      rw [List.forall_mem_append] at calm
      unfold ToastAccount.ofOperations at lasting ⊢
      rw [List.foldl_append] at lasting ⊢
      have told :=
        inductionHypothesis calm.1 fun time duration isEarlier =>
          lasting time duration
            (ToastAccount.mem_events_after isEarlier operation)
      rw [List.foldl_append]
      exact told.perform (calm.2 operation List.mem_cons_self) lasting

/--
Whatever is done with toasts, and however much time passes between, a toast is
hidden by its timer at a time exactly if, of all that was done before that time
to show a toast, to hide one or to end the session, the last was to show one for
just as long.  The session is always wired then, so that its presenter hides the
toast, which can be seen if it shows anything.  This happens once at a time, and
no more than one timer is ever waiting.
-/
theorem toastEnds_iff_latest
    (app : AppDocument)
    (settings : Settings)
    (capacity : Nat)
    {operations : List ToastOperation}
    (calm : ∀ operation ∈ operations, operation.IsCalm)
    (lasting :
      ∀ time duration,
        .shown time duration ∈
            (ToastAccount.ofOperations app settings operations).events →
          0 < duration) :
    let account := ToastAccount.ofOperations app settings operations
    let session :=
      operations.foldl ToastOperation.perform (inert app settings capacity)
    session.agenda.now = account.now ∧
      (∀ time shows,
        (time, shows) ∈ toastEnds session.journal ↔
          time ≤ account.now ∧ account.HidesAt time ∧
            account.isSeenAt time = shows) ∧
        (∀ time, account.HidesAt time → account.wiringAt time ≠ none) ∧
          (toastEnds session.journal).Pairwise
              (fun first second => first.1 < second.1) ∧
            session.agenda.entries.length ≤ 1 := by
  intro account session
  have told := isToldBy_foldl capacity calm lasting
  exact ⟨told.now, told.ends, told.wired, told.once,
    told.waits.length_entries_le_one⟩

/-- Toasts that overlap, are hidden early, and outlive a restart. -/
def overlappingToasts : List ToastOperation :=
  let toast (duration : Option Nat) : ToastOperation :=
    .showToast (some { duration := duration }) none [] none
  [.wire { presenter := .screen [] }, toast (some 1000), .advance 500,
    toast none, .advance 3000, toast (some 1000), .hideToast [] none,
    .advance 2000, toast (some 1000), .destroy,
    .wire { presenter := .screen [] }, .advance 2000]

/-- Only the second toast is hidden by its timer, and not by the first one's. -/
theorem toastEnds_iff_latest_overlapping :
    let session :=
      overlappingToasts.foldl ToastOperation.perform (inert {} {} 8)
    (2500, true) ∈ toastEnds session.journal ∧
      (∀ shows, (1000, shows) ∉ toastEnds session.journal) ∧
        ∀ shows, (4500, shows) ∉ toastEnds session.journal := by
  intro session
  have calm : ∀ operation ∈ overlappingToasts, operation.IsCalm := by
    simp [overlappingToasts, ToastOperation.IsCalm, Presenter.screen]
  let account := ToastAccount.ofOperations {} {} overlappingToasts
  have events :
      account.events =
        [.wired 5500 { presenter := .screen [] }, .destroyed 5500,
          .shown 5500 1000, .hidden 3500, .shown 3500 1000,
          .shown 500 2000, .shown 0 1000,
          .wired 0 { presenter := .screen [] }] := by
    rfl
  have lasting :
      ∀ time duration,
        .shown time duration ∈ account.events → 0 < duration := by
    simp [events]
    omega
  obtain ⟨_, ends, _⟩ := toastEnds_iff_latest {} {} 8 calm lasting
  have latest :
      ToastEvent.latest? (account.before 1000) = some (.shown 500 2000) ∧
        ToastEvent.latest? (account.before 2500) = some (.shown 500 2000) ∧
          ToastEvent.latest? (account.before 4500) = some (.hidden 3500) := by
    simp only [ToastAccount.before, events]
    exact ⟨rfl, rfl, rfl⟩
  refine ⟨(ends 2500 true).mpr ?_, fun shows isEnd => ?_,
    fun shows isEnd => ?_⟩
  · exact ⟨by decide, ⟨500, 2000, latest.2.1, rfl⟩, rfl⟩
  · obtain ⟨_, ⟨_, _, isLatest, isTime⟩, _⟩ := (ends 1000 shows).mp isEnd
    cases latest.1.symm.trans isLatest
    cases isTime
  · obtain ⟨_, ⟨_, _, isLatest, _⟩, _⟩ := (ends 4500 shows).mp isEnd
    cases latest.2.2.symm.trans isLatest

end Session

end Mockup
