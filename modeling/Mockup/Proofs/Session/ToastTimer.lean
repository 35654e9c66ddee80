import Mockup.Proofs.Clockwork
import Mockup.Proofs.Session.Writes
import Mockup.Proofs.TimerTable.Dues
import Mockup.Proofs.TimerTable.Keyed
import Mockup.Session.Control

namespace Mockup

/-!
# The timer of the toast

Between the operations on a session nothing is ready, and at most the toast
waits to be hidden.  An action that shows a toast leaves its own timer in place
of any other, and an action that hides it leaves none.  The journal tells when
the time of a toast was over, and whether the toast was hidden then.
-/

/-! ## Ends in the journal -/

/-- Whether a toast was hidden. -/
def Occurrence.hidesToast : Occurrence → Bool
  | .presented _ .hideToast =>
      true
  | _ =>
      false

/-- When the time of a toast was over. -/
def Occurrence.elapsed? : Occurrence → Option Nat
  | .toastElapsed time =>
      some time
  | _ =>
      none

/-- When toasts were over, each with whether it was shown to be hidden then. -/
def toastEnds : List Occurrence → List (Nat × Bool)
  | [] =>
      []
  | occurrence :: later =>
      match occurrence.elapsed? with
      | some time =>
          (time, later.head?.any Occurrence.hidesToast) :: toastEnds later
      | none =>
          toastEnds later

/-- What comes later tells its own ends, if it does not begin with a hiding. -/
theorem toastEnds_append
    {journal news : List Occurrence}
    (begins : news.head?.any Occurrence.hidesToast = false) :
    toastEnds (journal ++ news) = toastEnds journal ++ toastEnds news := by
  induction journal with
  | nil =>
      rfl
  | cons occurrence journal inductionHypothesis =>
      have sameHead :
          (journal ++ news).head?.any Occurrence.hidesToast =
            journal.head?.any Occurrence.hidesToast := by
        cases journal with
        | nil =>
            exact begins
        | cons _ _ =>
            rfl
      rw [List.cons_append, toastEnds, toastEnds, sameHead,
        inductionHypothesis]
      cases occurrence.elapsed? <;> rfl

theorem toastEnds_eq_nil
    {news : List Occurrence}
    (none : ∀ occurrence ∈ news, occurrence.elapsed? = none) :
    toastEnds news = [] := by
  induction news with
  | nil =>
      rfl
  | cons occurrence news inductionHypothesis =>
      rw [List.forall_mem_cons] at none
      rw [toastEnds, none.1]
      exact inductionHypothesis none.2

namespace Session

variable {session : Session} {due? : Option Nat}

/-! ## Waiting for the end -/

/-- Nothing is ready, and nothing waits but the toast for its end. -/
structure AwaitsHide
    (due? : Option Nat)
    (session : Session) :
    Prop where
  keys :
    session.toastTimer.Keys session.agenda fun _ => ()
  idle :
    session.agenda.ready = []
  armed :
    session.agenda.armed.map
        (fun waiting => (waiting.deadline, waiting.entry.job)) =
      due?.toList.map fun due => (due, .timer (.elapsed .hideToast))
  ahead :
    ∀ due ∈ due?, session.agenda.now < due

/-- An operation takes no time, and no toast comes to its end in it. -/
structure KeepsToasts
    (before after : Session) :
    Prop where
  app :
    after.app = before.app
  settings :
    after.settings = before.settings
  now :
    after.agenda.now = before.agenda.now
  ends :
    toastEnds after.journal = toastEnds before.journal

/-- What is shown to the user is not the end of a toast. -/
theorem elapsed?_of_mem_shownBy
    {wiring : Wiring}
    {shown : Presentation}
    {occurrence : Occurrence}
    (member : occurrence ∈ session.shownBy wiring shown) :
    occurrence.elapsed? = none := by
  unfold shownBy at member
  split at member
  · rw [List.mem_singleton.mp member]
    rfl
  · cases member

theorem KeepsToasts.of_news
    {before after : Session}
    {news : List Occurrence}
    (app : after.app = before.app)
    (settings : after.settings = before.settings)
    (now : after.agenda.now = before.agenda.now)
    (journal : after.journal = before.journal ++ news)
    (begins : news.head?.any Occurrence.hidesToast = false)
    (noEnds : ∀ occurrence ∈ news, occurrence.elapsed? = none) :
    KeepsToasts before after := by
  refine ⟨app, settings, now, ?_⟩
  rw [journal, toastEnds_append begins, toastEnds_eq_nil noEnds,
    List.append_nil]

/-- An action tells of no end, whatever it shows. -/
theorem KeepsToasts.of_action
    {before after : Session}
    {ticket : Nat}
    {action : Action}
    {wiring : Wiring}
    {shown : Presentation}
    {time : Nat}
    {outcome : Outcome}
    (app : after.app = before.app)
    (settings : after.settings = before.settings)
    (now : after.agenda.now = before.agenda.now)
    (journal :
      after.journal =
        before.journal ++ .performed ticket action 0 ::
          (before.shownBy wiring shown ++
            [.finished time ticket .dispatched outcome])) :
    KeepsToasts before after := by
  refine .of_news app settings now journal rfl fun occurrence member => ?_
  simp only [List.mem_cons, List.mem_append, List.not_mem_nil, or_false]
    at member
  rcases member with rfl | isShown | rfl
  · rfl
  · exact elapsed?_of_mem_shownBy isShown
  · rfl

/-- Nothing waits but the toast, in its own timer. -/
theorem AwaitsHide.of_single
    {due ticket : Nat}
    (table : session.toastTimer = ⟨[((), ticket)]⟩)
    (idle : session.agenda.ready = [])
    (armed :
      session.agenda.armed =
        [⟨due, ⟨ticket, .timer (.elapsed .hideToast)⟩⟩])
    (given : ticket < session.agenda.nextTicket)
    (ahead : session.agenda.now < due) :
    AwaitsHide (some due) session := by
  have entries :
      session.agenda.entries = [⟨ticket, .timer (.elapsed .hideToast)⟩] := by
    simp [Agenda.entries, idle, armed]
  have orderly : session.agenda.IsOrderly :=
    ⟨by simp [entries], by simpa [entries] using given⟩
  refine ⟨⟨orderly, ?_, ?_, ?_, ?_⟩, idle, by simp [armed], ?_⟩
  · simp [table]
  · simp [table]
  · simpa [table] using given
  · simp [entries, table]
  · rintro _ ⟨⟩
    exact ahead

/-- Nothing waits at all. -/
theorem AwaitsHide.of_none
    (table : session.toastTimer = {})
    (idle : session.agenda.ready = [])
    (armed : session.agenda.armed = []) :
    AwaitsHide none session := by
  have entries : session.agenda.entries = [] := by
    simp [Agenda.entries, idle, armed]
  refine ⟨⟨Agenda.isOrderly_of_entries_eq_nil entries, ?_, ?_, ?_, ?_⟩,
    idle, by simp [armed],
    fun due isDue => absurd isDue (Option.not_mem_none due)⟩
  · simp [table]
  · simp [table]
  · simp [table]
  · simp [entries]

/-- A session in which the toast waits for its end, after a time from now. -/
def awaiting
    (session : Session)
    (duration : Nat) :
    Session :=
  { session with
    toastTimer := ⟨[((), session.agenda.nextTicket)]⟩,
    agenda :=
      { session.agenda with
        nextTicket := session.agenda.nextTicket + 1,
        ready := [],
        armed :=
          [⟨session.agenda.now + duration,
            ⟨session.agenda.nextTicket,
              .timer (.elapsed .hideToast)⟩⟩] } }

/-- A session without the toast's timer. -/
def cleared
    (session : Session) :
    Session :=
  { session with
    toastTimer := {},
    agenda := { session.agenda with ready := [], armed := [] } }

theorem without_all
    (agenda : Agenda Job) :
    TimerTable.without agenda (fun _ => ()) (fun _ => true) =
      { agenda with ready := [], armed := [] } := by
  simp [TimerTable.without, Agenda.filter]

theorem disarmToast_eq_cleared
    (keys : session.toastTimer.Keys session.agenda fun _ => ()) :
    session.disarmToast = session.cleared := by
  have agenda := keys.agenda_cancelWhere fun _ => true
  rw [without_all] at agenda
  have tickets :
      (session.toastTimer.cancelWhere session.agenda fun _ => true).1 =
        {} := by
    simp [TimerTable.cancelWhere]
  unfold disarmToast TimerTable.cancelAll
  simp only [agenda, tickets]
  rfl

theorem armToast_eq
    (keys : session.toastTimer.Keys session.agenda fun _ => ())
    (duration : Nat) :
    session.armToast duration =
      { session with
        toastTimer := ⟨[((), session.agenda.nextTicket)]⟩,
        agenda :=
          { session.agenda with
            nextTicket := session.agenda.nextTicket + 1,
            ready :=
              [⟨session.agenda.nextTicket,
                .timer (.fresh duration .hideToast)⟩],
            armed := [] } } := by
  have agenda :=
    keys.agenda_schedule () (.timer (.fresh duration .hideToast))
  have all : (fun other : Unit => decide (other = ())) = fun _ => true := by
    simp
  rw [all, without_all] at agenda
  unfold armToast
  simp only [agenda]
  simp [TimerTable.schedule, Agenda.spawn]

/-! ## Dispatching at rest -/

theorem step?_of_idle
    (idle : session.agenda.ready = []) :
    clockwork.step? session = none := by
  change session.step? = none
  simp only [step?, Agenda.next?, idle]

/-- With nothing ready, a session is at rest unless the clock may move. -/
theorem isAtRest_of_idle
    {mayMove : Session → Nat → Bool}
    (idle : session.agenda.ready = [])
    (stays :
      ∀ deadline ∈ session.agenda.deadline?,
        mayMove session deadline = false) :
    clockwork.isAtRest mayMove session = true := by
  unfold Clockwork.isAtRest
  rw [step?_of_idle idle]
  cases isDeadline : clockwork.deadline? session with
  | none =>
      rfl
  | some deadline =>
      simp [stays deadline isDeadline]

theorem isAtRest_of_ended
    {ticket : Nat}
    (idle : session.agenda.ready = [])
    (ended : session.hasEnded ticket = true) :
    clockwork.isAtRest (fun current _ => !current.hasEnded ticket)
      session = true :=
  isAtRest_of_idle idle fun _ _ => by simp [ended]

theorem two_le_effort
    (session : Session) :
    2 ≤ 2 ^ clockwork.effort session :=
  Nat.le_self_pow (by simp [clockwork]) 2

/-- An action that ends in its turn leaves little to be done after it. -/
theorem dispatch_of_ended
    (idle : session.agenda.ready = [])
    {stage : Stage}
    {after last : Session}
    {outcome : Outcome}
    (advanced :
      session.turn.advanceStage session.agenda.nextTicket stage =
        (after, .ended outcome))
    (comes :
      clockwork.ComesToRest
        (fun current _ => !current.hasEnded session.agenda.nextTicket) 1
        (after.note
          (.finished after.agenda.now session.agenda.nextTicket .dispatched
            outcome))
        last) :
    (session.dispatch stage).1 = last := by
  have stepped := step?_launch idle .dispatched stage
  rw [runTask_of_ended .dispatched advanced] at stepped
  exact (Clockwork.ComesToRest.stepped stepped comes).run
    (two_le_effort _)

theorem dispatch_of_settled
    (idle : session.agenda.ready = [])
    {stage : Stage}
    {after : Session}
    {outcome : Outcome}
    (advanced :
      session.turn.advanceStage session.agenda.nextTicket stage =
        (after, .ended outcome))
    (settled : after.agenda.ready = [])
    (ended : after.hasEnded session.agenda.nextTicket = true) :
    (session.dispatch stage).1 =
      after.note
        (.finished after.agenda.now session.agenda.nextTicket .dispatched
          outcome) :=
  dispatch_of_ended idle advanced (.rested (isAtRest_of_ended settled ended))

theorem advanceStage_of_performed
    {ticket : Nat}
    {wiring : Wiring}
    {action : Action}
    {after : Session}
    (wired : session.wiring = some wiring)
    (performed :
      (session.note (.performed ticket action 0)).perform wiring action 0 =
        after.succeed completed) :
    session.advanceStage ticket (.start action 0) =
      (after, .ended .completed) := by
  simp only [advanceStage, Nat.not_lt_zero, if_false, wired, performed]
  rfl

/-! ## Actions on the toast -/

end Session

/-- The toast that is given with an action, or else found under its id. -/
def AppDocument.toastOf?
    (app : AppDocument)
    (inline : Option ToastSpec)
    (id : Option String) :
    Option ToastSpec :=
  inline <|> id.bind fun name => Entries.get? app.toasts name

namespace Session

variable {session : Session} {due? : Option Nat}

theorem overlay_of_toastOf?
    {app : AppDocument}
    {inline : Option ToastSpec}
    {id : Option String}
    {spec : ToastSpec}
    (found : app.toastOf? inline id = some spec)
    (needed : String) :
    overlay inline id app.toasts .toastNotFound needed = .ok spec := by
  cases inline with
  | some given =>
      cases found
      rfl
  | none =>
      cases id with
      | none =>
          cases found
      | some name =>
          have isFound : Entries.get? app.toasts name = some spec :=
            found
          simp only [overlay, isFound]

/-- Without a toast, an action that shows one is passed over. -/
theorem overlay_of_no_toast
    {app : AppDocument}
    {inline : Option ToastSpec}
    {id : Option String}
    (absent : app.toastOf? inline id = none)
    (needed : String) :
    ∃ failure,
      overlay inline id app.toasts .toastNotFound needed =
          .error failure ∧
        failure.isPassedOver = true := by
  cases inline with
  | some given =>
      cases absent
  | none =>
      cases id with
      | none =>
          exact ⟨_, rfl, rfl⟩
      | some name =>
          have isAbsent : Entries.get? app.toasts name = none :=
            absent
          simp only [overlay, isAbsent]
          exact ⟨_, rfl, rfl⟩

/-- A session that has shown something to the user. -/
def showing
    (session : Session)
    (wiring : Wiring)
    (shown : Presentation) :
    Session :=
  { session with
    journal := session.journal ++ session.shownBy wiring shown }

/-- A toast is shown, and its timer replaces any other. -/
theorem perform_showToast
    (session : Session)
    {wiring : Wiring}
    {toast : Option ToastSpec}
    {id : Option String}
    {spec : ToastSpec}
    (calm :
      wiring.presenter.crash?
          (.showToast (spec.resolve session.settings.toastDuration)) =
        none)
    (found : session.app.toastOf? toast id = some spec)
    (params : Entries Value)
    (onError : Option Action)
    (depth : Nat) :
    let resolved := spec.resolve session.settings.toastDuration
    session.perform wiring ⟨.showToast toast id, params, onError⟩ depth =
      ((session.showing wiring (.showToast resolved)).armToast
        resolved.duration).succeed completed := by
  have isFound :=
    overlay_of_toastOf? found "showToast needs toast or toastId"
  intro resolved
  change session.showToast wiring toast id = _
  simp only [showToast, isFound, present_of_calm session calm,
    Attempt.andThen, succeed]
  rfl

/-- The toast is hidden, and so is no other later. -/
theorem perform_hideToast
    {wiring : Wiring}
    (calm : wiring.presenter.crash? .hideToast = none)
    (keys : session.toastTimer.Keys session.agenda fun _ => ())
    (params : Entries Value)
    (onError : Option Action)
    (depth : Nat) :
    session.perform wiring ⟨.hideToast, params, onError⟩ depth =
      (session.cleared.showing wiring .hideToast).succeed completed := by
  change
    session.disarmToast.showOverlay wiring (.ok ()) (fun _ => .hideToast) = _
  simp only [showOverlay, disarmToast_eq_cleared keys,
    present_of_calm session.cleared calm, Attempt.andThen, succeed]
  rfl

/-- A timer that was armed begins to wait once its action is over. -/
theorem step?_note_armToast
    (keys : session.toastTimer.Keys session.agenda fun _ => ())
    {duration : Nat}
    (lasting : 0 < duration)
    (report : Occurrence) :
    clockwork.step? ((session.armToast duration).note report) =
      some ((session.awaiting duration).note report) := by
  have delays : duration ≠ 0 :=
    Nat.ne_of_gt lasting
  change ((session.armToast duration).note report).step? = _
  rw [armToast_eq keys]
  simp only [step?, note, Agenda.next?, runJob, Timer.delay, delays, if_false]
  rfl

namespace AwaitsHide

theorem turn
    (waits : AwaitsHide due? session) :
    AwaitsHide due? session.turn := by
  have entries : session.turn.agenda.entries = session.agenda.entries := by
    simp only [Agenda.entries, Session.turn, waits.idle]
  have orderly : session.turn.agenda.IsOrderly := by
    refine ⟨?_, ?_⟩
    · rw [entries]
      exact waits.keys.orderly.distinct
    · intro entry member
      rw [entries] at member
      exact Nat.lt_succ_of_lt (waits.keys.orderly.given entry member)
  refine ⟨waits.keys.of_entries orderly (Nat.le_succ _) ?_, rfl,
    waits.armed, waits.ahead⟩
  intro entry member
  rw [entries] at member
  exact ⟨entry.job, member, rfl⟩

/-- The ticket of a task that has its turn is not on the agenda. -/
theorem hasEnded
    (waits : AwaitsHide due? session) :
    session.turn.hasEnded session.agenda.nextTicket = true := by
  simp only [Session.hasEnded, Bool.not_eq_true', Agenda.isLive,
    List.any_eq_false, decide_eq_true_eq]
  intro entry member isOwn
  simp only [Agenda.entries, Session.turn, List.nil_append] at member
  have given :=
    waits.keys.orderly.given entry (List.mem_append_right _ member)
  exact Nat.ne_of_lt given isOwn

end AwaitsHide

section

variable
  (waits : AwaitsHide due? session)
  {wiring : Wiring}
  (wired : session.wiring = some wiring)
  (calm : ∀ shown, wiring.presenter.crash? shown = none)
  (params : Entries Value)
  (onError : Option Action)
include waits wired calm

/-- A toast that is shown is to be hidden after its time, and no other is. -/
theorem dispatch_showToast
    {toast : Option ToastSpec}
    {id : Option String}
    {spec : ToastSpec}
    (found : session.app.toastOf? toast id = some spec)
    (lasting : 0 < (spec.resolve session.settings.toastDuration).duration) :
    let after :=
      (session.dispatch
        (.start ⟨.showToast toast id, params, onError⟩ 0)).1
    AwaitsHide
        (some
          (session.agenda.now +
            (spec.resolve session.settings.toastDuration).duration))
        after ∧
      KeepsToasts session after ∧ after.wiring = session.wiring := by
  intro after
  let action : Action := ⟨.showToast toast id, params, onError⟩
  let ticket := session.agenda.nextTicket
  let resolved := spec.resolve session.settings.toastDuration
  let begun := session.turn.note (.performed ticket action 0)
  let shown := begun.showing wiring (.showToast resolved)
  let report : Occurrence :=
    .finished session.agenda.now ticket .dispatched .completed
  have keys : shown.toastTimer.Keys shown.agenda fun _ => () :=
    waits.turn.keys
  have advanced :
      session.turn.advanceStage ticket (.start action 0) =
        (shown.armToast resolved.duration, .ended .completed) :=
    advanceStage_of_performed wired
      (perform_showToast begun (calm _) found params onError 0)
  have sameTime :
      (shown.armToast resolved.duration).agenda.now = session.agenda.now := by
    rw [armToast_eq keys]
    rfl
  have ended :
      ((shown.awaiting resolved.duration).note report).hasEnded ticket =
        true := by
    simp [hasEnded, Agenda.isLive, Agenda.entries, awaiting, note, shown,
      showing, begun, turn, ticket]
  have isLast : after = (shown.awaiting resolved.duration).note report := by
    refine dispatch_of_ended waits.idle advanced ?_
    rw [sameTime]
    exact .stepped (step?_note_armToast keys lasting report)
      (.rested (isAtRest_of_ended rfl ended))
  have journal :
      after.journal =
        session.journal ++ .performed ticket action 0 ::
          (session.shownBy wiring (.showToast resolved) ++ [report]) := by
    simp [isLast, awaiting, shown, showing, begun, note, turn, shownBy]
  rw [isLast] at journal ⊢
  refine ⟨.of_single rfl rfl rfl (Nat.lt_succ_self _) ?_,
    .of_action rfl rfl rfl journal, rfl⟩
  exact Nat.lt_add_of_pos_right lasting

/-- After a toast is hidden, none is to be hidden any more. -/
theorem dispatch_hideToast :
    let after :=
      (session.dispatch (.start ⟨.hideToast, params, onError⟩ 0)).1
    AwaitsHide none after ∧
      KeepsToasts session after ∧ after.wiring = session.wiring := by
  intro after
  let action : Action := ⟨.hideToast, params, onError⟩
  let ticket := session.agenda.nextTicket
  let begun := session.turn.note (.performed ticket action 0)
  let hidden := begun.cleared.showing wiring .hideToast
  let report : Occurrence :=
    .finished session.agenda.now ticket .dispatched .completed
  have keys : begun.toastTimer.Keys begun.agenda fun _ => () :=
    waits.turn.keys
  have advanced :
      session.turn.advanceStage ticket (.start action 0) =
        (hidden, .ended .completed) :=
    advanceStage_of_performed wired
      (perform_hideToast (calm _) keys params onError 0)
  have isLast : after = hidden.note report :=
    dispatch_of_settled waits.idle advanced rfl rfl
  have journal :
      after.journal =
        session.journal ++ .performed ticket action 0 ::
          (session.shownBy wiring .hideToast ++ [report]) := by
    simp [isLast, hidden, showing, cleared, begun, note, turn, shownBy]
  rw [isLast] at journal ⊢
  exact ⟨.of_none rfl rfl rfl, .of_action rfl rfl rfl journal, rfl⟩

end

/-- An action that is passed over leaves the toast as it is. -/
theorem dispatch_of_skipped
    (waits : AwaitsHide due? session)
    {stage : Stage}
    {skipped : Session}
    {news : List Occurrence}
    (advanced :
      session.turn.advanceStage session.agenda.nextTicket stage =
        (skipped, .ended .skipped))
    (noted :
      skipped = { session.turn with journal := session.journal ++ news })
    (quiet :
      ∀ occurrence ∈ news,
        occurrence.elapsed? = none ∧ occurrence.hidesToast = false) :
    let after := (session.dispatch stage).1
    AwaitsHide due? after ∧
      KeepsToasts session after ∧ after.wiring = session.wiring := by
  subst noted
  intro after
  let report : Occurrence :=
    .finished session.agenda.now session.agenda.nextTicket .dispatched
      .skipped
  have isLast :
      after =
        { session.turn with
          journal := session.journal ++ news ++ [report] } :=
    dispatch_of_settled waits.idle advanced rfl waits.hasEnded
  have journal : after.journal = session.journal ++ (news ++ [report]) := by
    rw [isLast, List.append_assoc]
  have begins :
      (news ++ [report]).head?.any Occurrence.hidesToast = false := by
    cases news with
    | nil =>
        rfl
    | cons first news =>
        exact (quiet first List.mem_cons_self).2
  have noEnds :
      ∀ occurrence ∈ news ++ [report], occurrence.elapsed? = none := by
    intro occurrence member
    rcases List.mem_append.mp member with isNews | isReport
    · exact (quiet occurrence isNews).1
    · rw [List.mem_singleton.mp isReport]
      rfl
  have turn := waits.turn
  rw [isLast] at journal ⊢
  exact ⟨⟨turn.keys, turn.idle, turn.armed, turn.ahead⟩,
    .of_news rfl rfl rfl journal begins noEnds, rfl⟩

/-- A session that is inert passes every action over. -/
theorem dispatch_of_inert
    (waits : AwaitsHide due? session)
    (inert : session.wiring = none)
    (action : Action) :
    let after := (session.dispatch (.start action 0)).1
    AwaitsHide due? after ∧
      KeepsToasts session after ∧ after.wiring = session.wiring := by
  have isInert : session.turn.wiring = none :=
    inert
  have unchanged :
      session.turn =
        { session.turn with journal := session.journal ++ [] } := by
    rw [List.append_nil]
    rfl
  have advanced :
      session.turn.advanceStage session.agenda.nextTicket (.start action 0) =
        (session.turn, .ended .skipped) := by
    simp only [advanceStage, Nat.not_lt_zero, if_false, isInert]
  exact dispatch_of_skipped waits advanced unchanged fun _ isNews =>
    absurd isNews List.not_mem_nil

/-- No toast is shown that is neither given nor found. -/
theorem dispatch_of_no_toast
    (waits : AwaitsHide due? session)
    {wiring : Wiring}
    (wired : session.wiring = some wiring)
    {toast : Option ToastSpec}
    {id : Option String}
    (absent : session.app.toastOf? toast id = none)
    (params : Entries Value)
    (onError : Option Action) :
    let after :=
      (session.dispatch
        (.start ⟨.showToast toast id, params, onError⟩ 0)).1
    AwaitsHide due? after ∧
      KeepsToasts session after ∧ after.wiring = session.wiring := by
  let action : Action := ⟨.showToast toast id, params, onError⟩
  let begun :=
    session.turn.note (.performed session.agenda.nextTicket action 0)
  have isWired : session.turn.wiring = some wiring :=
    wired
  obtain ⟨failure, isAbsent, passedOver⟩ :=
    overlay_of_no_toast absent "showToast needs toast or toastId"
  have performed : begun.perform wiring action 0 = begun.refuse failure := by
    have notFound :
        overlay toast id begun.app.toasts .toastNotFound
            "showToast needs toast or toastId" =
          .error failure :=
      isAbsent
    change begun.showToast wiring toast id = _
    simp only [showToast, notFound]
  have advanced :
      session.turn.advanceStage session.agenda.nextTicket (.start action 0) =
        (begun, .ended .skipped) := by
    simp only [advanceStage, Nat.not_lt_zero, if_false, isWired]
    change
      ((begun.perform wiring action 0).session,
        conclude action 0 (begun.perform wiring action 0).outcome) = _
    rw [performed]
    simp only [refuse, conclude, passedOver, if_true]
  refine dispatch_of_skipped waits advanced rfl fun occurrence isNews => ?_
  rw [List.mem_singleton.mp isNews]
  exact ⟨rfl, rfl⟩

/-! ## Wiring and time -/

theorem awaitsHide_wire
    (waits : AwaitsHide due? session)
    (wiring : Wiring) :
    AwaitsHide due? (session.wire wiring) ∧
      KeepsToasts session (session.wire wiring) :=
  ⟨⟨waits.keys, waits.idle, waits.armed, waits.ahead⟩, rfl, rfl, rfl, rfl⟩

/-- A session that goes inert hides no toast any more. -/
theorem awaitsHide_destroy
    (waits : AwaitsHide due? session) :
    AwaitsHide none session.destroy ∧
      KeepsToasts session session.destroy := by
  unfold destroy
  rw [disarmToast_eq_cleared waits.keys]
  exact ⟨.of_none rfl rfl rfl, rfl, rfl, rfl, rfl⟩

theorem AwaitsHide.deadlines
    (waits : AwaitsHide due? session) :
    session.agenda.armed.map Armed.deadline = due?.toList := by
  have firsts := congrArg (List.map Prod.fst) waits.armed
  simpa [Function.comp_def] using firsts

theorem AwaitsHide.length_entries_le_one
    (waits : AwaitsHide due? session) :
    session.agenda.entries.length ≤ 1 := by
  have armed := congrArg List.length waits.deadlines
  rw [List.length_map] at armed
  rw [Agenda.entries, waits.idle, List.nil_append, List.length_map, armed]
  cases due? <;> simp

/-- The clock jumps to the end of the toast, and to nothing else. -/
theorem AwaitsHide.deadline?
    (waits : AwaitsHide due? session) :
    session.agenda.deadline? = due? := by
  rw [Agenda.deadline?, waits.deadlines]
  cases due? <;> rfl

/-- Before the end of the toast, time does nothing but pass. -/
theorem advance_of_early
    (waits : AwaitsHide due? session)
    {time : Nat}
    (early : ∀ due ∈ due?, session.agenda.now + time < due) :
    session.advance time =
      { session with
        agenda :=
          { session.agenda with now := session.agenda.now + time } } := by
  have rests :
      clockwork.isAtRest
          (fun _ deadline => decide (deadline ≤ session.agenda.now + time))
          session =
        true := by
    refine isAtRest_of_idle waits.idle fun deadline isDeadline => ?_
    rw [waits.deadline?] at isDeadline
    exact decide_eq_false (Nat.not_le.mpr (early deadline isDeadline))
  have later :
      ∀ waiting ∈ session.agenda.armed,
        session.agenda.now + time < waiting.deadline := by
    intro waiting member
    have isDue := List.mem_map_of_mem (f := Armed.deadline) member
    rw [waits.deadlines, Option.mem_toList] at isDue
    exact early _ isDue
  unfold advance Clockwork.runTo
  rw [(Clockwork.ComesToRest.rested rests).run (Nat.zero_le _)]
  change { session with agenda := session.agenda.moveTo _ } = _
  rw [Agenda.moveTo_of_early later, Nat.max_eq_right (Nat.le_add_right _ _)]

/-- What the journal has of the end of a toast. -/
def endNews
    (wiring? : Option Wiring)
    (time : Nat) :
    List Occurrence :=
  .toastElapsed time ::
    if wiring?.any (fun wiring => wiring.presenter.isShowing) then
      [.presented time .hideToast]
    else
      []

theorem toastEnds_endNews
    (wiring? : Option Wiring)
    (time : Nat) :
    toastEnds (endNews wiring? time) =
      [(time, wiring?.any fun wiring => wiring.presenter.isShowing)] := by
  unfold endNews
  split
  · rename_i shows
    rw [shows]
    rfl
  · rename_i silent
    rw [Bool.not_eq_true] at silent
    rw [silent]
    rfl

/-- At its end, a toast is hidden by whatever the session is wired to. -/
theorem runErrand_hideToast
    (session : Session) :
    session.runErrand .hideToast =
      { session with
        journal :=
          session.journal ++
            endNews session.wiring session.agenda.now } := by
  unfold runErrand endNews
  cases isWired : session.wiring with
  | none =>
      simp [note, isWired]
  | some wiring =>
      -- A presenter that crashes has shown what it was given.
      cases shows : wiring.presenter.isShowing <;>
        simp [note, isWired, present, shows]

/-- The time of a toast is over, and no other is to be hidden later. -/
theorem advance_of_due
    {due time : Nat}
    (waits : AwaitsHide (some due) session)
    (past : due ≤ session.agenda.now + time) :
    session.advance time =
      { session with
        agenda :=
          { session.agenda with
            now := session.agenda.now + time,
            ready := [],
            armed := [] },
        journal := session.journal ++ endNews session.wiring due } := by
  let mayMove : Session → Nat → Bool :=
    fun _ deadline => decide (deadline ≤ session.agenda.now + time)
  let empty : Agenda Job :=
    { session.agenda with now := due, ready := [], armed := [] }
  let last : Session :=
    { session with
      agenda := empty,
      journal := session.journal ++ endNews session.wiring due }
  obtain ⟨ticket, armed⟩ :
      ∃ ticket,
        session.agenda.armed =
          [⟨due, ⟨ticket, .timer (.elapsed .hideToast)⟩⟩] := by
    obtain ⟨⟨deadline, ticket, job⟩, isArmed, same⟩ :=
      List.map_eq_singleton_iff.mp waits.armed
    cases same
    exact ⟨ticket, isArmed⟩
  have ahead : session.agenda.now < due :=
    waits.ahead due rfl
  have jumps :
      clockwork.moveTo due session =
        { session with
          agenda :=
            { empty with
              ready := [⟨ticket, .timer (.elapsed .hideToast)⟩] } } := by
    change { session with agenda := session.agenda.moveTo due } = _
    simp [Agenda.moveTo, waits.idle, armed, Nat.max_eq_right ahead.le, empty]
  have hides : clockwork.step? (clockwork.moveTo due session) = some last := by
    rw [jumps]
    change
      some
          (({ session with agenda := empty } : Session).runErrand
            .hideToast) =
        some last
    rw [runErrand_hideToast]
  have rests : clockwork.isAtRest mayMove last = true :=
    isAtRest_of_idle rfl fun deadline isDeadline =>
      absurd isDeadline (Option.not_mem_none deadline)
  have comes : clockwork.ComesToRest mayMove 2 session last :=
    .jumped (step?_of_idle waits.idle) waits.deadline? (decide_eq_true past)
      (.stepped hides (.rested rests))
  unfold advance Clockwork.runTo
  rw [comes.run (two_le_effort session)]
  change { last with agenda := empty.moveTo _ } = _
  simp [Agenda.moveTo, empty, last, past]

/-- The end of a toast that is waited for, if it comes up to a time. -/
def endsUpTo
    (due? : Option Nat)
    (time : Nat)
    (shows : Bool) :
    List (Nat × Bool) :=
  (due?.filter fun due => due ≤ time).toList.map fun due => (due, shows)

theorem mem_endsUpTo_iff
    {due? : Option Nat}
    {time due : Nat}
    {seen shows : Bool} :
    (due, shows) ∈ endsUpTo due? time seen ↔
      due? = some due ∧ due ≤ time ∧ seen = shows := by
  simp [endsUpTo, and_assoc]

theorem pairwise_endsUpTo
    (due? : Option Nat)
    (time : Nat)
    (shows : Bool) :
    (endsUpTo due? time shows).Pairwise
      fun first second => first.1 < second.1 := by
  unfold endsUpTo
  cases due?.filter fun due => decide (due ≤ time) with
  | none =>
      exact List.Pairwise.nil
  | some due =>
      exact List.pairwise_singleton _ _

/-- While time passes, the toast that is waited for is hidden at its end. -/
theorem awaitsHide_advance
    (waits : AwaitsHide due? session)
    (time : Nat) :
    let now := session.agenda.now + time
    let after := session.advance time
    AwaitsHide (due?.filter fun due => now < due) after ∧
      (after.app = session.app ∧ after.settings = session.settings ∧
        after.wiring = session.wiring ∧ after.agenda.now = now) ∧
      toastEnds after.journal =
        toastEnds session.journal ++
          endsUpTo due? now
            (session.wiring.any fun wiring =>
              wiring.presenter.isShowing) := by
  intro now after
  have keys := waits.keys
  unfold endsUpTo
  by_cases past : ∃ due ∈ due?, due ≤ now
  · obtain ⟨due, rfl, past⟩ := past
    have waited : (some due).filter (fun due => decide (now < due)) = none := by
      simp [past]
    have ended :
        (some due).filter (fun due => decide (due ≤ now)) = some due := by
      simp [past]
    have isAfter : after = _ :=
      advance_of_due waits past
    rw [isAfter, waited, ended]
    refine ⟨⟨?_, rfl, rfl, ?_⟩, ⟨rfl, rfl, rfl, rfl⟩, ?_⟩
    · exact keys.of_entries (Agenda.isOrderly_of_entries_eq_nil rfl)
        (Nat.le_refl _) fun entry member => absurd member List.not_mem_nil
    · exact fun due isDue => absurd isDue (Option.not_mem_none due)
    · rw [toastEnds_append rfl, toastEnds_endNews]
      rfl
  · have early : ∀ due ∈ due?, now < due := fun due isDue =>
      Nat.not_le.mp fun le => past ⟨due, isDue, le⟩
    have waited : due?.filter (fun due => decide (now < due)) = due? := by
      cases due? with
      | none =>
          rfl
      | some due =>
          simp [early due rfl]
    have ended : due?.filter (fun due => decide (due ≤ now)) = none :=
      Option.filter_eq_none_iff.mpr fun due isDue => by
        simpa using early due isDue
    have isAfter : after = _ :=
      advance_of_early waits early
    rw [isAfter, waited, ended]
    refine ⟨⟨?_, waits.idle, waits.armed, early⟩, ⟨rfl, rfl, rfl, rfl⟩, ?_⟩
    · exact ⟨⟨keys.orderly.distinct, keys.orderly.given⟩,
        keys.distinctKeys, keys.distinctTickets, keys.given, keys.listed⟩
    · simp

end Session

end Mockup
