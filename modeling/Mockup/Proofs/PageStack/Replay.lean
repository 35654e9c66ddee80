import Mathlib.Data.List.Nodup
import Mockup.Proofs.PageStack.BoundedList

namespace Mockup

/-!
# Events as a log of the page stack

A listener that starts from a copy of the entries and follows the events it
hears has the entries of the stack after every update.  An event describes the
stack at the moment of its change, and every event that a batch of operations
has queued reaches every listener once, in order.
-/

/-- How a copy of the entries follows an event. -/
def PageEvent.replay
    (copy : List PageEntry)
    (event : PageEvent) :
    List PageEntry :=
  let entry := PageEntry.mk event.pageId (event.params.getD [])
  match event.change with
  | .push =>
      (copy ++ [entry]).rtake event.size
  | .pop =>
      copy.take event.size
  | .replace =>
      copy.dropLast ++ [entry]
  | .clear =>
      []

/-- The events that a listener received, in order. -/
def PageDelivery.received
    (number : Nat)
    (deliveries : List PageDelivery) :
    List PageEvent :=
  (deliveries.filter fun delivery =>
    delivery.listener.number = number).map PageDelivery.event

theorem PageDelivery.received_append
    (number : Nat)
    (earlier later : List PageDelivery) :
    received number (earlier ++ later) =
      received number earlier ++ received number later := by
  simp [received]

namespace PageStack

/-- Carry out a batch of operations, and deliver what it has queued. -/
def update
    (stack : PageStack)
    (batch : List PageOperation) :
    PageStack × List PageDelivery :=
  (stack.performAll batch).deliver

/-- Carry out one update after another, with all that was delivered. -/
def updateAll
    (stack : PageStack) :
    List (List PageOperation) → PageStack × List PageDelivery
  | [] =>
      (stack, [])
  | batch :: batches =>
      let (after, deliveries) := stack.update batch
      let (last, later) := updateAll after batches
      (last, deliveries ++ later)

/-! ## Ends of lists -/

theorem rtake_length_rtake
    (entries : List PageEntry)
    (count : Nat) :
    entries.rtake (entries.rtake count).length = entries.rtake count := by
  have same :
      entries.length - (entries.length - (entries.length - count)) =
        entries.length - count := by
    omega
  rw [List.rtake, List.rtake, List.length_drop, same]

theorem take_length_rdrop
    (entries : List PageEntry)
    (count : Nat) :
    entries.take (entries.rdrop count).length = entries.rdrop count := by
  have same :
      min (entries.length - count) entries.length =
        entries.length - count := by
    omega
  rw [List.rdrop, List.length_take, same]

/-! ## Listeners -/

/-- Every listener has a number of its own, which is not given again. -/
structure IsNumbered
    (stack : PageStack) :
    Prop where
  distinct :
    (stack.listeners.map PageListener.number).Nodup
  given :
    ∀ listener ∈ stack.listeners,
      listener.number < stack.nextListener

section

variable {stack : PageStack}

theorem isListening_iff
    (stack : PageStack)
    (number : Nat) :
    stack.isListening number = true ↔
      number ∈ stack.listeners.map PageListener.number := by
  simp [isListening]

/-- What listeners there are after an operation. -/
theorem listeners_perform
    (kept : IsKept stack)
    (operation : PageOperation) :
    (∃ name crash?, operation = .listen name crash?) ∨
      ((stack.perform operation).1.listeners.Sublist stack.listeners ∧
        (stack.perform operation).1.nextListener =
          stack.nextListener) := by
  have performed := performs kept operation
  generalize stack.perform operation = result at performed ⊢
  cases performed with
  | @listened name crash? =>
      exact Or.inl ⟨name, crash?, rfl⟩
  | unlistened =>
      exact Or.inr ⟨List.filter_sublist, rfl⟩
  | destroyed =>
      exact Or.inr ⟨List.nil_sublist _, rfl⟩
  | refused _ | stayed =>
      exact Or.inr ⟨.refl _, rfl⟩
  | pushed _ | popped _ _ | poppedTo _ _ | replaced _ _ | cleared =>
      refine Or.inr ⟨?_, ?_⟩
      · rw [listeners_announce]
        exact .refl _
      · rw [nextListener_announce]
        rfl

theorem IsNumbered.perform
    (numbered : IsNumbered stack)
    (kept : IsKept stack)
    (operation : PageOperation) :
    IsNumbered (stack.perform operation).1 := by
  rcases listeners_perform kept operation with
      ⟨name, crash?, rfl⟩ | ⟨sublist, nextListener⟩
  · have isNew :
        stack.nextListener ∉ stack.listeners.map PageListener.number := by
      intro member
      obtain ⟨listener, isThere, same⟩ := List.mem_map.mp member
      have given := numbered.given listener isThere
      omega
    refine ⟨?_, ?_⟩
    · simpa [PageStack.perform, listen, List.nodup_append,
        numbered.distinct] using isNew
    · intro listener member
      rcases List.mem_append.mp member with isOld | isLast
      · exact Nat.lt_succ_of_lt (numbered.given listener isOld)
      · rw [List.mem_singleton] at isLast
        rw [isLast]
        exact Nat.lt_succ_self stack.nextListener
  · refine ⟨?_, ?_⟩
    · exact (sublist.map PageListener.number).nodup numbered.distinct
    · intro listener member
      rw [nextListener]
      exact numbered.given listener (sublist.subset member)

/-- The stack is kept, and it has given so many numbers to listeners. -/
structure IsSound
    (given : Nat)
    (stack : PageStack) :
    Prop where
  kept :
    IsKept stack
  numbered :
    IsNumbered stack
  given :
    given ≤ stack.nextListener

theorem IsSound.perform
    {given : Nat}
    (sound : IsSound given stack)
    (operation : PageOperation) :
    IsSound given (stack.perform operation).1 where
  kept :=
    sound.kept.perform operation
  numbered :=
    sound.numbered.perform sound.kept operation
  given := by
    have given := sound.given
    rcases listeners_perform sound.kept operation with
        ⟨name, crash?, rfl⟩ | ⟨_, nextListener⟩
    · exact Nat.le_succ_of_le given
    · rw [nextListener]
      exact given

theorem IsSound.performAll
    {given : Nat}
    (sound : IsSound given stack)
    (operations : List PageOperation) :
    IsSound given (stack.performAll operations) := by
  induction operations generalizing stack with
  | nil =>
      exact sound
  | cons operation operations inductionHypothesis =>
      exact inductionHypothesis (sound.perform operation)

/-- One who listens after an operation, and is not new, listened before it. -/
theorem isListening_of_perform
    {number : Nat}
    (sound : IsSound (number + 1) stack)
    {operation : PageOperation}
    (listening :
      (stack.perform operation).1.isListening number = true) :
    stack.isListening number = true := by
  rw [isListening_iff] at listening ⊢
  rcases listeners_perform sound.kept operation with
      ⟨name, crash?, rfl⟩ | ⟨sublist, _⟩
  · have isOld : number ≠ stack.nextListener :=
      Nat.ne_of_lt sound.given
    simpa [PageStack.perform, listen, isOld] using listening
  · exact (sublist.map PageListener.number).subset listening

theorem isListening_of_performAll
    {number : Nat}
    (sound : IsSound (number + 1) stack)
    (operations : List PageOperation)
    (listening :
      (stack.performAll operations).isListening number = true) :
    stack.isListening number = true := by
  induction operations generalizing stack with
  | nil =>
      exact listening
  | cons operation operations inductionHypothesis =>
      have still :
          (stack.perform operation).1.isListening number = true :=
        inductionHypothesis (sound.perform operation) listening
      exact isListening_of_perform sound still

/-! ## One operation -/

/-- While anyone listens, an operation queues what its change replays to. -/
theorem queued_perform
    {number : Nat}
    (sound : IsSound (number + 1) stack)
    {operation : PageOperation}
    (listening :
      (stack.perform operation).1.isListening number = true) :
    ∃ events,
      (stack.perform operation).1.queued = stack.queued ++ events ∧
        events.foldl PageEvent.replay stack.entries =
          (stack.perform operation).1.entries := by
  have listened := isListening_of_perform sound listening
  have heard : ∀ entries, (stack.holding entries).listeners ≠ [] := by
    rintro entries (isEmpty : stack.listeners = [])
    simp [isListening, isEmpty] at listened
  have performed := performs sound.kept operation
  generalize stack.perform operation = result at performed listening ⊢
  cases performed with
  | refused _ | stayed | listened | unlistened =>
      exact ⟨[], (List.append_nil _).symm, rfl⟩
  | destroyed =>
      simp [isListening, destroy] at listening
  | @pushed pageId params _ =>
      refine ⟨_, queued_announce _ _ _ _ (heard _), ?_⟩
      rw [entries_announce]
      exact rtake_length_rtake _ _
  | popped _ _ =>
      refine ⟨_, queued_announce _ _ _ _ (heard _), ?_⟩
      rw [entries_announce]
      exact take_length_rdrop _ _
  | @poppedTo entry earlier later shape _ =>
      refine ⟨_, queued_announce _ _ _ _ (heard _), ?_⟩
      rw [entries_announce]
      have taken :
          stack.entries.take (earlier ++ [entry]).length =
            earlier ++ [entry] := by
        have parts : stack.entries = (earlier ++ [entry]) ++ later := by
          simp [shape]
        rw [parts, List.take_left]
      exact taken
  | replaced _ _ | cleared =>
      refine ⟨_, queued_announce _ _ _ _ (heard _), ?_⟩
      rw [entries_announce]
      rfl

/-! ## Batches -/

/-- While someone stays, a batch queues what its changes replay to. -/
theorem queued_performAll
    {number : Nat}
    (sound : IsSound (number + 1) stack)
    (operations : List PageOperation)
    (listening :
      (stack.performAll operations).isListening number = true) :
    ∃ events,
      (stack.performAll operations).queued = stack.queued ++ events ∧
        events.foldl PageEvent.replay stack.entries =
          (stack.performAll operations).entries := by
  induction operations generalizing stack with
  | nil =>
      exact ⟨[], (List.append_nil _).symm, rfl⟩
  | cons operation operations inductionHypothesis =>
      have next := sound.perform operation
      have still :
          (stack.perform operation).1.isListening number = true :=
        isListening_of_performAll next operations listening
      obtain ⟨events, queued, replayed⟩ :=
        queued_perform sound still
      obtain ⟨later, laterQueued, laterReplayed⟩ :=
        inductionHypothesis next listening
      refine ⟨events ++ later, ?_, ?_⟩
      · rw [performAll_cons, laterQueued, queued, List.append_assoc]
      · rw [performAll_cons, List.foldl_append, replayed, laterReplayed]

/-! ## Updates -/

/-- Whoever listens receives every queued event once, whoever crashes. -/
theorem received_deliver
    (numbered : IsNumbered stack)
    {number : Nat}
    (listening : stack.isListening number = true) :
    PageDelivery.received number stack.deliver.2 = stack.queued := by
  have once :
      (stack.listeners.filter fun listener =>
        listener.number = number).length = 1 := by
    have count :=
      List.count_eq_one_of_mem numbered.distinct
        ((isListening_iff stack number).mp listening)
    rw [List.count, List.countP_map, List.countP_eq_length_filter] at count
    simpa [Function.comp_def, beq_eq_decide] using count
  have each :
      ∀ event,
        PageDelivery.received number
            (stack.listeners.map fun listener =>
              listener.hear event stack.currentPageId) =
          [event] := by
    intro event
    simp [PageDelivery.received, PageListener.hear, List.filter_map,
      Function.comp_def, List.map_const', once]
  have all :
      ∀ events : List PageEvent,
        PageDelivery.received number
            (events.flatMap fun event =>
              stack.listeners.map fun listener =>
                listener.hear event stack.currentPageId) =
          events := by
    intro events
    induction events with
    | nil =>
        rfl
    | cons event events inductionHypothesis =>
        rw [List.flatMap_cons, PageDelivery.received_append, each,
          inductionHypothesis]
        rfl
  exact all stack.queued

theorem IsSound.update
    {given : Nat}
    (sound : IsSound given stack)
    (batch : List PageOperation) :
    IsSound given (stack.update batch).1 where
  kept :=
    let kept := (sound.performAll batch).kept
    ⟨kept.bounded, kept.current, kept.declared⟩
  numbered :=
    let numbered := (sound.performAll batch).numbered
    ⟨numbered.distinct, numbered.given⟩
  given :=
    (sound.performAll batch).given

/-- A listener who stays can follow an update by what it receives. -/
theorem replay_update
    {number : Nat}
    (sound : IsSound (number + 1) stack)
    (delivered : stack.queued = [])
    {batch : List PageOperation}
    (listening : (stack.update batch).1.isListening number = true) :
    (PageDelivery.received number
        (stack.update batch).2).foldl PageEvent.replay stack.entries =
      (stack.update batch).1.entries := by
  have numbered := (sound.performAll batch).numbered
  obtain ⟨events, queued, replayed⟩ :=
    queued_performAll sound batch listening
  rw [delivered, List.nil_append] at queued
  have received :
      PageDelivery.received number (stack.update batch).2 = events :=
    (received_deliver numbered listening).trans queued
  rw [received, replayed]
  rfl

theorem isListening_of_updateAll
    {number : Nat}
    (sound : IsSound (number + 1) stack)
    {batches : List (List PageOperation)}
    (listening :
      (stack.updateAll batches).1.isListening number = true) :
    stack.isListening number = true := by
  induction batches generalizing stack with
  | nil =>
      exact listening
  | cons batch batches inductionHypothesis =>
      have still : (stack.update batch).1.isListening number = true :=
        inductionHypothesis (sound.update batch) listening
      exact isListening_of_performAll sound batch still

/-- A listener who stays can follow any updates by what it receives. -/
theorem replay_updateAll
    {number : Nat}
    (sound : IsSound (number + 1) stack)
    (delivered : stack.queued = [])
    {batches : List (List PageOperation)}
    (listening :
      (stack.updateAll batches).1.isListening number = true) :
    (PageDelivery.received number
        (stack.updateAll batches).2).foldl PageEvent.replay
          stack.entries =
      (stack.updateAll batches).1.entries := by
  induction batches generalizing stack with
  | nil =>
      rfl
  | cons batch batches inductionHypothesis =>
      have next := sound.update batch
      have still : (stack.update batch).1.isListening number = true :=
        isListening_of_updateAll next listening
      have first := replay_update sound delivered still
      have others := inductionHypothesis next rfl listening
      simp only [updateAll, PageDelivery.received_append,
        List.foldl_append]
      rw [first, others]

/-- Updates leave the stack sound, with nothing left to deliver. -/
theorem IsSound.updateAll
    {given : Nat}
    (sound : IsSound given stack)
    (delivered : stack.queued = [])
    (batches : List (List PageOperation)) :
    IsSound given (stack.updateAll batches).1 ∧
      (stack.updateAll batches).1.queued = [] := by
  induction batches generalizing stack with
  | nil =>
      exact ⟨sound, delivered⟩
  | cons batch batches inductionHypothesis =>
      exact inductionHypothesis (sound.update batch) rfl

end

/-- A stack that has just been made is sound, and no one has listened yet. -/
theorem isSound_ofApp
    (app : AppDocument)
    (requested : Nat) :
    IsSound 0 (ofApp app requested) ∧
      (ofApp app requested).queued = [] := by
  have kept :=
    (isKept_empty app requested).perform (.push app.initialPageId [])
  have silent :
      (ofApp app requested).listeners = [] ∧
        (ofApp app requested).queued = [] := by
    simp only [ofApp, push]
    split
    · exact ⟨rfl, rfl⟩
    · exact ⟨rfl, rfl⟩
  refine ⟨⟨kept, ⟨?_, ?_⟩, Nat.zero_le _⟩, silent.2⟩
  · simp [silent.1]
  · simp [silent.1]

/--
Whoever listens from some moment between two updates on, with a copy of the
entries at that moment, and replays on the copy every event that it receives,
has the entries of the stack after every later update, as long as it stays.
An update may fail in part, others may come and go at any time, and anyone may
crash on any event.
-/
theorem replay_received_eq_entries
    (app : AppDocument)
    (requested : Nat)
    (earlier later : List (List PageOperation))
    (name : String)
    (crash? : PageEvent → String → Option String)
    (stays :
      let joined :=
        ((ofApp app requested).updateAll earlier).1.listen name crash?
      (joined.1.updateAll later).1.isListening joined.2 = true) :
    let joined :=
      ((ofApp app requested).updateAll earlier).1.listen name crash?
    let played := joined.1.updateAll later
    (PageDelivery.received joined.2 played.2).foldl PageEvent.replay
        joined.1.entries =
      played.1.entries := by
  obtain ⟨sound, delivered⟩ := isSound_ofApp app requested
  obtain ⟨before, settled⟩ := sound.updateAll delivered earlier
  -- The number of the new listener is the last one that was given.
  have after := before.perform (.listen name crash?)
  have joined :
      IsSound
        (((ofApp app requested).updateAll earlier).1.nextListener + 1)
        (((ofApp app requested).updateAll earlier).1.listen name
          crash?).1 :=
    ⟨after.kept, after.numbered, Nat.le_refl _⟩
  exact replay_updateAll joined settled stays

/-- An application with two pages. -/
def twoPages : AppDocument where
  pages :=
    [⟨"home", "", .null⟩, ⟨"cart", "", .null⟩]
  router :=
    { initialPageId := "home" }

/-- A listener who crashes on every event. -/
def faultyListener : PageOperation :=
  .listen "faulty" fun _ _ => some "faulty listener"

/--
A copy follows pushes beyond the capacity, failures, and a lone batch, beside
a listener who crashes four times before it goes.
-/
theorem replay_received_eq_entries_twoPages :
    let joined :=
      ((ofApp twoPages 2).updateAll
        [[faultyListener, .push "cart" []]]).1.listen "copy"
    let played :=
      joined.1.updateAll
        [[.push "home" [], .push "cart" [], .push "nowhere" []],
          [.pop 9, .pop 1, .listen "late" fun _ _ => none,
            .replace "cart" []],
          [.clear, .replace "home" [], .unlisten 0],
          [.push "home" [("tab", .null)], .popTo "cart"]]
    played.1.isListening joined.2 = true ∧
      (PageDelivery.received joined.2 played.2).length = 6 ∧
      (played.2.filter fun delivery =>
        !delivery.outcome.isOk).length = 4 ∧
      (PageDelivery.received joined.2 played.2).foldl PageEvent.replay
          joined.1.entries =
        played.1.entries ∧
      played.1.entries.map PageEntry.pageId = ["home"] := by
  intro joined played
  have stays : played.1.isListening joined.2 = true := by
    decide +kernel
  refine ⟨stays, by decide +kernel, by decide +kernel, ?_,
    by decide +kernel⟩
  exact replay_received_eq_entries twoPages 2 _ _ "copy" _ stays

end PageStack

end Mockup
