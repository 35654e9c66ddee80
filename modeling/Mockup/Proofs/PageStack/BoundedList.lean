import Mathlib.Data.List.DropRight
import Mockup.Proofs.PageStack.Operations

namespace Mockup

/-!
# The page stack as a bounded list

A list of pages with room for so many knows no index and no queue.  A page
stack does to its entries what is done to such a list, and it tells the same;
its current entry is always the last one.
-/

/--
What an operation does to a list of pages that has room for so many: a push
keeps the last of them, a pop leaves at least one, and popping to a page
leaves its first occurrence on top.
-/
def PageOperation.visit
    (app : AppDocument)
    (room : Nat)
    (entries : List PageEntry) :
    PageOperation → List PageEntry × Except Failure (Option Nat)
  | .push pageId params =>
      if (app.page? pageId).isSome then
        ((entries ++ [PageEntry.mk pageId params]).rtake room, .ok none)
      else
        (entries, .error (.pageNotFound pageId))
  | .pop count =>
      if count = 0 then
        (entries, .ok (some 0))
      else if entries.length ≤ 1 then
        (entries, .error .stackFloor)
      else
        let popped := min count (entries.length - 1)
        (entries.rdrop popped, .ok (some popped))
  | .popTo pageId =>
      let isOther := fun entry : PageEntry => decide (entry.pageId ≠ pageId)
      match entries.dropWhile isOther with
      | [] =>
          (entries, .error (.pageNotInStack pageId))
      | found :: _ =>
          (entries.takeWhile isOther ++ [found], .ok none)
  | .replace pageId params =>
      if entries.isEmpty then
        (entries, .error .emptyStack)
      else if (app.page? pageId).isSome then
        (entries.dropLast ++ [PageEntry.mk pageId params], .ok none)
      else
        (entries, .error (.pageNotFound pageId))
  | .clear =>
      ([], .ok none)
  | .destroy =>
      ([], .ok none)
  | .listen _ _ =>
      (entries, .ok none)
  | .unlisten _ =>
      (entries, .ok none)

/-- Whether an operation drops all entries. -/
def PageOperation.dropsAll : PageOperation → Bool
  | .clear =>
      true
  | .destroy =>
      true
  | _ =>
      false

namespace PageStack

/-- The index of the last entry, unless there is none. -/
def lastIndex? : List PageEntry → Option Nat
  | [] =>
      none
  | _ :: others =>
      some others.length

theorem lastIndex?_of_length
    {entries : List PageEntry}
    {index : Nat}
    (length : entries.length = index + 1) :
    lastIndex? entries = some index := by
  cases entries with
  | nil =>
      simp at length
  | cons first others =>
      simp only [List.length_cons, Nat.add_right_cancel_iff] at length
      simp [lastIndex?, length]

theorem lastIndex?_eq_none_iff
    (entries : List PageEntry) :
    lastIndex? entries = none ↔ entries = [] := by
  cases entries <;> simp [lastIndex?]

theorem length_of_lastIndex?
    {entries : List PageEntry}
    {index : Nat}
    (isLast : lastIndex? entries = some index) :
    entries.length = index + 1 := by
  cases entries with
  | nil =>
      cases isLast
  | cons first others =>
      cases isLast
      rfl

/-- The stack with other entries, the last of them current. -/
def holding
    (stack : PageStack)
    (entries : List PageEntry) :
    PageStack :=
  { stack with entries := entries, current := lastIndex? entries }

/-- The entries fit, name pages of the application, and the last is current. -/
structure IsKept
    (stack : PageStack) :
    Prop where
  bounded :
    stack.entries.length ≤ stack.capacity
  current :
    stack.current = lastIndex? stack.entries
  declared :
    ∀ entry ∈ stack.entries, (stack.app.page? entry.pageId).isSome

/-- What an operation can come to, on a stack that is kept. -/
inductive Performs
    (stack : PageStack) :
    PageOperation → PageStack × Except Failure (Option Nat) → Prop where
  | refused
      {operation : PageOperation}
      {failure : Failure} :
      operation.visit stack.app stack.capacity stack.entries =
        (stack.entries, .error failure) →
      Performs stack operation (stack, .error failure)
  | pushed
      {pageId : String}
      {params : Entries Value} :
      (stack.app.page? pageId).isSome →
      Performs stack (.push pageId params)
        ((stack.holding
            ((stack.entries ++ [PageEntry.mk pageId params]).rtake
              stack.capacity)).announce .push pageId (some params),
          .ok none)
  | stayed :
      Performs stack (.pop 0) (stack, .ok (some 0))
  | popped
      {count : Nat}
      {pageId : String} :
      0 < count →
      1 < stack.entries.length →
      Performs stack (.pop count)
        ((stack.holding
            (stack.entries.rdrop
              (min count (stack.entries.length - 1)))).announce
            .pop pageId none,
          .ok (some (min count (stack.entries.length - 1))))
  | poppedTo
      {entry : PageEntry}
      {earlier later : List PageEntry} :
      stack.entries = earlier ++ entry :: later →
      (∀ other ∈ earlier, other.pageId ≠ entry.pageId) →
      Performs stack (.popTo entry.pageId)
        ((stack.holding (earlier ++ [entry])).announce
            .pop entry.pageId none,
          .ok none)
  | replaced
      {pageId : String}
      {params : Entries Value} :
      stack.entries ≠ [] →
      (stack.app.page? pageId).isSome →
      Performs stack (.replace pageId params)
        ((stack.holding
            (stack.entries.dropLast ++ [PageEntry.mk pageId params])).announce
            .replace pageId (some params),
          .ok none)
  | cleared :
      Performs stack .clear
        ((stack.holding []).announce .clear "" none, .ok none)
  | destroyed :
      Performs stack .destroy (stack.destroy, .ok none)
  | listened
      {name : String}
      {crash? : PageEvent → String → Option String} :
      Performs stack (.listen name crash?)
        ((stack.listen name crash?).1, .ok none)
  | unlistened
      {number : Nat} :
      Performs stack (.unlisten number)
        (stack.unlisten number, .ok none)

/-! ## What each operation comes to -/

section

variable {stack : PageStack}

theorem performs_push
    (kept : IsKept stack)
    (pageId : String)
    (params : Entries Value) :
    Performs stack (.push pageId params)
      (stack.perform (.push pageId params)) := by
  cases found : stack.app.page? pageId with
  | none =>
      have isRefused :
          stack.perform (.push pageId params) =
            (stack, .error (.pageNotFound pageId)) := by
        simp [perform, push, found, Except.map]
      rw [isRefused]
      exact .refused (by simp [PageOperation.visit, found])
  | some page =>
      -- Only a full stack drops an entry, and then it drops just one.
      have room :
          (stack.entries ++ [PageEntry.mk pageId params]).rtake
              stack.capacity =
            (if stack.capacity ≤ stack.size then
              stack.entries.drop 1
            else
              stack.entries) ++ [PageEntry.mk pageId params] := by
        have bounded := kept.bounded
        have hasRoom := stack.hasRoom
        have size : stack.size = stack.entries.length :=
          rfl
        rw [List.rtake, List.length_append, List.length_singleton]
        by_cases isFull : stack.capacity ≤ stack.size
        · have dropped :
              stack.entries.length + 1 - stack.capacity = 1 := by
            omega
          rw [if_pos isFull, dropped,
            List.drop_append_of_le_length (by omega)]
        · have dropped :
              stack.entries.length + 1 - stack.capacity = 0 := by
            omega
          rw [if_neg isFull, dropped, List.drop_zero]
      have isPushed :
          stack.perform (.push pageId params) =
            ((stack.holding
                ((stack.entries ++ [PageEntry.mk pageId params]).rtake
                  stack.capacity)).announce .push pageId (some params),
              .ok none) := by
        rw [room]
        simp [perform, push, found, Except.map, holding,
          lastIndex?_of_length]
      rw [isPushed]
      exact .pushed (by simp [found])

theorem performs_pop
    (stack : PageStack)
    (count : Nat) :
    Performs stack (.pop count) (stack.perform (.pop count)) := by
  by_cases isNone : count = 0
  · subst isNone
    exact .stayed
  · by_cases atFloor : stack.entries.length ≤ 1
    · have isRefused :
          stack.perform (.pop count) = (stack, .error .stackFloor) := by
        simp [perform, pop, isNone, size, atFloor, Except.map]
      rw [isRefused]
      exact .refused (by simp [PageOperation.visit, isNone, atFloor])
    · let popped := min count (stack.entries.length - 1)
      let left := stack.entries.length - popped
      have kept : 0 < left ∧ left ≤ stack.entries.length := by
        simp only [left, popped]
        omega
      have isCurrent :
          lastIndex? (stack.entries.take left) = some (left - 1) := by
        apply lastIndex?_of_length
        rw [List.length_take]
        omega
      have isPopped :
          stack.perform (.pop count) =
            ((stack.holding (stack.entries.take left)).announce .pop
              (stack.holding (stack.entries.take left)).currentPageId
              none, .ok (some popped)) := by
        simp [perform, pop, isNone, size, atFloor, Except.map, holding,
          isCurrent, left, popped]
      rw [isPopped]
      exact .popped (by omega) (by omega)

theorem performs_popTo
    (stack : PageStack)
    (pageId : String) :
    Performs stack (.popTo pageId)
      (stack.perform (.popTo pageId)) := by
  cases found :
      stack.entries.findIdx? fun entry => entry.pageId = pageId with
  | none =>
      have others :
          ∀ entry ∈ stack.entries, entry.pageId ≠ pageId := by
        simpa using found
      have isRefused :
          stack.perform (.popTo pageId) =
            (stack, .error (.pageNotInStack pageId)) := by
        simp [perform, popTo, found, Except.map]
      rw [isRefused]
      refine .refused ?_
      have allOthers :
          (stack.entries.dropWhile fun entry =>
            decide (entry.pageId ≠ pageId)) = [] := by
        simpa using others
      simp only [PageOperation.visit, allOthers]
  | some index =>
      obtain ⟨inRange, isPage, others⟩ :=
        List.findIdx?_eq_some_iff_getElem.mp found
      have shape :
          stack.entries =
            stack.entries.take index ++
              stack.entries[index] :: stack.entries.drop (index + 1) := by
        simp
      have isCurrent :
          lastIndex?
              (stack.entries.take index ++ [stack.entries[index]]) =
            some index := by
        apply lastIndex?_of_length
        rw [List.length_append, List.length_take, List.length_singleton]
        omega
      have areOthers :
          ∀ other ∈ stack.entries.take index, other.pageId ≠ pageId := by
        intro other member
        obtain ⟨place, isEarlier, rfl⟩ := List.getElem_of_mem member
        rw [List.length_take] at isEarlier
        simpa using others place (by omega)
      have isPopped :
          stack.perform (.popTo pageId) =
            ((stack.holding
                (stack.entries.take index ++
                  [stack.entries[index]])).announce .pop pageId none,
              .ok none) := by
        rw [holding, isCurrent]
        simp [perform, popTo, found, Except.map]
      rw [isPopped]
      have isNamed : stack.entries[index].pageId = pageId := by
        simpa using isPage
      subst isNamed
      exact .poppedTo shape areOthers

theorem performs_replace
    (kept : IsKept stack)
    (pageId : String)
    (params : Entries Value) :
    Performs stack (.replace pageId params)
      (stack.perform (.replace pageId params)) := by
  cases shape : stack.current with
  | none =>
      have isEmpty : stack.entries = [] :=
        (lastIndex?_eq_none_iff _).mp (kept.current ▸ shape)
      have isRefused :
          stack.perform (.replace pageId params) =
            (stack, .error .emptyStack) := by
        simp [perform, replace, shape, Except.map]
      rw [isRefused]
      exact .refused (by simp [PageOperation.visit, isEmpty])
  | some index =>
      have length : stack.entries.length = index + 1 :=
        length_of_lastIndex? (kept.current ▸ shape)
      have nonempty : stack.entries ≠ [] :=
        List.ne_nil_of_length_eq_add_one length
      cases found : stack.app.page? pageId with
      | none =>
          have isRefused :
              stack.perform (.replace pageId params) =
                (stack, .error (.pageNotFound pageId)) := by
            simp [perform, replace, shape, found, Except.map]
          rw [isRefused]
          exact .refused
            (by simp [PageOperation.visit, nonempty, found])
      | some page =>
          have isReplaced :
              stack.perform (.replace pageId params) =
                ((stack.holding
                    (stack.entries.dropLast ++
                      [PageEntry.mk pageId params])).announce
                    .replace pageId (some params), .ok none) := by
            have isSet :
                stack.entries.set index (PageEntry.mk pageId params) =
                  stack.entries.dropLast ++
                    [PageEntry.mk pageId params] := by
              have parts := List.dropLast_append_getLast nonempty
              have isLast : stack.entries.dropLast.length = index := by
                simp [length]
              rw [← parts, List.set_append_right _ _ (by simp [isLast])]
              simp [isLast]
            have isCurrent :
                lastIndex?
                    (stack.entries.dropLast ++
                      [PageEntry.mk pageId params]) =
                  some index := by
              apply lastIndex?_of_length
              simp [length]
            rw [holding, isCurrent]
            simp [perform, replace, shape, found, Except.map, isSet]
          rw [isReplaced]
          exact .replaced nonempty (by simp [found])

/-- What every operation comes to. -/
theorem performs
    (kept : IsKept stack)
    (operation : PageOperation) :
    Performs stack operation (stack.perform operation) := by
  cases operation with
  | push pageId params =>
      exact performs_push kept pageId params
  | pop count =>
      exact performs_pop stack count
  | popTo pageId =>
      exact performs_popTo stack pageId
  | replace pageId params =>
      exact performs_replace kept pageId params
  | clear =>
      exact .cleared
  | destroy =>
      exact .destroyed
  | listen name crash? =>
      exact .listened
  | unlisten number =>
      exact .unlistened

/-! ## What is kept -/

/-- Other entries that fit and name pages leave the stack kept. -/
theorem IsKept.announce_holding
    {entries : List PageEntry}
    (bounded : entries.length ≤ stack.capacity)
    (declared : ∀ entry ∈ entries, (stack.app.page? entry.pageId).isSome)
    (change : PageChange)
    (pageId : String)
    (params : Option (Entries Value)) :
    IsKept ((stack.holding entries).announce change pageId params) where
  bounded := by
    rw [entries_announce, capacity_announce]
    exact bounded
  current := by
    rw [entries_announce, current_announce]
    rfl
  declared := by
    rw [entries_announce, app_announce]
    exact declared

/-- A stack that is kept stays so, whatever is asked of it. -/
theorem IsKept.perform
    (kept : IsKept stack)
    (operation : PageOperation) :
    IsKept (stack.perform operation).1 := by
  have performed := performs kept operation
  generalize stack.perform operation = result at performed ⊢
  cases performed with
  | refused _ =>
      exact kept
  | stayed =>
      exact kept
  | @pushed pageId params isPage =>
      refine .announce_holding ?_ ?_ _ _ _
      · simp only [List.rtake, List.length_drop]
        omega
      · intro entry member
        have isThere := List.mem_of_mem_drop member
        rcases List.mem_append.mp isThere with isOld | isNew
        · exact kept.declared entry isOld
        · rw [List.mem_singleton] at isNew
          rw [isNew]
          exact isPage
  | popped _ _ =>
      refine .announce_holding ?_ ?_ _ _ _
      · have bounded := kept.bounded
        simp only [List.rdrop, List.length_take]
        omega
      · intro entry member
        exact kept.declared entry (List.mem_of_mem_take member)
  | @poppedTo entry earlier later shape _ =>
      have isInitial : earlier ++ [entry] <+: stack.entries :=
        ⟨later, by simp [shape]⟩
      refine .announce_holding ?_ ?_ _ _ _
      · exact Nat.le_trans isInitial.length_le kept.bounded
      · intro other member
        exact kept.declared other (isInitial.subset member)
  | @replaced pageId params nonempty isPage =>
      refine .announce_holding ?_ ?_ _ _ _
      · have bounded := kept.bounded
        have positive := List.length_pos_of_ne_nil nonempty
        simp only [List.length_append, List.length_dropLast,
          List.length_singleton]
        omega
      · intro entry member
        rcases List.mem_append.mp member with isOld | isNew
        · exact kept.declared entry (List.dropLast_subset _ isOld)
        · rw [List.mem_singleton] at isNew
          rw [isNew]
          exact isPage
  | cleared =>
      exact .announce_holding (by simp) (by simp) _ _ _
  | destroyed =>
      exact ⟨by simp [destroy], rfl, by simp [destroy]⟩
  | listened =>
      exact ⟨kept.bounded, kept.current, kept.declared⟩
  | unlistened =>
      exact ⟨kept.bounded, kept.current, kept.declared⟩

theorem app_perform
    (kept : IsKept stack)
    (operation : PageOperation) :
    (stack.perform operation).1.app = stack.app ∧
      (stack.perform operation).1.capacity = stack.capacity := by
  have performed := performs kept operation
  generalize stack.perform operation = result at performed ⊢
  cases performed <;> simp [holding, destroy, listen, unlisten]

/-- An operation that does not drop all entries leaves one, if there is one. -/
theorem entries_perform_ne_nil
    (kept : IsKept stack)
    (nonempty : stack.entries ≠ [])
    {operation : PageOperation}
    (leaves : operation.dropsAll = false) :
    (stack.perform operation).1.entries ≠ [] := by
  have performed := performs kept operation
  generalize stack.perform operation = result at performed ⊢
  cases performed with
  | refused _ =>
      exact nonempty
  | stayed =>
      exact nonempty
  | pushed _ =>
      have hasRoom := stack.hasRoom
      rw [entries_announce, ← List.length_pos_iff]
      simp only [holding, List.rtake, List.length_drop,
        List.length_append, List.length_singleton]
      omega
  | popped _ aboveFloor =>
      rw [entries_announce, ← List.length_pos_iff]
      simp only [holding, List.rdrop, List.length_take]
      omega
  | poppedTo _ _ =>
      simp [holding]
  | replaced _ _ =>
      simp [holding]
  | cleared =>
      cases leaves
  | destroyed =>
      cases leaves
  | listened =>
      exact nonempty
  | unlistened =>
      exact nonempty

/-- Starting over on a declared page leaves that page alone. -/
theorem restart_spec
    (kept : IsKept stack)
    {pageId : String}
    {page : Page}
    (found : stack.app.page? pageId = some page)
    (params : Entries Value) :
    IsKept (stack.restart pageId params).1 ∧
      (stack.restart pageId params).1.app = stack.app ∧
      (stack.restart pageId params).1.entries =
        [PageEntry.mk pageId params] := by
  have cleared : IsKept stack.clear :=
    kept.perform .clear
  have app : stack.clear.app = stack.app :=
    (app_perform kept .clear).1
  have foundStill : stack.clear.app.page? pageId = some page := by
    rw [app]
    exact found
  have emptied : stack.clear.entries = [] := by
    simp [clear]
  refine ⟨cleared.perform (.push pageId params),
    (app_perform cleared (.push pageId params)).1.trans app, ?_⟩
  simp [restart, push, foundStill, emptied]

/-- An operation does to the entries what it does to a list. -/
theorem perform_eq_visit
    (kept : IsKept stack)
    (operation : PageOperation) :
    ((stack.perform operation).1.entries,
        (stack.perform operation).2) =
      operation.visit stack.app stack.capacity stack.entries := by
  have performed := performs kept operation
  generalize stack.perform operation = result at performed ⊢
  cases performed with
  | refused isRefused =>
      exact isRefused.symm
  | stayed =>
      rfl
  | pushed isPage =>
      simp [PageOperation.visit, isPage, holding]
  | @popped count pageId positive aboveFloor =>
      have isSome : count ≠ 0 :=
        Nat.ne_of_gt positive
      have notAtFloor : ¬ stack.entries.length ≤ 1 :=
        Nat.not_le_of_gt aboveFloor
      simp [PageOperation.visit, holding, isSome, notAtFloor]
  | @poppedTo entry earlier later shape others =>
      have areOthers :
          ∀ other ∈ earlier,
            decide (other.pageId ≠ entry.pageId) = true := by
        simpa using others
      have dropped :
          (stack.entries.dropWhile fun other =>
              decide (other.pageId ≠ entry.pageId)) =
            entry :: later := by
        rw [shape, List.dropWhile_append_of_pos areOthers]
        simp
      have taken :
          (stack.entries.takeWhile fun other =>
              decide (other.pageId ≠ entry.pageId)) =
            earlier := by
        rw [shape, List.takeWhile_append_of_pos areOthers]
        simp
      simp only [PageOperation.visit, dropped, taken, holding,
        entries_announce]
  | replaced nonempty isPage =>
      simp [PageOperation.visit, holding, nonempty, isPage]
  | cleared =>
      simp [PageOperation.visit, holding]
  | destroyed =>
      rfl
  | listened =>
      rfl
  | unlistened =>
      rfl

/-! ## Histories -/

theorem performAll_spec
    (kept : IsKept stack)
    (operations : List PageOperation) :
    IsKept (stack.performAll operations) ∧
      (stack.performAll operations).app = stack.app ∧
      (stack.performAll operations).capacity = stack.capacity ∧
      (stack.performAll operations).entries =
        operations.foldl
          (fun entries operation =>
            (operation.visit stack.app stack.capacity entries).1)
          stack.entries := by
  induction operations generalizing stack with
  | nil =>
      exact ⟨kept, rfl, rfl, rfl⟩
  | cons operation operations inductionHypothesis =>
      obtain ⟨sameApp, sameCapacity⟩ := app_perform kept operation
      have visited := perform_eq_visit kept operation
      have entries := congrArg Prod.fst visited
      obtain ⟨stillKept, app, capacity, folded⟩ :=
        inductionHypothesis (kept.perform operation)
      rw [performAll_cons, List.foldl_cons]
      refine ⟨stillKept, app.trans sameApp,
        capacity.trans sameCapacity, ?_⟩
      rw [folded, sameApp, sameCapacity, ← entries]

end

/-- A stack that nothing has been pushed on is kept. -/
theorem isKept_empty
    (app : AppDocument)
    (requested : Nat) :
    IsKept
      { app := app, capacity := max requested 1,
        hasRoom := Nat.le_max_right requested 1 } :=
  ⟨by simp, rfl, by simp⟩

/--
A page stack is a list of declared pages with room for as many as were asked
for, at least for one, and its current entry is the last.  Every operation does
to it what it does to the list, and one that fails changes nothing at all.
-/
theorem performAll_isBoundedList
    (app : AppDocument)
    (requested : Nat)
    (operations : List PageOperation) :
    let room := max requested 1
    let stack := (ofApp app requested).performAll operations
    stack.entries =
        (PageOperation.push app.initialPageId [] :: operations).foldl
          (fun entries operation =>
            (operation.visit app room entries).1) [] ∧
      stack.entries.length ≤ room ∧
      (stack.current = none ↔ stack.entries = []) ∧
      (∀ index, stack.current = some index →
        index + 1 = stack.entries.length) ∧
      (∀ entry ∈ stack.entries, (app.page? entry.pageId).isSome) ∧
      ∀ operation,
        ((stack.perform operation).1.entries,
            (stack.perform operation).2) =
          operation.visit app room stack.entries ∧
        ∀ failure,
          (stack.perform operation).2 = .error failure →
            (stack.perform operation).1 = stack := by
  intro room stack
  -- The initial page is pushed like any other.
  obtain ⟨kept, sameApp, sameCapacity, entries⟩ :
      IsKept stack ∧ stack.app = app ∧ stack.capacity = room ∧
        stack.entries =
          (PageOperation.push app.initialPageId [] :: operations).foldl
            (fun entries operation =>
              (operation.visit app room entries).1) [] :=
    performAll_spec (isKept_empty app requested)
      (.push app.initialPageId [] :: operations)
  refine ⟨entries, ?_, ?_, ?_, ?_, ?_⟩
  · rw [← sameCapacity]
    exact kept.bounded
  · rw [kept.current]
    exact lastIndex?_eq_none_iff stack.entries
  · intro index isCurrent
    rw [kept.current] at isCurrent
    exact (length_of_lastIndex? isCurrent).symm
  · rw [← sameApp]
    exact kept.declared
  · intro operation
    have visited := perform_eq_visit kept operation
    rw [sameApp, sameCapacity] at visited
    exact ⟨visited, fun failure => perform_of_error⟩

end PageStack

end Mockup
