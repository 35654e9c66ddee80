import Mockup.PageStack

namespace Mockup

/-!
# Operations on a page stack

Every operation as a value, so that a history of a stack is a list of them.
An operation that fails hands the whole stack back as it was, with its
listeners and with what it had queued.
-/

/-- What fails still fails when its result is told in another way. -/
theorem Failure.eq_error_of_map
    {outcome : Except Failure α}
    {tell : α → β}
    {failure : Failure}
    (failed : outcome.map tell = .error failure) :
    outcome = .error failure := by
  cases outcome with
  | error other =>
      simpa [Except.map] using failed
  | ok result =>
      simp [Except.map] at failed

/-- What may be asked of a page stack. -/
inductive PageOperation where
  | push (pageId : String) (params : Entries Value)
  | pop (count : Nat)
  | popTo (pageId : String)
  | replace (pageId : String) (params : Entries Value)
  | clear
  | destroy
  | listen (name : String) (crash? : PageEvent → String → Option String)
  | unlisten (number : Nat)

namespace PageStack

/-- Carry out an operation; only a pop tells a number. -/
def perform
    (stack : PageStack) :
    PageOperation → PageStack × Except Failure (Option Nat)
  | .push pageId params =>
      (stack.push pageId params).map id (Except.map fun _ => none)
  | .pop count =>
      (stack.pop count).map id (Except.map some)
  | .popTo pageId =>
      (stack.popTo pageId).map id (Except.map fun _ => none)
  | .replace pageId params =>
      (stack.replace pageId params).map id (Except.map fun _ => none)
  | .clear =>
      (stack.clear, .ok none)
  | .destroy =>
      (stack.destroy, .ok none)
  | .listen name crash? =>
      ((stack.listen name crash?).1, .ok none)
  | .unlisten number =>
      (stack.unlisten number, .ok none)

/-- Carry out operations one after another, whether or not they fail. -/
def performAll
    (stack : PageStack)
    (operations : List PageOperation) :
    PageStack :=
  operations.foldl (fun current operation => (current.perform operation).1)
    stack

@[simp] theorem performAll_nil
    (stack : PageStack) :
    stack.performAll [] = stack :=
  rfl

@[simp] theorem performAll_cons
    (stack : PageStack)
    (operation : PageOperation)
    (operations : List PageOperation) :
    stack.performAll (operation :: operations) =
      (stack.perform operation).1.performAll operations :=
  rfl

/-! ## Announcing -/

section

variable
  (stack : PageStack) (change : PageChange) (pageId : String)
  (params : Option (Entries Value))

@[simp] theorem app_announce :
    (stack.announce change pageId params).app = stack.app := by
  unfold announce
  split <;> rfl

@[simp] theorem capacity_announce :
    (stack.announce change pageId params).capacity = stack.capacity := by
  unfold announce
  split <;> rfl

@[simp] theorem entries_announce :
    (stack.announce change pageId params).entries = stack.entries := by
  unfold announce
  split <;> rfl

@[simp] theorem current_announce :
    (stack.announce change pageId params).current = stack.current := by
  unfold announce
  split <;> rfl

@[simp] theorem listeners_announce :
    (stack.announce change pageId params).listeners = stack.listeners := by
  unfold announce
  split <;> rfl

@[simp] theorem nextListener_announce :
    (stack.announce change pageId params).nextListener =
      stack.nextListener := by
  unfold announce
  split <;> rfl

/-- While anyone listens, an announced change is queued behind the others. -/
theorem queued_announce
    (heard : stack.listeners ≠ []) :
    (stack.announce change pageId params).queued =
      stack.queued ++ [⟨change, pageId, params, stack.size⟩] := by
  simp [announce, heard]

end

/-! ## Failing -/

/-- A push that fails leaves the stack as it was. -/
theorem push_of_error
    {stack : PageStack}
    {pageId : String}
    {params : Entries Value}
    {failure : Failure}
    (failed : (stack.push pageId params).2 = .error failure) :
    (stack.push pageId params).1 = stack := by
  unfold push at failed ⊢
  split
  · rfl
  · rename_i found
    simp [found] at failed

theorem pop_of_error
    {stack : PageStack}
    {count : Nat}
    {failure : Failure}
    (failed : (stack.pop count).2 = .error failure) :
    (stack.pop count).1 = stack := by
  unfold pop at failed ⊢
  split
  · rfl
  · split
    · rfl
    · simp_all

theorem popTo_of_error
    {stack : PageStack}
    {pageId : String}
    {failure : Failure}
    (failed : (stack.popTo pageId).2 = .error failure) :
    (stack.popTo pageId).1 = stack := by
  unfold popTo at failed ⊢
  split
  · rfl
  · rename_i found
    simp [found] at failed

theorem replace_of_error
    {stack : PageStack}
    {pageId : String}
    {params : Entries Value}
    {failure : Failure}
    (failed : (stack.replace pageId params).2 = .error failure) :
    (stack.replace pageId params).1 = stack := by
  unfold replace at failed ⊢
  split
  · rfl
  · split
    · rfl
    · simp_all

/-- An operation that fails changes nothing at all. -/
theorem perform_of_error
    {stack : PageStack}
    {operation : PageOperation}
    {failure : Failure}
    (failed : (stack.perform operation).2 = .error failure) :
    (stack.perform operation).1 = stack := by
  cases operation with
  | push pageId params =>
      exact push_of_error (Failure.eq_error_of_map failed)
  | pop count =>
      exact pop_of_error (Failure.eq_error_of_map failed)
  | popTo pageId =>
      exact popTo_of_error (Failure.eq_error_of_map failed)
  | replace pageId params =>
      exact replace_of_error (Failure.eq_error_of_map failed)
  | clear | destroy | listen _ _ | unlisten _ =>
      cases failed

end PageStack

end Mockup
