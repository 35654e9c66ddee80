import Mockup.AppDocument.Basic
import Mockup.Failure

namespace Mockup

/-!
# The page stack

The visited pages, oldest first.  The stack has room for a fixed number of
entries, at least one; a push beyond that drops the oldest.  The current entry
is kept by its index.  While anyone listens, each change queues an event; the
queue is delivered after a batch of changes, every event to every listener.
That a listener crashes is found out, and has no consequences.

An operation that cannot be carried out hands back the stack as it was.
-/

/-- A visited page. -/
structure PageEntry where
  pageId : String
  params : Entries Value
  deriving Repr

/-- The ways in which the stack changes. -/
inductive PageChange where
  | push
  | pop
  | replace
  | clear
  deriving Repr, DecidableEq

/-- The name of a way to change. -/
def PageChange.name : PageChange → String
  | .push =>
      "push"
  | .pop =>
      "pop"
  | .replace =>
      "replace"
  | .clear =>
      "clear"

/-- A change of the stack, with the page and the size it left. -/
structure PageEvent where
  change : PageChange
  pageId : String
  params : Option (Entries Value)
  size : Nat
  deriving Repr

/-- One who hears of changes, known by a number that is not used again. -/
structure PageListener where
  number : Nat
  name : String
  /-- Why it crashes when it hears of an event with a page on top, if so. -/
  crash? : PageEvent → String → Option String

/-- An event as it reaches a listener, who finds a page on top. -/
structure PageDelivery where
  listener : PageListener
  event : PageEvent
  seenPageId : String
  /-- How the listener takes it. -/
  outcome : Except Failure Unit

/-- Let a listener hear of an event, with a page on top. -/
def PageListener.hear
    (listener : PageListener)
    (event : PageEvent)
    (seenPageId : String) :
    PageDelivery where
  listener :=
    listener
  event :=
    event
  seenPageId :=
    seenPageId
  outcome :=
    Failure.guarded "page listener" (listener.crash? event seenPageId)

/-- The pages that have been visited, and who listens. -/
structure PageStack where
  app : AppDocument
  capacity : Nat
  entries : List PageEntry := []
  current : Option Nat := none
  listeners : List PageListener := []
  nextListener : Nat := 0
  queued : List PageEvent := []
  hasRoom : 0 < capacity

namespace PageStack

/-! ## Reading -/

/-- The current entry. -/
def currentEntry?
    (stack : PageStack) :
    Option PageEntry :=
  stack.current.bind fun index => stack.entries[index]?

/-- The id of the current page, empty when there is none. -/
def currentPageId
    (stack : PageStack) :
    String :=
  (stack.currentEntry?.map PageEntry.pageId).getD ""

/-- The current page. -/
def currentPage?
    (stack : PageStack) :
    Option Page :=
  stack.currentEntry?.bind fun entry => stack.app.page? entry.pageId

/-- How many entries there are. -/
def size
    (stack : PageStack) :
    Nat :=
  stack.entries.length

/-- Whether there is an entry below the current one. -/
def canGoBack
    (stack : PageStack) :
    Bool :=
  1 < stack.size

/-! ## Listeners and events -/

/-- Queue an event; nothing is queued while no one listens. -/
def announce
    (stack : PageStack)
    (change : PageChange)
    (pageId : String)
    (params : Option (Entries Value)) :
    PageStack :=
  if stack.listeners.isEmpty then
    stack
  else
    { stack with
      queued :=
        stack.queued ++ [PageEvent.mk change pageId params stack.size] }

/-- Add a listener, who may crash and is given the next number. -/
def listen
    (stack : PageStack)
    (name : String)
    (crash? : PageEvent → String → Option String := fun _ _ => none) :
    PageStack × Nat :=
  let listener : PageListener := ⟨stack.nextListener, name, crash?⟩
  ({ stack with
      listeners := stack.listeners ++ [listener],
      nextListener := stack.nextListener + 1 },
    stack.nextListener)

/-- Whether a number belongs to a listener. -/
def isListening
    (stack : PageStack)
    (number : Nat) :
    Bool :=
  stack.listeners.any fun listener => listener.number = number

/-- Remove a listener. -/
def unlisten
    (stack : PageStack)
    (number : Nat) :
    PageStack :=
  { stack with
    listeners :=
      stack.listeners.filter fun listener => listener.number ≠ number }

/--
Deliver the queue: event by event, and listener by listener, whether or not
those before have crashed.
-/
def deliver
    (stack : PageStack) :
    PageStack × List PageDelivery :=
  ({ stack with queued := [] },
    stack.queued.flatMap fun event =>
      stack.listeners.map fun listener =>
        listener.hear event stack.currentPageId)

/-! ## Moving -/

/-- Push a page, dropping the oldest entry when there is no room. -/
def push
    (stack : PageStack)
    (pageId : String)
    (params : Entries Value) :
    PageStack × Except Failure Unit :=
  match stack.app.page? pageId with
  | none =>
      (stack, .error (.pageNotFound pageId))
  | some _ =>
      let kept :=
        if stack.capacity ≤ stack.size then
          stack.entries.drop 1
        else
          stack.entries
      let pushed :=
        { stack with
          entries := kept ++ [PageEntry.mk pageId params],
          current := some kept.length }
      (pushed.announce .push pageId (some params), .ok ())

/--
Pop entries, but not the last one; tells how many were popped.  Popping none
is always possible and changes nothing.
-/
def pop
    (stack : PageStack)
    (count : Nat) :
    PageStack × Except Failure Nat :=
  if count = 0 then
    (stack, .ok 0)
  else if stack.size ≤ 1 then
    (stack, .error .stackFloor)
  else
    let popped := min count (stack.size - 1)
    let left := stack.size - popped
    let shorter :=
      { stack with
        entries := stack.entries.take left,
        current := some (left - 1) }
    (shorter.announce .pop shorter.currentPageId none, .ok popped)

/-- Pop down to the oldest entry for a page. -/
def popTo
    (stack : PageStack)
    (pageId : String) :
    PageStack × Except Failure Unit :=
  match stack.entries.findIdx? fun entry => entry.pageId = pageId with
  | none =>
      (stack, .error (.pageNotInStack pageId))
  | some index =>
      let shorter :=
        { stack with
          entries := stack.entries.take (index + 1),
          current := some index }
      (shorter.announce .pop pageId none, .ok ())

/-- Put a page in the place of the current entry. -/
def replace
    (stack : PageStack)
    (pageId : String)
    (params : Entries Value) :
    PageStack × Except Failure Unit :=
  match stack.current with
  | none =>
      (stack, .error .emptyStack)
  | some index =>
      match stack.app.page? pageId with
      | none =>
          (stack, .error (.pageNotFound pageId))
      | some _ =>
          let replaced :=
            { stack with
              entries := stack.entries.set index (PageEntry.mk pageId params) }
          (replaced.announce .replace pageId (some params), .ok ())

/-- Drop all entries. -/
def clear
    (stack : PageStack) :
    PageStack :=
  let emptied := { stack with entries := [], current := none }
  emptied.announce .clear "" none

/-- Clear the stack and push a page. -/
def restart
    (stack : PageStack)
    (pageId : String)
    (params : Entries Value) :
    PageStack × Except Failure Unit :=
  stack.clear.push pageId params

/-- Drop all entries, listeners and queued events. -/
def destroy
    (stack : PageStack) :
    PageStack :=
  { stack with
    entries := [], current := none, listeners := [], queued := [] }

/-- The stack of an application, on its initial page when there is one. -/
def ofApp
    (app : AppDocument)
    (capacity : Nat) :
    PageStack :=
  let empty : PageStack :=
    { app := app, capacity := max capacity 1, hasRoom := by omega }
  (empty.push app.initialPageId []).1

end PageStack

end Mockup
