import Mathlib.Data.List.InsertIdx
import Mockup.Proofs.Patch.Locality
import Mockup.Proofs.Path.Assign
import Mockup.Proofs.Value.KeyOrder

namespace Mockup

open Value (Agrees)

/-!
# Edits that undo each other

What has been removed can be added again where it was, and what has been added
as a new part can be removed again.  Each of the two acts in one container, so
moving a part there and back again brings the document back, whatever the
indices in between have come to mean.  An entry that is removed and added again
comes last, so that documents are compared with the order of keys aside.
-/

namespace Entries

/-- Removing what was written under a new key brings the entries back. -/
theorem erase_insert_of_absent
    {entries : Entries α}
    {name : String}
    (absent : get? entries name = none)
    (value : α) :
    erase (insert entries name value) name = entries := by
  induction entries with
  | nil =>
      simp [insert, erase]
  | cons entry rest inductionHypothesis =>
      rcases entry with ⟨key, first⟩
      have different : key ≠ name := by
        rintro rfl
        simp [get?] at absent
      have restAbsent : get? rest name = none := by
        simpa [get?, different] using absent
      simp [insert, erase, different, inductionHypothesis restAbsent]

end Entries

namespace Path

/-! ## Exchanging values that agree -/

theorem Leads.agrees_exchange
    {root part : Value}
    {segment : String}
    {exchange : Value → Value}
    (leads : Leads root segment part exchange)
    {left right : Value}
    (agrees : Agrees Eq left right) :
    Agrees Eq (exchange left) (exchange right) := by
  cases leads with
  | field _ =>
      exact Value.agrees_insert _ _ agrees
  | item _ _ =>
      exact Value.agrees_set _ _ agrees

/-- Values that agree leave trees that agree when put at the same place. -/
theorem agrees_put
    {root before : Value}
    {place : List String}
    (resolved : resolve? root place = some before)
    {left right : Value}
    (agrees : Agrees Eq left right) :
    Agrees Eq (put root place left) (put root place right) := by
  induction place generalizing root with
  | nil =>
      exact agrees
  | cons segment rest inductionHypothesis =>
      obtain ⟨part, exchange, leads, below⟩ :=
        exists_leads_of_resolve? resolved
      rw [put_cons leads, put_cons leads]
      exact leads.agrees_exchange (inductionHypothesis below)

end Path

namespace Patch

/-! ## The container of what a path names -/

/-- A path names a part of a container that is at a place of a document. -/
structure Names
    (document : Value)
    (path : String)
    (place : List String)
    (last : String)
    (holder : Value) :
    Prop where
  tokens_eq :
    Pointer.tokens path = place ++ [last]
  resolved :
    Path.resolve? document place = some holder

namespace Names

variable
  {document holder : Value}
  {path last : String}
  {place : List String}

/-- In the changed container the path names what it named before. -/
theorem put
    (names : Names document path place last holder)
    (changed : Value) :
    Names (Path.put document place changed) path place last changed :=
  ⟨names.tokens_eq, Path.resolve?_put names.resolved changed⟩

theorem editHolder_eq
    (names : Names document path place last holder)
    (whenRoot : Edited α)
    (edit : String → Value → Edited α) :
    editHolder document path whenRoot edit =
      ⟨Path.put document place (edit last holder).document,
        (edit last holder).outcome⟩ :=
  Patch.editHolder_eq names.tokens_eq names.resolved whenRoot edit

end Names

/-- What is edited at a place is there. -/
theorem exists_part_of_editAt?
    {document : Value}
    {place : List String}
    {edit : Value → Edited α}
    {edited : Edited α}
    (edits : editAt? document place edit = some edited) :
    ∃ part, Path.resolve? document place = some part := by
  induction place generalizing document edited with
  | nil =>
      exact ⟨document, rfl⟩
  | cons segment rest inductionHypothesis =>
      unfold editAt? at edits
      split at edits
      · rename_i fields
        split at edits
        · rename_i part found
          obtain ⟨below, editsBelow, _⟩ := Option.map_eq_some_iff.mp edits
          rw [Path.resolve?_cons (.field found)]
          exact inductionHypothesis editsBelow
        · cases edits
      · rename_i items
        split at edits
        · rename_i index part found
          obtain ⟨below, editsBelow, _⟩ := Option.map_eq_some_iff.mp edits
          obtain ⟨named, atIndex⟩ := Path.item?_eq_some found
          rw [Path.resolve?_cons (.item named atIndex)]
          exact inductionHypothesis editsBelow
        · cases edits
      · cases edits

/-- An edit below the root that succeeds has edited a container. -/
theorem exists_names_of_editHolder
    {document after : Value}
    {path : String}
    {whenRoot : Edited α}
    {edit : String → Value → Edited α}
    {result : α}
    (named : Pointer.tokens path ≠ [])
    (edits : editHolder document path whenRoot edit = ⟨after, .ok result⟩) :
    ∃ place last holder changed,
      Names document path place last holder ∧
        edit last holder = ⟨changed, .ok result⟩ ∧
        after = Path.put document place changed := by
  obtain ⟨place, last, shape⟩ :=
    (List.eq_nil_or_concat (Pointer.tokens path)).resolve_left named
  rw [List.concat_eq_append] at shape
  have holds : ∃ holder, Path.resolve? document place = some holder := by
    simp only [editHolder, shape, List.getLast?_concat,
      List.dropLast_concat] at edits
    split at edits
    · exact exists_part_of_editAt? ‹_›
    · cases edits
  obtain ⟨holder, resolved⟩ := holds
  have names : Names document path place last holder := ⟨shape, resolved⟩
  rw [names.editHolder_eq] at edits
  cases part : edit last holder with
  | mk changed outcome =>
      rw [part] at edits
      cases edits
      exact ⟨place, last, holder, changed, names, part, rfl⟩

/-! ## Parts of one container -/

/-- A part that was taken out of a container can be added again. -/
theorem addPart_of_removePart
    {path last : String}
    {holder left value : Value}
    (taken : removePart path last holder = ⟨left, .ok value⟩) :
    ∃ restored,
      addPart path value last left = .done restored ∧
        Agrees Eq restored holder := by
  unfold removePart at taken
  split at taken
  · rename_i fields
    split at taken
    · rename_i found
      cases taken
      exact ⟨_, rfl, Value.agrees_insert_erase found⟩
    · cases taken
  · rename_i items
    split at taken
    · cases taken
    · rename_i index named
      split at taken
      · rename_i atIndex
        cases taken
        obtain ⟨inside, rfl⟩ := List.getElem?_eq_some_iff.mp atIndex
        have noDash : last ≠ "-" := by
          rintro rfl
          simp [Text.ordinal?, Text.withoutPlus] at named
        have isPlace : index ≤ (items.eraseIdx index).length := by
          rw [List.length_eraseIdx_of_lt inside]
          omega
        refine ⟨.list items, ?_, Value.agrees_self _⟩
        simp only [addPart, if_neg noDash, named, if_pos isPlace,
          List.insertIdx_eraseIdx_getElem inside]
      · cases taken
  · cases taken

/--
A part is new to a container, and its name goes on to name it: a map has no
entry to overwrite, and a list does not add behind its items for a dash.
-/
def IsNewPart
    (last : String) : Value → Prop
  | .map fields =>
      Entries.get? fields last = none
  | .list _ =>
      last ≠ "-"
  | _ =>
      True

/-- A new part of a container can be taken out again. -/
theorem removePart_of_addPart
    {path last : String}
    {holder grown value : Value}
    (isNew : IsNewPart last holder)
    (added : addPart path value last holder = .done grown) :
    removePart path last grown = ⟨holder, .ok value⟩ := by
  unfold addPart at added
  split at added
  · rename_i fields
    cases added
    simp [removePart, Entries.erase_insert_of_absent isNew]
  · rename_i items
    have noDash : last ≠ "-" := isNew
    rw [if_neg noDash] at added
    split at added
    · cases added
    · rename_i index named
      split at added
      · rename_i isPlace
        cases added
        simp [removePart, named, List.getElem?_insertIdx_self, isPlace]
      · cases added
  · cases added

/-! ## Documents -/

/-- Adding at a path makes a new part of the container that it names. -/
def MakesPart
    (document : Value)
    (path : String) :
    Prop :=
  ∀ place last holder,
    Names document path place last holder → IsNewPart last holder

/-- A path names one part of one container. -/
theorem Names.makesPart
    {document holder : Value}
    {path last : String}
    {place : List String}
    (names : Names document path place last holder)
    (isNew : IsNewPart last holder) :
    MakesPart document path := by
  intro otherPlace otherLast otherHolder others
  have sameTokens := others.tokens_eq.symm.trans names.tokens_eq
  obtain ⟨rfl, sameLast⟩ := List.append_inj' sameTokens rfl
  cases sameLast
  have sameHolder := others.resolved.symm.trans names.resolved
  cases sameHolder
  exact isNew

/-- What a path named can be added again once it has been removed. -/
theorem add_of_remove
    {document after value : Value}
    {path : String}
    (removes : remove document path = ⟨after, .ok value⟩) :
    ∃ restored,
      add after path value = .done restored ∧
        Agrees Eq restored document := by
  have named : Pointer.tokens path ≠ [] := by
    intro isRoot
    simp [remove, editHolder, isRoot, Edited.refused] at removes
  obtain ⟨place, last, holder, left, names, taken, rfl⟩ :=
    exists_names_of_editHolder named removes
  obtain ⟨restored, added, agrees⟩ := addPart_of_removePart taken
  refine ⟨Path.put document place restored, ?_, ?_⟩
  · rw [add, (names.put left).editHolder_eq, added]
    simp only [Edited.done, Path.put_put names.resolved]
  · have agree := Path.agrees_put names.resolved agrees
    rwa [Path.put_self names.resolved] at agree

/-- A new part can be removed again, and leaves the document as it was. -/
theorem remove_of_add
    {document after value : Value}
    {path : String}
    (named : path ≠ "")
    (makes : MakesPart document path)
    (adds : add document path value = .done after) :
    remove after path = ⟨document, .ok value⟩ := by
  have hasTokens := (Pointer.tokens_eq_nil_iff path).not.mpr named
  obtain ⟨place, last, holder, grown, names, added, rfl⟩ :=
    exists_names_of_editHolder hasTokens adds
  have taken : removePart path last grown = ⟨holder, .ok value⟩ :=
    removePart_of_addPart (makes _ _ _ names) added
  rw [remove, (names.put grown).editHolder_eq, taken]
  simp only [Path.put_put names.resolved, Path.put_self names.resolved]

/--
A part that has been moved can be moved back.  It is added to what the document
is without it, and that is where it must be new.
-/
theorem move_of_move
    {document after : Value}
    {source path : String}
    (named : path ≠ "")
    (makes : MakesPart (remove document source).document path)
    (moves : move document source path = .done after) :
    ∃ restored,
      move after path source = .done restored ∧
        Agrees Eq restored document := by
  cases removed : remove document source with
  | mk between outcome =>
      rw [removed] at makes
      simp only [move, removed] at moves
      cases outcome with
      | error error =>
          cases moves
      | ok value =>
          have back := remove_of_add named makes moves
          obtain ⟨restored, adds, agrees⟩ := add_of_remove removed
          exact ⟨restored, by simp only [move, back, adds], agrees⟩

/-- The patch that moves what one path names to another one. -/
def moving
    (source path : String) :
    Patch :=
  ⟨.move, path, none, some source⟩

/--
What a path named is added again where it was once it has been removed, and
then the document is what it was, the order of keys aside.  What has been added
as a new part is removed again, and then the document is exactly what it was.
So what has been moved to become a new part is moved back, and then the
document is what it was, the order of keys aside.
-/
theorem remove_add_move_undo :
    (∀ (document after value : Value) (path : String),
      remove document path = ⟨after, .ok value⟩ →
        ∃ restored,
          apply after (adding path value) = .done restored ∧
            Agrees Eq restored document) ∧
    (∀ (document after value : Value) (path : String),
      path ≠ "" →
        MakesPart document path →
        apply document (adding path value) = .done after →
        remove after path = ⟨document, .ok value⟩) ∧
    ∀ (document after : Value) (source path : String),
      path ≠ "" →
        MakesPart (remove document source).document path →
        apply document (moving source path) = .done after →
        ∃ restored,
          apply after (moving path source) = .done restored ∧
            Agrees Eq restored document := by
  refine ⟨?_, ?_, ?_⟩
  · intro document after value path removes
    exact add_of_remove removes
  · intro document after value path named makes adds
    exact remove_of_add named makes adds
  · intro document after source path named makes moves
    exact move_of_move named makes moves

/--
An item goes into the map behind it in its list, which has moved up by then,
and comes back.
-/
theorem remove_add_move_undo_nextItem :
    let document : Value :=
      .map [("a", .list [.int 1, .map [("y", .null)]])]
    let between : Value :=
      .map [("a", .list [.map [("y", .null)]])]
    let after : Value :=
      .map [("a", .list [.map [("y", .null), ("n", .int 1)]])]
    remove document "/a/0" = ⟨between, .ok (.int 1)⟩ ∧
      (∃ restored,
        apply between (adding "/a/0" (.int 1)) = .done restored ∧
          Agrees Eq restored document) ∧
      MakesPart between "/a/0/n" ∧
      apply between (adding "/a/0/n" (.int 1)) = .done after ∧
      remove after "/a/0/n" = ⟨between, .ok (.int 1)⟩ ∧
      apply document (moving "/a/0" "/a/0/n") = .done after ∧
      ∃ restored,
        apply after (moving "/a/0/n" "/a/0") = .done restored ∧
          Agrees Eq restored document := by
  intro document between after
  have removes : remove document "/a/0" = ⟨between, .ok (.int 1)⟩ :=
    rfl
  have names :
      Names between "/a/0/n" ["a", "0"] "n" (.map [("y", .null)]) :=
    ⟨rfl, rfl⟩
  have makes : MakesPart between "/a/0/n" :=
    names.makesPart rfl
  have adds : apply between (adding "/a/0/n" (.int 1)) = .done after :=
    rfl
  have moves : apply document (moving "/a/0" "/a/0/n") = .done after :=
    rfl
  have makesMoved :
      MakesPart (remove document "/a/0").document "/a/0/n" := by
    rw [removes]
    exact makes
  obtain ⟨addsBack, removesBack, movesBack⟩ := remove_add_move_undo
  exact
    ⟨removes, addsBack _ _ _ _ removes, makes, adds,
      removesBack _ _ _ _ (by decide) makes adds, moves,
      movesBack _ _ _ _ (by decide) makesMoved moves⟩

end Patch

end Mockup
