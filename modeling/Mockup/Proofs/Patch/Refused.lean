import Mockup.Proofs.Patch.Undo

namespace Mockup

/-!
# Patches that fail

An edit that fails hands back the document it was given, because everything is
checked before the container is touched.  The exception is a move, which has
taken its part out by the time the part cannot be added: then the document is
what the removal left, and it is never what it was.
-/

namespace Entries

/-- What has been found can be taken out, and leaves fewer entries. -/
theorem erase_ne_of_found
    {entries : Entries α}
    {name : String}
    {value : α}
    (found : get? entries name = some value) :
    erase entries name ≠ entries := by
  induction entries with
  | nil =>
      simp [get?] at found
  | cons entry rest inductionHypothesis =>
      rcases entry with ⟨key, first⟩
      by_cases same : key = name
      · intro unchanged
        have shorter := congrArg List.length unchanged
        simp [erase, same] at shorter
      · have inRest : get? rest name = some value := by
          simpa [get?, same] using found
        simpa [erase, same] using inductionHypothesis inRest

end Entries

namespace Edited

/-- An edit that fails hands a document back as it was. -/
def Keeps
    (edited : Edited α)
    (document : Value) :
    Prop :=
  ∀ error, edited.outcome = .error error → edited.document = document

theorem keeps_refused
    (document : Value)
    (error : PatchError) :
    (refused document error : Edited α).Keeps document :=
  fun _ _ => rfl

theorem keeps_of_ok
    (after document : Value)
    (result : α) :
    (⟨after, .ok result⟩ : Edited α).Keeps document := by
  intro error fails
  cases fails

end Edited

namespace Patch

/-! ## Edits of a container -/

theorem keeps_addPart
    (path : String)
    (value : Value)
    (last : String)
    (container : Value) :
    (addPart path value last container).Keeps container := by
  unfold addPart
  split
  · exact Edited.keeps_of_ok _ _ _
  · split
    · exact Edited.keeps_of_ok _ _ _
    · split
      · exact Edited.keeps_refused _ _
      · split
        · exact Edited.keeps_of_ok _ _ _
        · exact Edited.keeps_refused _ _
  · exact Edited.keeps_refused _ _

theorem keeps_removePart
    (path last : String)
    (container : Value) :
    (removePart path last container).Keeps container := by
  unfold removePart
  split
  · split
    · exact Edited.keeps_of_ok _ _ _
    · exact Edited.keeps_refused _ _
  · split
    · exact Edited.keeps_refused _ _
    · split
      · exact Edited.keeps_of_ok _ _ _
      · exact Edited.keeps_refused _ _
  · exact Edited.keeps_refused _ _

theorem keeps_replacePart
    (path : String)
    (value : Value)
    (last : String)
    (container : Value) :
    (replacePart path value last container).Keeps container := by
  unfold replacePart
  split
  · exact Edited.keeps_of_ok _ _ _
  · split
    · exact Edited.keeps_refused _ _
    · split
      · exact Edited.keeps_of_ok _ _ _
      · exact Edited.keeps_refused _ _
  · exact Edited.keeps_refused _ _

/-- What is taken out of a container is gone from it. -/
theorem ne_of_removePart
    {path last : String}
    {holder left value : Value}
    (taken : removePart path last holder = ⟨left, .ok value⟩) :
    left ≠ holder := by
  unfold removePart at taken
  split at taken
  · split at taken
    · rename_i found
      cases taken
      simpa using Entries.erase_ne_of_found found
    · cases taken
  · rename_i items
    split at taken
    · cases taken
    · split at taken
      · rename_i atIndex
        cases taken
        have inside := (List.getElem?_eq_some_iff.mp atIndex).1
        intro unchanged
        have sameItems := Value.list.inj unchanged
        have sameLength := congrArg List.length sameItems
        rw [List.length_eraseIdx_of_lt inside] at sameLength
        omega
      · cases taken
  · cases taken

/-! ## Edits of a document -/

/-- An edit keeps the document when it keeps the container that it edits. -/
theorem keeps_editHolder
    {document : Value}
    (path : String)
    {whenRoot : Edited α}
    {edit : String → Value → Edited α}
    (keepsRoot : whenRoot.Keeps document)
    (keepsPart : ∀ last holder, (edit last holder).Keeps holder) :
    (editHolder document path whenRoot edit).Keeps document := by
  unfold editHolder
  simp only
  split
  · exact keepsRoot
  · rename_i last _
    split
    · rename_i edited edits
      obtain ⟨holder, resolved⟩ := exists_part_of_editAt? edits
      rw [editAt?_eq_some resolved] at edits
      cases edits
      intro error fails
      have kept := keepsPart last holder error fails
      rw [kept, Path.put_self resolved]
    · exact Edited.keeps_refused _ _

theorem keeps_add
    (document : Value)
    (path : String)
    (value : Value) :
    (add document path value).Keeps document :=
  keeps_editHolder path (Edited.keeps_of_ok _ _ _) (keeps_addPart path value)

theorem keeps_remove
    (document : Value)
    (path : String) :
    (remove document path).Keeps document :=
  keeps_editHolder path (Edited.keeps_refused _ _) (keeps_removePart path)

theorem keeps_replace
    (document : Value)
    (path : String)
    (value : Value) :
    (replace document path value).Keeps document :=
  keeps_editHolder path (Edited.keeps_of_ok _ _ _)
    (keeps_replacePart path value)

theorem keeps_copy
    (document : Value)
    (source path : String) :
    (copy document source path).Keeps document := by
  unfold copy
  split
  · exact keeps_add document path _
  · exact Edited.keeps_refused _ _

/-- A test leaves the document alone, whatever comes of it. -/
theorem document_test
    (document : Value)
    (path : String)
    (expected : Value) :
    (test document path expected).document = document := by
  unfold test
  split
  · split <;> rfl
  · rfl

/-- A removal that succeeds changes the document. -/
theorem ne_of_remove
    {document after value : Value}
    {path : String}
    (removes : remove document path = ⟨after, .ok value⟩) :
    after ≠ document := by
  have named : Pointer.tokens path ≠ [] := by
    intro isRoot
    simp [remove, editHolder, isRoot, Edited.refused] at removes
  obtain ⟨place, last, holder, left, names, taken, rfl⟩ :=
    exists_names_of_editHolder named removes
  intro unchanged
  have atPlace := Path.resolve?_put names.resolved left
  rw [unchanged, names.resolved] at atPlace
  exact ne_of_removePart taken (Option.some.inj atPlace).symm

/-! ## Moves that end half way -/

/--
A patch is a move that takes its part out of a document, which leaves it as
`between`, and cannot add the part there.
-/
structure EndsHalfWay
    (document : Value)
    (patch : Patch)
    (between : Value)
    (error : PatchError) :
    Prop where
  isMove :
    patch.op = .move
  exists_part :
    ∃ source value,
      patch.source = some source ∧
        remove document source = ⟨between, .ok value⟩ ∧
        (add between patch.path value).outcome = .error error

theorem EndsHalfWay.apply_eq
    {document between : Value}
    {patch : Patch}
    {error : PatchError}
    (ends : EndsHalfWay document patch between error) :
    apply document patch = ⟨between, .error error⟩ := by
  obtain ⟨isMove, source, value, isSource, removes, fails⟩ := ends
  have kept : (add between patch.path value).document = between :=
    keeps_add between patch.path value error fails
  have added : add between patch.path value = ⟨between, .error error⟩ :=
    congr (congrArg Edited.mk kept) fails
  simp only [apply, isMove, isSource, move, removes, added]

/-- A move that fails has moved nothing, or it has ended half way. -/
theorem move_eq_of_error
    {document : Value}
    {patch : Patch}
    {source : String}
    {error : PatchError}
    (isMove : patch.op = .move)
    (isSource : patch.source = some source)
    (fails : (move document source patch.path).outcome = .error error) :
    (move document source patch.path).document = document ∨
      ∃ between, EndsHalfWay document patch between error := by
  cases removed : remove document source with
  | mk between outcome =>
      cases outcome with
      | error failure =>
          have kept := keeps_remove document source failure (by rw [removed])
          rw [removed] at kept
          exact Or.inl (by simpa [move, removed, Edited.refused] using kept)
      | ok value =>
          simp only [move, removed] at fails
          exact Or.inr
            ⟨between, isMove, source, value, isSource, removed, fails⟩

/-- A patch that fails leaves the document as it was, or ends half way. -/
theorem document_apply_of_error
    {document : Value}
    {patch : Patch}
    {error : PatchError}
    (fails : (apply document patch).outcome = .error error) :
    (apply document patch).document = document ∨
      ∃ between, EndsHalfWay document patch between error := by
  unfold apply at fails ⊢
  cases isOp : patch.op with
  | add =>
      rw [isOp] at fails
      exact Or.inl (keeps_add document patch.path _ error fails)
  | remove =>
      rw [isOp] at fails
      simp only at fails ⊢
      cases outcome : (remove document patch.path).outcome with
      | ok value =>
          rw [outcome] at fails
          cases fails
      | error failure =>
          exact Or.inl (keeps_remove document patch.path failure outcome)
  | replace =>
      rw [isOp] at fails
      exact Or.inl (keeps_replace document patch.path _ error fails)
  | move =>
      rw [isOp] at fails
      cases isSource : patch.source with
      | some source =>
          rw [isSource] at fails
          exact move_eq_of_error isOp isSource fails
      | none =>
          exact Or.inl rfl
  | copy =>
      rw [isOp] at fails
      cases isSource : patch.source with
      | some source =>
          rw [isSource] at fails
          exact Or.inl (keeps_copy document source patch.path error fails)
      | none =>
          exact Or.inl rfl
  | test =>
      exact Or.inl (document_test document patch.path _)

/--
A patch that fails leaves the document exactly as it was, unless it is a move
that ends half way.  Such a move always fails, with the failure of its
addition, and leaves exactly what its removal left, which is not what was
there before.  A test leaves the document as it was in any case.
-/
theorem apply_keeps_or_endsHalfWay :
    (∀ (document : Value) (patch : Patch) (error : PatchError),
      (apply document patch).outcome = .error error →
        (apply document patch).document = document ∨
          ∃ between, EndsHalfWay document patch between error) ∧
    (∀ (document : Value) (patch : Patch) (between : Value)
        (error : PatchError),
      EndsHalfWay document patch between error →
        apply document patch = ⟨between, .error error⟩ ∧
          between ≠ document) ∧
    ∀ (document : Value) (patch : Patch),
      patch.op = .test →
        (apply document patch).document = document := by
  refine ⟨?_, ?_, ?_⟩
  · intro document patch error fails
    exact document_apply_of_error fails
  · intro document patch between error ends
    obtain ⟨_, _, _, removes, _⟩ := ends.exists_part
    exact ⟨ends.apply_eq, ne_of_remove removes⟩
  · intro document patch isTest
    simp only [apply, isTest]
    exact document_test document patch.path patch.operand

/--
An entry is to go behind the end of a list: it is taken out, and then the list
has no such place.
-/
theorem apply_keeps_or_endsHalfWay_beyondEnd :
    let document : Value :=
      .map [("a", .int 1), ("b", .list []), ("c", .null)]
    let between : Value :=
      .map [("b", .list []), ("c", .null)]
    let tooFar : PatchError :=
      .pathNotFound "/b/1"
    EndsHalfWay document (moving "/a" "/b/1") between tooFar ∧
      apply document (moving "/a" "/b/1") = ⟨between, .error tooFar⟩ ∧
      between ≠ document ∧
      (apply document (replacing "/b/1" .null)).outcome =
        .error tooFar ∧
      ((apply document (replacing "/b/1" .null)).document = document ∨
        ∃ middle,
          EndsHalfWay document (replacing "/b/1" .null) middle tooFar) ∧
      (apply document ⟨.test, "/c", none, none⟩).document = document := by
  intro document between tooFar
  have ends : EndsHalfWay document (moving "/a" "/b/1") between tooFar :=
    ⟨rfl, "/a", .int 1, rfl, rfl, rfl⟩
  have fails :
      (apply document (replacing "/b/1" .null)).outcome = .error tooFar :=
    rfl
  obtain ⟨keeps, halfWay, tests⟩ := apply_keeps_or_endsHalfWay
  obtain ⟨applied, changed⟩ := halfWay _ _ _ _ ends
  exact
    ⟨ends, applied, changed, fails, keeps _ _ _ fails, tests _ _ rfl⟩

end Patch

end Mockup
