import Mockup.Patch.Diff
import Mockup.Proofs.Patch.Pointer
import Mockup.Proofs.Value.Agreement

namespace Mockup

/-!
# No patches between equal documents

Strict equality looks at the lengths of two maps and at the keys of the first
one; the patches between two documents are found on the keys of both.  For maps
that have each key once both come to the same, as both decide whether the
documents agree up to strictly equal scalars.
-/

namespace Patch

open Value (Agrees Sound StrictlyEqual)

variable {path : String}

/-! ## Maps -/

/-- No entry is added when all keys are there already. -/
theorem addNewFields_eq_nil_iff
    {old fields : Entries Value} :
    addNewFields path old fields = [] ↔
      ∀ key ∈ Entries.names fields, key ∈ Entries.names old := by
  induction fields with
  | nil =>
      simp [addNewFields]
  | cons entry fields inductionHypothesis =>
      obtain ⟨key, value⟩ := entry
      rw [Entries.names_cons, List.forall_mem_cons, ← Entries.contains_iff]
      by_cases known : Entries.contains old key = true
      · simpa [addNewFields, known] using inductionHypothesis
      · simp [addNewFields, known]

/-- No entry is patched when each is found again and needs no patches. -/
theorem diffFields_eq_nil_iff
    {new fields : Entries Value} :
    diffFields path new fields = [] ↔
      ∀ key old,
        (key, old) ∈ fields →
        ∃ value,
          Entries.get? new key = some value ∧
            diff (Pointer.child path key) old value = [] := by
  induction fields with
  | nil =>
      simp [diffFields]
  | cons entry fields inductionHypothesis =>
      obtain ⟨key, old⟩ := entry
      rw [diffFields, List.append_eq_nil_iff, inductionHypothesis]
      constructor
      · rintro ⟨head, tail⟩ other value member
        rcases List.mem_cons.mp member with isFirst | inRest
        · cases isFirst
          cases found : Entries.get? new key with
          | none =>
              simp [found] at head
          | some part =>
              rw [found] at head
              exact ⟨part, rfl, head⟩
        · exact tail other value inRest
      · intro each
        obtain ⟨value, found, unchanged⟩ :=
          each key old List.mem_cons_self
        refine ⟨by rw [found]; exact unchanged, ?_⟩
        exact fun other value member =>
          each other value (List.mem_cons_of_mem _ member)

/-- Two maps need no patches exactly when they agree under every key. -/
theorem diff_map_eq_nil_iff
    {old new : Entries Value}
    (distinct : (Entries.names old).Nodup)
    (each :
      ∀ key oldValue newValue,
        Entries.get? old key = some oldValue →
        (diff (Pointer.child path key) oldValue newValue = [] ↔
          Agrees StrictlyEqual oldValue newValue)) :
    diff path (.map old) (.map new) = [] ↔
      Agrees StrictlyEqual (.map old) (.map new) := by
  rw [diff, List.append_eq_nil_iff, diffFields_eq_nil_iff,
    addNewFields_eq_nil_iff]
  constructor
  · rintro ⟨kept, known⟩
    refine .map (fun key => ⟨?_, known key⟩) ?_
    · intro member
      obtain ⟨⟨_, value⟩, inOld, rfl⟩ := List.mem_map.mp member
      obtain ⟨_, found, _⟩ := kept _ value inOld
      exact Entries.get?_isSome_iff.mp (by simp [found])
    · intro key oldValue newValue atOld atNew
      obtain ⟨_, found, unchanged⟩ :=
        kept key oldValue (Entries.mem_of_get?_eq_some atOld)
      rw [atNew] at found
      cases found
      exact (each key oldValue newValue atOld).mp unchanged
  · intro agrees
    have under := Agrees.map_iff.mp agrees
    refine ⟨?_, ?_⟩
    · intro key oldValue member
      have atOld := Entries.get?_eq_some_of_mem distinct member
      have related := under key
      rw [atOld] at related
      generalize Entries.get? new key = atNew at related
      cases related with
      | some agree =>
          exact ⟨_, rfl, (each key oldValue _ atOld).mpr agree⟩
    · intro key member
      have related := under key
      have isSome := Entries.get?_isSome_iff.mpr member
      rw [← Entries.get?_isSome_iff]
      generalize Entries.get? old key = atOld at related
      generalize Entries.get? new key = atNew at related isSome
      cases related with
      | some _ =>
          rfl
      | none =>
          cases isSome

/-! ## Lists -/

/-- Two lists need no patches exactly when their items need none. -/
theorem diffItems_eq_nil_iff
    {olds news : List Value}
    {index : Nat}
    (each :
      ∀ token,
        ∀ old ∈ olds, ∀ new ∈ news,
          (diff (Pointer.child path token) old new = [] ↔
            Agrees StrictlyEqual old new)) :
    diffItems path index olds news = [] ↔
      List.Forall₂ (Agrees StrictlyEqual) olds news := by
  induction olds generalizing news index with
  | nil =>
      cases news with
      | nil =>
          simp [diffItems, addItems]
      | cons new news =>
          simp [diffItems, addItems]
  | cons old olds inductionHypothesis =>
      cases news with
      | nil =>
          simp [diffItems, removeItems]
      | cons new news =>
          have restEach :
              diffItems path (index + 1) olds news = [] ↔
                List.Forall₂ (Agrees StrictlyEqual) olds news :=
            inductionHypothesis fun token old inOlds new inNews =>
              each token old (List.mem_cons_of_mem _ inOlds)
                new (List.mem_cons_of_mem _ inNews)
          rw [diffItems, List.append_eq_nil_iff, Pointer.item_eq_child,
            each _ old List.mem_cons_self new List.mem_cons_self,
            restEach, List.forall₂_cons]

/-! ## Every value -/

/-- A container is patched into what is no container of its kind. -/
theorem diff_eq_nil_iff_of_container
    {old new : Value}
    (isContainer : old.isContainer = true)
    (patched : diff path old new ≠ [])
    (notList : ∀ olds news, ¬ (old = .list olds ∧ new = .list news))
    (notMap : ∀ olds news, ¬ (old = .map olds ∧ new = .map news)) :
    diff path old new = [] ↔ Agrees StrictlyEqual old new := by
  refine iff_of_false patched ?_
  intro agrees
  cases agrees with
  | scalar isScalar _ _ =>
      rw [isContainer] at isScalar
      cases isScalar
  | list _ _ =>
      exact notList _ _ ⟨rfl, rfl⟩
  | map _ _ =>
      exact notMap _ _ ⟨rfl, rfl⟩

/-- Two values need no patches exactly when they agree. -/
theorem diff_eq_nil_iff
    {old : Value}
    (sound : Sound old)
    (new : Value)
    (path : String) :
    diff path old new = [] ↔ Agrees StrictlyEqual old new := by
  induction old using Value.induction_on_parts generalizing new path with
  | step old inductionHypothesis =>
      cases old with
      | map oldFields =>
          cases new with
          | map newFields =>
              refine diff_map_eq_nil_iff sound.here ?_
              intro key oldValue newValue atOld
              exact inductionHypothesis oldValue
                (Value.mem_parts_of_get? atOld) (sound.field atOld)
                newValue _
          | _ =>
              exact diff_eq_nil_iff_of_container rfl
                (by simp [diff, Value.strictEq]) (by simp) (by simp)
      | list oldItems =>
          cases new with
          | list newItems =>
              rw [diff, Agrees.list_iff]
              refine diffItems_eq_nil_iff ?_
              intro token oldItem member newItem _
              exact inductionHypothesis oldItem member
                (sound.part member) newItem _
          | _ =>
              exact diff_eq_nil_iff_of_container rfl
                (by simp [diff, Value.strictEq]) (by simp) (by simp)
      | _ =>
          rw [Value.agrees_iff_of_scalar rfl]
          simp [diff, StrictlyEqual]

/--
There are no patches between two documents exactly when they are strictly
equal.
-/
theorem between_eq_nil_iff
    {old new : Value}
    (oldSound : Sound old)
    (newSound : Sound new) :
    between (some old) new = [] ↔ old.strictEq new = true := by
  have agree := Value.strictlyEqual_iff_agrees oldSound newSound
  exact (diff_eq_nil_iff oldSound new "").trans agree.symm

/-- Keys in another order and numbers of another kind need no patches. -/
theorem between_eq_nil_iff_reordered :
    let old : Value :=
      .map [("a", .int 1), ("b", .list [.null, .map [("", .float .one)]])]
    let new : Value :=
      .map [("b", .list [.null, .map [("", .int 1)]]), ("a", .float .one)]
    Sound old ∧ Sound new ∧
      old.strictEq new = true ∧ between (some old) new = [] := by
  intro old new
  have oldSound : Sound old := by
    simp [old, Value.IsShaped, Value.positionLimit]
  have newSound : Sound new := by
    simp [new, Value.IsShaped, Value.positionLimit]
  have equal : old.strictEq new = true := by
    decide +kernel
  exact ⟨oldSound, newSound, equal,
    (between_eq_nil_iff oldSound newSound).mpr equal⟩

end Patch

end Mockup
