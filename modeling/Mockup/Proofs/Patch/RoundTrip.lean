import Mathlib.Data.List.Induction
import Mockup.Proofs.Patch.Locality
import Mockup.Proofs.Value.Agreement

namespace Mockup

namespace Patch

open Value (Agrees Sound NaNFree StrictlyEqual)

/-!
# From one document to the next

The patches between two documents are computed on the old one, but applied to
whatever a reader holds.  A reader who holds a value that agrees with the old
document comes by the patches to one that agrees with the new document.  How
scalars agree afterwards follows from how they agreed before: a scalar that is
strictly equal in both documents is left as it is, every other one is replaced.
-/

/--
How scalars are related before and after patches: one that is left alone is
still related, and one that is replaced is related to itself.
-/
structure Renews
    (source target : Value → Value → Prop) :
    Prop where
  kept :
    ∀ held old new,
      old.isContainer = false →
      source held old → StrictlyEqual old new → target held new
  replaced :
    ∀ new : Value,
      new.isContainer = false → new.IsNumeric → target new new

/-- Patches bring a held value to a sound one that agrees with the new one. -/
def Brings
    (target : Value → Value → Prop)
    (place : List String)
    (patches : List Patch)
    (held new : Value) :
    Prop :=
  ∃ reached,
    Turns place patches held reached ∧
      Sound reached ∧ Agrees target reached new

/-- The patches at a path from an old value to a new one, for every holder. -/
def Carries
    (source target : Value → Value → Prop)
    (path : String)
    (old new : Value) :
    Prop :=
  ∀ held, Sound held → Agrees source held old →
    Brings target (Pointer.tokens path) (diff path old new) held new

section

variable {source target : Value → Value → Prop} {path : String}

/-- Without what is not a number, replaced values agree with themselves. -/
theorem Renews.agrees_self
    (renews : Renews source target)
    {value : Value}
    (numeric : NaNFree value) :
    Agrees target value value :=
  .refl_of <| numeric.weaken fun part isNumeric isScalar =>
    renews.replaced part isScalar isNumeric

/-! ## Values of different shapes -/

/--
Two values of which the patches are not found part by part: they are kept
when they are strictly equal scalars, and replaced otherwise.
-/
theorem carries_unmatched
    (renews : Renews source target)
    {old new : Value}
    (newSound : Sound new)
    (newNumeric : NaNFree new)
    (patches :
      diff path old new =
        if old.strictEq new then [] else [replacing path new])
    (scalars :
      StrictlyEqual old new →
        old.isContainer = false ∧ new.isContainer = false) :
    Carries source target path old new := by
  intro held heldSound agrees
  rw [patches]
  by_cases equal : old.strictEq new = true
  · obtain ⟨oldScalar, newScalar⟩ := scalars equal
    obtain ⟨heldScalar, related⟩ := agrees.of_scalar oldScalar
    refine ⟨held, ?_, heldSound, ?_⟩
    · rw [if_pos equal]
      exact .nil held
    · exact .scalar heldScalar newScalar
        (renews.kept held old new oldScalar related equal)
  · refine ⟨new, ?_, newSound, renews.agrees_self newNumeric⟩
    rw [if_neg equal]
    exact .replacing path held new

/-! ## Maps -/

/-- A name that is gone is removed, another one follows the new map. -/
theorem turns_diffField
    (anchored : Pointer.IsAnchored path)
    {new held : Entries Value}
    {key : String}
    {old part : Value}
    (heldSound : Sound (.map held))
    (heldPart : Entries.get? held key = some part)
    (agrees : Agrees source part old)
    (carries :
      ∀ value,
        Entries.get? new key = some value →
        Carries source target (Pointer.child path key) old value) :
    ∃ reached : Entries Value,
      Turns (Pointer.tokens path) (diffFields path new [(key, old)])
        (.map held) (.map reached) ∧
      Sound (.map reached) ∧
      Option.Rel (Agrees target)
        (Entries.get? reached key) (Entries.get? new key) ∧
      ∀ other, other ≠ key →
        Entries.get? reached other = Entries.get? held other := by
  cases inNew : Entries.get? new key with
  | none =>
      have turns := Turns.removing_field anchored heldPart
      refine ⟨Entries.erase held key, ?_, heldSound.erase key, ?_, ?_⟩
      · simpa [diffFields, inNew] using turns
      · rw [Entries.get?_erase_same heldSound.here]
        exact .none
      · intro other different
        exact Entries.get?_erase_other held different
  | some value =>
      obtain ⟨reached, turns, reachedSound, reachedAgrees⟩ :=
        carries value inNew part (heldSound.field heldPart) agrees
      rw [Pointer.tokens_child anchored] at turns
      have turnsHeld := Turns.inside (.field heldPart) turns
      refine ⟨Entries.insert held key reached, ?_,
        heldSound.insert key reachedSound, ?_, ?_⟩
      · simpa [diffFields, inNew] using turnsHeld
      · rw [Entries.get?_insert_same]
        exact .some reachedAgrees
      · intro other different
        exact Entries.get?_insert_other held reached different

theorem diffFields_cons
    (path : String)
    (new : Entries Value)
    (entry : String × Value)
    (fields : Entries Value) :
    diffFields path new (entry :: fields) =
      diffFields path new [entry] ++ diffFields path new fields := by
  rcases entry with ⟨key, old⟩
  simp [diffFields]

/-- The names that are gone are removed, the others follow the new map. -/
theorem turns_diffFields
    (anchored : Pointer.IsAnchored path)
    {new fields held : Entries Value}
    (distinct : (Entries.names fields).Nodup)
    (heldSound : Sound (.map held))
    (agrees :
      ∀ key old,
        (key, old) ∈ fields →
        ∃ part,
          Entries.get? held key = some part ∧ Agrees source part old)
    (carries :
      ∀ key old value,
        (key, old) ∈ fields →
        Entries.get? new key = some value →
        Carries source target (Pointer.child path key) old value) :
    ∃ reached : Entries Value,
      Turns (Pointer.tokens path) (diffFields path new fields)
        (.map held) (.map reached) ∧
      Sound (.map reached) ∧
      (∀ key ∈ Entries.names fields,
        Option.Rel (Agrees target)
          (Entries.get? reached key) (Entries.get? new key)) ∧
      ∀ key, key ∉ Entries.names fields →
        Entries.get? reached key = Entries.get? held key := by
  induction fields generalizing held with
  | nil =>
      refine ⟨held, .nil _, heldSound, ?_, fun _ _ => rfl⟩
      intro key member
      simp at member
  | cons entry fields inductionHypothesis =>
      rcases entry with ⟨key, old⟩
      obtain ⟨keyFresh, distinctFields⟩ := List.nodup_cons.mp distinct
      obtain ⟨part, heldPart, partAgrees⟩ := agrees key old (by simp)
      obtain ⟨next, turnsFirst, nextSound, firstReached, firstKept⟩ :=
        turns_diffField anchored heldSound heldPart partAgrees
          fun value => carries key old value (by simp)
      -- The first name is not among the others, which are as they were.
      have restAgrees :
          ∀ other value,
            (other, value) ∈ fields →
            ∃ part,
              Entries.get? next other = some part ∧
                Agrees source part value := by
        intro other value member
        have named : other ∈ Entries.names fields :=
          List.mem_map.mpr ⟨_, member, rfl⟩
        have different : other ≠ key := by
          rintro rfl
          exact keyFresh named
        rw [firstKept other different]
        exact agrees other value (List.mem_cons_of_mem _ member)
      obtain ⟨reached, turnsRest, reachedSound, restReached, restKept⟩ :=
        inductionHypothesis distinctFields nextSound restAgrees
          fun other value result member =>
            carries other value result (List.mem_cons_of_mem _ member)
      refine ⟨reached, ?_, reachedSound, ?_, ?_⟩
      · rw [diffFields_cons]
        exact turnsFirst.append turnsRest
      · intro other member
        rcases List.mem_cons.mp member with isFirst | inRest
        · obtain rfl : other = key := isFirst
          rw [restKept other keyFresh]
          exact firstReached
        · exact restReached other inRest
      · intro other absent
        obtain ⟨notFirst, notInRest⟩ := List.ne_and_not_mem_of_not_mem_cons absent
        rw [restKept other notInRest, firstKept other notFirst]

/-- The entries whose names are new are added, and nothing else changes. -/
theorem turns_addNewFields
    (anchored : Pointer.IsAnchored path)
    (old : Entries Value)
    {fields held : Entries Value}
    (distinct : (Entries.names fields).Nodup)
    (fieldsSound : ∀ entry ∈ fields, Sound entry.2)
    (heldSound : Sound (.map held)) :
    ∃ reached : Entries Value,
      Turns (Pointer.tokens path) (addNewFields path old fields)
        (.map held) (.map reached) ∧
      Sound (.map reached) ∧
      ∀ key,
        Entries.get? reached key =
          if key ∈ Entries.names fields ∧ key ∉ Entries.names old then
            Entries.get? fields key
          else
            Entries.get? held key := by
  induction fields generalizing held with
  | nil =>
      refine ⟨held, .nil _, heldSound, ?_⟩
      simp [Entries.names]
  | cons entry fields inductionHypothesis =>
      rcases entry with ⟨key, value⟩
      have distinctFields := List.nodup_cons.mp distinct
      have restSound : ∀ entry ∈ fields, Sound entry.2 :=
        fun entry member =>
          fieldsSound entry (List.mem_cons_of_mem _ member)
      have notAgain : key ∉ Entries.names fields :=
        distinctFields.1
      by_cases known : Entries.contains old key = true
      · obtain ⟨reached, turns, reachedSound, looksUp⟩ :=
          inductionHypothesis distinctFields.2 restSound heldSound
        refine ⟨reached, ?_, reachedSound, ?_⟩
        · simpa [addNewFields, known] using turns
        · intro other
          have inOld := Entries.contains_iff.mp known
          rw [looksUp other]
          by_cases same : other = key
          · subst other
            simp [inOld]
          · have different : key ≠ other := Ne.symm same
            simp [Entries.get?, same, different]
      · have valueSound : Sound value :=
          fieldsSound (key, value) (by simp)
        obtain ⟨reached, turns, reachedSound, looksUp⟩ :=
          inductionHypothesis distinctFields.2 restSound
            (heldSound.insert key valueSound)
        have turnsAll :=
          (Turns.adding_field anchored held key value).append turns
        refine ⟨reached, ?_, reachedSound, ?_⟩
        · simpa [addNewFields, known] using turnsAll
        · intro other
          have notInOld : key ∉ Entries.names old :=
            fun member => known (Entries.contains_iff.mpr member)
          rw [looksUp other]
          by_cases same : other = key
          · subst other
            simp [notAgain, notInOld, Entries.get?]
          · have different : key ≠ other := Ne.symm same
            simp [Entries.get?, same, different,
              Entries.get?_insert_other held value same]

/-- The patches between two maps carry what their values carry. -/
theorem carries_map
    (renews : Renews source target)
    (anchored : Pointer.IsAnchored path)
    {old new : Entries Value}
    (oldSound : Sound (.map old))
    (newSound : Sound (.map new))
    (newNumeric : NaNFree (.map new))
    (carries :
      ∀ key oldValue newValue,
        (key, oldValue) ∈ old →
        Entries.get? new key = some newValue →
        Carries source target (Pointer.child path key)
          oldValue newValue) :
    Carries source target path (.map old) (.map new) := by
  intro held heldSound agrees
  obtain ⟨fields, rfl, under⟩ := agrees.exists_map
  have oldFound :
      ∀ key value,
        (key, value) ∈ old →
        ∃ part,
          Entries.get? fields key = some part ∧
            Agrees source part value := by
    intro key value member
    have underKey := under key
    rw [Entries.get?_eq_some_of_mem oldSound.here member] at underKey
    generalize Entries.get? fields key = found at underKey
    cases underKey with
    | some partAgrees =>
        exact ⟨_, rfl, partAgrees⟩
  obtain ⟨kept, turnsOld, keptSound, keptAgrees, keptOthers⟩ :=
    turns_diffFields anchored oldSound.here heldSound oldFound carries
  have newFieldsSound : ∀ entry ∈ new, Sound entry.2 :=
    (Value.Throughout.map_iff.mp newSound).2
  obtain ⟨reached, turnsNew, reachedSound, looksUp⟩ :=
    turns_addNewFields anchored old newSound.here newFieldsSound
      keptSound
  refine ⟨.map reached, ?_, reachedSound, Agrees.map_iff.mpr ?_⟩
  · simpa only [diff] using turnsOld.append turnsNew
  · intro key
    rw [looksUp key]
    by_cases inOld : key ∈ Entries.names old
    · simpa [inOld] using keptAgrees key inOld
    · cases inNew : Entries.get? new key with
      | none =>
          have notNamed := Entries.get?_eq_none_iff.mp inNew
          have missing : Entries.get? kept key = none := by
            have underKey := under key
            rw [Entries.get?_eq_none_iff.mpr inOld] at underKey
            rw [keptOthers key inOld]
            generalize Entries.get? fields key = found at underKey
            cases underKey
            rfl
          simp only [notNamed, false_and, if_false, missing]
          exact .none
      | some value =>
          have named : key ∈ Entries.names new :=
            Entries.get?_isSome_iff.mp (by simp [inNew])
          simp only [named, inOld, not_false_eq_true, and_self, if_true]
          exact .some (renews.agrees_self (newNumeric.field inNew))

/-! ## Lists -/

/-- Items behind the end of a list are added one after another. -/
theorem turns_addItems
    (anchored : Pointer.IsAnchored path)
    {front items : List Value}
    (areWords : (front ++ items).length < Value.positionLimit) :
    Turns (Pointer.tokens path) (addItems path front.length items)
      (.list front) (.list (front ++ items)) := by
  induction items generalizing front with
  | nil =>
      simpa [addItems] using Turns.nil (Value.list front)
  | cons item items inductionHypothesis =>
      have isWord : front.length < Nat.pow 2 64 := by
        simp only [List.length_append, Value.positionLimit] at areWords
        omega
      have restWords :
          ((front ++ [item]) ++ items).length < Value.positionLimit := by
        simpa using areWords
      have turnsFirst := Turns.adding_item anchored isWord item
      simpa [addItems] using
        turnsFirst.append (inductionHypothesis restWords)

/-- Items at the end of a list are removed, the last one first. -/
theorem turns_removeItems
    (anchored : Pointer.IsAnchored path)
    {front items : List Value}
    (areWords : (front ++ items).length ≤ Value.positionLimit) :
    Turns (Pointer.tokens path)
      (removeItems path front.length items.length)
      (.list (front ++ items)) (.list front) := by
  -- The last item goes first, so the items are taken from the end.
  induction items using List.reverseRecOn with
  | nil =>
      simpa [removeItems] using Turns.nil (Value.list front)
  | append_singleton items item inductionHypothesis =>
      have isWord : (front ++ items).length < Nat.pow 2 64 := by
        simp only [List.length_append, List.length_singleton,
          Value.positionLimit] at areWords ⊢
        omega
      have turnsRest :=
        inductionHypothesis (by
          simp only [Value.positionLimit]
          omega)
      have turnsLast := Turns.removing_item anchored isWord item
      simpa [removeItems] using turnsLast.append turnsRest

/-- The patches between two lists carry what their items carry. -/
theorem turns_diffItems
    (renews : Renews source target)
    (anchored : Pointer.IsAnchored path)
    {front held olds news : List Value}
    (agrees : List.Forall₂ (Agrees source) held olds)
    (heldSound : ∀ item ∈ held, Sound item)
    (newsSound : ∀ item ∈ news, Sound item)
    (newsNumeric : ∀ item ∈ news, NaNFree item)
    (heldWords : (front ++ held).length < Value.positionLimit)
    (newWords : (front ++ news).length < Value.positionLimit)
    (carries :
      ∀ token,
        ∀ old ∈ olds, ∀ new ∈ news,
          Carries source target (Pointer.child path token) old new) :
    ∃ reached : List Value,
      Turns (Pointer.tokens path) (diffItems path front.length olds news)
        (.list (front ++ held)) (.list (front ++ reached)) ∧
      (∀ item ∈ reached, Sound item) ∧
      List.Forall₂ (Agrees target) reached news := by
  -- `front` collects the items that the patches have passed already.
  induction agrees generalizing front news with
  | nil =>
      refine ⟨news, ?_, newsSound, ?_⟩
      · simpa [diffItems] using turns_addItems anchored newWords
      · exact List.forall₂_same.mpr fun item member =>
          renews.agrees_self (newsNumeric item member)
  | @cons part old held olds partAgrees restAgree inductionHypothesis =>
      cases news with
      | nil =>
          refine ⟨[], ?_, by simp, .nil⟩
          have sameLength := restAgree.length_eq
          simpa [diffItems, sameLength] using
            turns_removeItems anchored (Nat.le_of_lt heldWords)
      | cons new news =>
          obtain ⟨next, turnsPart, nextSound, nextAgrees⟩ :=
            carries (toString front.length) old (by simp) new (by simp)
              part (heldSound part (by simp)) partAgrees
          rw [Pointer.tokens_child anchored] at turnsPart
          have isWord : front.length < Nat.pow 2 64 := by
            simp only [List.length_append, Value.positionLimit]
              at newWords
            omega
          have leads :
              Path.Leads (.list (front ++ part :: held))
                (toString front.length) part
                fun value =>
                  .list ((front ++ part :: held).set front.length
                    value) :=
            .item (Text.ordinal?_toString isWord) (by simp)
          have turnsFirst := Turns.inside leads turnsPart
          have heldRest :
              ((front ++ [next]) ++ held).length <
                Value.positionLimit := by
            simpa using heldWords
          have newRest :
              ((front ++ [next]) ++ news).length <
                Value.positionLimit := by
            simpa using newWords
          obtain ⟨reached, turnsRest, reachedSound, reachedAgree⟩ :=
            inductionHypothesis
              (fun item member => heldSound item (by simp [member]))
              (fun item member => newsSound item (by simp [member]))
              (fun item member => newsNumeric item (by simp [member]))
              heldRest newRest
              (fun token item member other otherMember =>
                carries token item (by simp [member])
                  other (by simp [otherMember]))
          refine ⟨next :: reached, ?_, ?_, .cons nextAgrees reachedAgree⟩
          · rw [diffItems, Pointer.item_eq_child]
            refine turnsFirst.append ?_
            simpa using turnsRest
          · simpa using And.intro nextSound reachedSound

/-- The patches between two lists carry what their items carry. -/
theorem carries_list
    (renews : Renews source target)
    (anchored : Pointer.IsAnchored path)
    {old new : List Value}
    (newSound : Sound (.list new))
    (newNumeric : NaNFree (.list new))
    (carries :
      ∀ token,
        ∀ oldItem ∈ old, ∀ newItem ∈ new,
          Carries source target (Pointer.child path token)
            oldItem newItem) :
    Carries source target path (.list old) (.list new) := by
  intro held heldSound agrees
  obtain ⟨items, rfl, itemsAgree⟩ := agrees.exists_list
  have heldWords : ([] ++ items).length < Value.positionLimit :=
    heldSound.here
  have newWords : ([] ++ new).length < Value.positionLimit :=
    newSound.here
  obtain ⟨reached, turns, reachedSound, reachedAgree⟩ :=
    turns_diffItems renews anchored itemsAgree
      (Value.Throughout.list_iff.mp heldSound).2
      (Value.Throughout.list_iff.mp newSound).2
      (Value.Throughout.list_iff.mp newNumeric).2
      heldWords newWords carries
  have reachedShaped : (Value.list reached).IsShaped := by
    have sameLength := reachedAgree.length_eq
    simpa [Value.IsShaped, sameLength] using newWords
  refine ⟨.list reached, ?_, ?_, Agrees.list_iff.mpr reachedAgree⟩
  · simpa [diff] using turns
  · exact Value.Throughout.list_iff.mpr ⟨reachedShaped, reachedSound⟩

/-! ## Every value -/

/--
A reader who holds a value that agrees with the old document comes by the
patches to one that agrees with the new document.
-/
theorem carries_diff
    (renews : Renews source target)
    (anchored : Pointer.IsAnchored path)
    {old new : Value}
    (oldSound : Sound old)
    (newSound : Sound new)
    (newNumeric : NaNFree new) :
    Carries source target path old new := by
  -- The patches are found on the old value alone, so the induction is on it.
  induction old using Value.induction_on_parts generalizing new path with
  | step old inductionHypothesis =>
      cases old with
      | map oldFields =>
          cases new with
          | map newFields =>
              refine carries_map renews anchored oldSound newSound
                newNumeric ?_
              intro key oldValue newValue member found
              have isPart : oldValue ∈ (Value.map oldFields).parts :=
                List.mem_map.mpr ⟨_, member, rfl⟩
              exact inductionHypothesis oldValue isPart
                (anchored.child key) (oldSound.part isPart)
                (newSound.field found) (newNumeric.field found)
          | _ =>
              exact carries_unmatched renews newSound newNumeric
                (by simp [diff]) (by simp [StrictlyEqual, Value.strictEq])
      | list oldItems =>
          cases new with
          | list newItems =>
              refine carries_list renews anchored newSound
                newNumeric ?_
              intro token oldItem oldMember newItem newMember
              have isPart : oldItem ∈ (Value.list oldItems).parts :=
                oldMember
              have isNewPart : newItem ∈ (Value.list newItems).parts :=
                newMember
              exact inductionHypothesis oldItem isPart
                (anchored.child token) (oldSound.part isPart)
                (newSound.part isNewPart) (newNumeric.part isNewPart)
          | _ =>
              exact carries_unmatched renews newSound newNumeric
                (by simp [diff]) (by simp [StrictlyEqual, Value.strictEq])
      | _ =>
          refine carries_unmatched renews newSound newNumeric
            (by simp [diff]) ?_
          intro equal
          have sameKind := Value.isContainer_eq_of_strictlyEqual equal
          exact ⟨rfl, sameKind.symm⟩

end

/-! ## Applying the patches between two documents -/

/-- A scalar left alone stays as it is, hence strictly equal to the new one. -/
theorem renews_eq_strictlyEqual :
    Renews Eq StrictlyEqual where
  kept := by
    rintro held old new _ rfl equal
    exact equal
  replaced _ isScalar isNumeric :=
    Value.strictlyEqual_self_of_scalar isScalar isNumeric

/--
The patches from an old document to a new one apply to the old one, and what
comes of it is strictly equal to the new one.
-/
theorem applyAll_between_strictEq
    {old new : Value}
    (oldSound : Sound old)
    (newSound : Sound new)
    (newNumeric : NaNFree new) :
    ∃ reached,
      applyAll old (between (some old) new) = .ok reached ∧
        reached.strictEq new = true := by
  have oldAgrees : Agrees Eq old old :=
    .refl_of <| oldSound.weaken fun _ _ _ => rfl
  obtain ⟨reached, turns, reachedSound, agrees⟩ :=
    carries_diff renews_eq_strictlyEqual Pointer.isAnchored_root
      oldSound newSound newNumeric old oldSound oldAgrees
  exact ⟨reached, turns.applyAll_eq,
    Value.strictlyEqual_of_agrees reachedSound newSound agrees⟩

/-- Empty keys, dashes, slashes and tildes, and all kinds of change at once. -/
theorem applyAll_between_strictEq_mixed :
    let old : Value :=
      .map [("", .list [.int 1, .map [("a/b", .float .one)], .null]),
        ("-", .string "x"), ("~", .int 2)]
    let new : Value :=
      .map [("-", .list [.bool true]),
        ("", .list [.float .one, .map [("a/b", .int 1), ("~1", .null)]])]
    Sound old ∧ Sound new ∧ NaNFree new ∧
      ∃ reached,
        applyAll old (between (some old) new) = .ok reached ∧
          reached.strictEq new = true := by
  intro old new
  have oldSound : Sound old := by
    simp [old, Value.IsShaped, Value.positionLimit]
  have newSound : Sound new := by
    simp [new, Value.IsShaped, Value.positionLimit]
  have newNumeric : NaNFree new := by
    simp only [new, Value.Throughout.map_iff, Value.Throughout.list_iff,
      List.forall_mem_cons, Value.Throughout.float_iff]
    simp [Value.IsNumeric, Double.isNaN, Double.one, Double.ofInt,
      Double.ofRatio, Double.ofUnits, Double.ofRank]
  exact ⟨oldSound, newSound, newNumeric,
    applyAll_between_strictEq oldSound newSound newNumeric⟩

end Patch

end Mockup
