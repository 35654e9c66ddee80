import Mockup.Proofs.Value.Parts
import Mockup.Watch.Config

namespace Mockup

/-!
# Looking into values that are the same

Two maps are the same when they are equally long and every entry of the first
has its like in the second.  As no name comes twice in the first, none is left
over in the second, and looking up a name gives the same on both sides.  So
registrations that are the same are of the same kind.
-/

namespace Value

/-- The same text is an equal text. -/
theorem asString?_eq_of_same
    {left right : Value}
    (alike : left.same right = true) :
    left.asString? = right.asString? := by
  cases left <;> cases right <;> simp_all [same, asString?]

/-- Every entry on the left has its like on the right. -/
theorem exists_same_of_mem
    {lefts rights : Entries Value}
    (alike : sameFields lefts rights = true)
    {key : String}
    {left : Value}
    (member : (key, left) ∈ lefts) :
    ∃ right,
      Entries.get? rights key = some right ∧ left.same right = true := by
  induction lefts with
  | nil =>
      cases member
  | cons entry lefts inductionHypothesis =>
      obtain ⟨name, first⟩ := entry
      simp only [sameFields, Bool.and_eq_true] at alike
      obtain ⟨head, tail⟩ := alike
      rcases List.mem_cons.mp member with isFirst | inRest
      · cases isFirst
        cases found : Entries.get? rights key with
        | none =>
            simp [found] at head
        | some right =>
            exact ⟨right, rfl, by simpa [found] using head⟩
      · exact inductionHypothesis tail inRest

/-- Looking up a name in maps that are the same gives the same. -/
theorem rel_get?_of_same
    {lefts rights : Entries Value}
    (distinct : (Entries.names lefts).Nodup)
    (alike : (Value.map lefts).same (.map rights) = true)
    (key : String) :
    Option.Rel (fun left right => left.same right = true)
      (Entries.get? lefts key) (Entries.get? rights key) := by
  simp only [same, Bool.and_eq_true, beq_iff_eq] at alike
  obtain ⟨sameLength, fields⟩ := alike
  exact Entries.rel_get?_of_matched distinct sameLength
    (fun _ _ member => exists_same_of_mem fields member) key

/-- A text under a key is found alike in values that are the same. -/
theorem fieldText_eq_of_same
    {left right : Value}
    (sound : Sound left)
    (alike : left.same right = true)
    (key : String) :
    (left.field? key).bind asString? =
      (right.field? key).bind asString? := by
  cases left with
  | map lefts =>
      cases right with
      | map rights =>
          have related := rel_get?_of_same sound.here alike key
          simp only [field?]
          generalize Entries.get? lefts key = atLeft at related
          generalize Entries.get? rights key = atRight at related
          cases related with
          | none =>
              rfl
          | some alike =>
              exact asString?_eq_of_same alike
      | _ =>
          simp [same] at alike
  | _ =>
      cases right <;> simp_all [same, field?]

end Value

namespace WatchConfig

/-- Registrations that are the same are of the same kind. -/
theorem actionKind_eq_of_same
    {left right : WatchConfig}
    (sound : left.action.Sound)
    (alike : left.same right = true) :
    left.actionKind = right.actionKind := by
  simp only [same, Bool.and_eq_true] at alike
  have actions : left.action.same right.action = true :=
    alike.1.1.1.1.1
  have text := Value.asString?_eq_of_same actions
  have type := Value.fieldText_eq_of_same sound actions "type"
  unfold actionKind
  generalize left.action = leftAction at text type ⊢
  generalize right.action = rightAction at text type ⊢
  cases leftAction <;> cases rightAction <;>
    simp_all [Value.asString?]

end WatchConfig

end Mockup
