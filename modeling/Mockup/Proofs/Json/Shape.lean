import Mockup.Json.Shape
import Mockup.Proofs.Entries
import Mockup.Proofs.Json.Reader
import Mockup.Proofs.Number.Rounding

namespace Mockup

/-!
# Agreement on a shape

A shape lists the parts of a document that are read.  Two trees agree on it
when these parts are the same; where every part is read, trees that agree are
equal, and their numbers are finite as doubles.
-/

namespace Json

/-! ## Agreement of trees -/

/-- A part without parts of its own, with a number that a double can hold. -/
def IsScalar : Json → Prop
  | .integer value =>
      (Double.ofInt value).isFinite = true
  | .number value =>
      value.isFinite = true
  | .array _ =>
      False
  | .object _ =>
      False
  | _ =>
      True

/-- An integer literal that is kept has 64 bits. -/
theorem natAbs_of_integerLiteral?
    {negative : Bool}
    {digits : List Char}
    {value : Int}
    (kept : integerLiteral? negative digits = some value) :
    value.natAbs ≤ Nat.pow 2 64 := by
  have bounds : Value.intBounds.1 = -2 ^ 63 :=
    rfl
  have greatest : greatestInteger = 2 ^ 64 - 1 :=
    rfl
  rw [Nat.pow_eq]
  unfold integerLiteral? at kept
  simp only [bounds, greatest] at kept
  split at kept
  · split at kept
    · cases kept
    · rename_i small
      cases kept
      simp only [Bool.or_eq_true, decide_eq_true_eq, not_or] at small
      omega
  · split at kept
    · rename_i small
      cases kept
      omega
    · cases kept

/-- What a number token stands for is a scalar. -/
theorem NumberToken.isScalar_of_tree?
    {token : NumberToken}
    {part : Json}
    (named : token.tree? = some part) :
    part.IsScalar := by
  unfold tree? at named
  simp only at named
  have ofDouble :
      ∀ {literal : List Char} {double : Json},
        doubleLiteral? literal = some double → double.IsScalar := by
    intro literal double isDouble
    unfold doubleLiteral? at isDouble
    split at isDouble
    · obtain ⟨isFinite, same⟩ := Option.ite_none_right_eq_some.mp isDouble
      cases same
      exact isFinite
    · cases isDouble
  split at named
  · split at named
    · rename_i value isInteger
      cases named
      exact Double.isFinite_ofInt (natAbs_of_integerLiteral? isInteger)
    · exact ofDouble named
  · exact ofDouble named

namespace Shape

/-- The shape of an item, none if it is ignored. -/
def item?
    (shape : Shape)
    (index : Nat) :
    Option Shape :=
  match shape with
  | .whole =>
      some .whole
  | .each part =>
      some part
  | .record fields =>
      fields[index]?.map Prod.snd

/-- The shape of a member, none if it is ignored. -/
def member?
    (shape : Shape)
    (key : String) :
    Option Shape :=
  match shape with
  | .whole =>
      some .whole
  | .each part =>
      some part
  | .record fields =>
      fields.lookup key

theorem part?_array
    (shape : Shape)
    (reversed : List Json) :
    shape.part? (.array reversed) = shape.item? reversed.length := by
  cases shape <;> rfl

theorem part?_object
    (shape : Shape)
    (reversed : List (String × Json))
    (key : String) :
    shape.part? (.object reversed key) = shape.member? key := by
  cases shape <;> rfl

end Shape

/-- Two trees agree on the parts in a shape; without one nothing counts. -/
inductive AgreesOn : Option Shape → Json → Json → Prop where
  | ignored
      {left right : Json} :
      AgreesOn none left right
  | scalar
      {shape : Option Shape}
      {part : Json} :
      part.IsScalar →
      AgreesOn shape part part
  | array
      {shape : Shape}
      {lefts rights : List Json} :
      lefts.length = rights.length →
      (∀ (index : Nat) left right,
        lefts[index]? = some left →
        rights[index]? = some right →
        AgreesOn (shape.item? index) left right) →
      AgreesOn (some shape) (.array lefts) (.array rights)
  | object
      {shape : Shape}
      {lefts rights : List (String × Json)} :
      Entries.names lefts = Entries.names rights →
      (∀ (index : Nat) left right,
        lefts[index]? = some left →
        rights[index]? = some right →
        AgreesOn (shape.member? left.1) left.2 right.2) →
      AgreesOn (some shape) (.object lefts) (.object rights)

namespace AgreesOn

/-- What stands at one place of two lists with one more item at the end. -/
theorem lastOrInside
    {lefts rights : List α}
    {left right first second : α}
    {index : Nat}
    (atLeft : (lefts ++ [left])[index]? = some first)
    (atRight : (rights ++ [right])[index]? = some second)
    (sameLength : lefts.length = rights.length) :
    (lefts[index]? = some first ∧ rights[index]? = some second) ∨
      index = lefts.length ∧ left = first ∧ right = second := by
  rcases Nat.lt_or_ge index lefts.length with inside | atEnd
  · rw [List.getElem?_append_left inside] at atLeft
    rw [List.getElem?_append_left (sameLength ▸ inside)] at atRight
    exact Or.inl ⟨atLeft, atRight⟩
  · rw [List.getElem?_append_right atEnd] at atLeft
    rw [List.getElem?_append_right (sameLength ▸ atEnd)] at atRight
    rw [List.getElem?_singleton] at atLeft atRight
    split at atLeft
    · rename_i isLast
      rw [← sameLength, if_pos isLast] at atRight
      cases atLeft
      cases atRight
      exact Or.inr ⟨by omega, rfl, rfl⟩
    · cases atLeft

variable
  {shape : Shape}

theorem length_eq
    {lefts rights : List Json}
    (agrees : AgreesOn (some shape) (.array lefts) (.array rights)) :
    lefts.length = rights.length := by
  cases agrees with
  | scalar isScalar =>
      cases isScalar
  | array sameLength _ =>
      exact sameLength

/-- A last item on both sides. -/
theorem array_append
    {lefts rights : List Json}
    (agrees : AgreesOn (some shape) (.array lefts) (.array rights))
    {left right : Json}
    (last : AgreesOn (shape.item? lefts.length) left right) :
    AgreesOn (some shape) (.array (lefts ++ [left]))
      (.array (rights ++ [right])) := by
  cases agrees with
  | scalar isScalar =>
      cases isScalar
  | array sameLength items =>
      refine .array (by simp [sameLength]) ?_
      intro index first second atLeft atRight
      rcases lastOrInside atLeft atRight sameLength with
        ⟨inLefts, inRights⟩ | ⟨rfl, rfl, rfl⟩
      · exact items index first second inLefts inRights
      · exact last

/-- A last member on both sides. -/
theorem object_append
    {lefts rights : List (String × Json)}
    (agrees : AgreesOn (some shape) (.object lefts) (.object rights))
    {key : String}
    {left right : Json}
    (last : AgreesOn (shape.member? key) left right) :
    AgreesOn (some shape) (.object (lefts ++ [(key, left)]))
      (.object (rights ++ [(key, right)])) := by
  cases agrees with
  | scalar isScalar =>
      cases isScalar
  | object sameNames members =>
      have sameLength := Entries.length_eq_of_names_eq sameNames
      refine .object (by simpa [Entries.names] using sameNames) ?_
      intro index first second atLeft atRight
      rcases lastOrInside atLeft atRight sameLength with
        ⟨inLefts, inRights⟩ | ⟨rfl, rfl, rfl⟩
      · exact members index first second inLefts inRights
      · exact last

end AgreesOn

/-! ## Trees of which every part is read -/

/-- A tree of which the numbers are finite as doubles. -/
inductive HasFiniteNumbers : Json → Prop where
  | scalar
      {part : Json} :
      part.IsScalar →
      HasFiniteNumbers part
  | array
      {items : List Json} :
      (∀ item ∈ items, HasFiniteNumbers item) →
      HasFiniteNumbers (.array items)
  | object
      {fields : List (String × Json)} :
      (∀ field ∈ fields, HasFiniteNumbers field.2) →
      HasFiniteNumbers (.object fields)

/-- Where every part counts, trees that agree are the same and finite. -/
theorem AgreesOn.eq_of_whole
    {left right : Json}
    (agrees : left.AgreesOn (some .whole) right) :
    left = right ∧ left.HasFiniteNumbers := by
  generalize isWhole : some Shape.whole = shape at agrees
  induction agrees with
  | ignored =>
      cases isWhole
  | scalar isScalar =>
      exact ⟨rfl, .scalar isScalar⟩
  | @array shape lefts rights sameLength _ inductionHypothesis =>
      cases isWhole
      have each :
          ∀ index (inLefts : index < lefts.length)
            (inRights : index < rights.length),
            lefts[index] = rights[index] ∧
              lefts[index].HasFiniteNumbers :=
        fun index inLefts inRights =>
          inductionHypothesis index _ _
            (List.getElem?_eq_getElem inLefts)
            (List.getElem?_eq_getElem inRights) rfl
      constructor
      · exact congrArg Json.array
          (List.ext_getElem sameLength fun index inLefts inRights =>
            (each index inLefts inRights).1)
      · refine .array fun item member => ?_
        obtain ⟨index, inLefts, rfl⟩ := List.getElem_of_mem member
        exact (each index inLefts (sameLength ▸ inLefts)).2
  | @object shape lefts rights sameNames _ inductionHypothesis =>
      cases isWhole
      have sameLength := Entries.length_eq_of_names_eq sameNames
      have each :
          ∀ index (inLefts : index < lefts.length)
            (inRights : index < rights.length),
            lefts[index].2 = rights[index].2 ∧
              lefts[index].2.HasFiniteNumbers :=
        fun index inLefts inRights =>
          inductionHypothesis index _ _
            (List.getElem?_eq_getElem inLefts)
            (List.getElem?_eq_getElem inRights) rfl
      constructor
      · exact congrArg Json.object
          (List.ext_getElem sameLength fun index inLefts inRights =>
            Prod.ext
              (Entries.name_eq_of_names_eq sameNames
                (List.getElem?_eq_getElem inLefts)
                (List.getElem?_eq_getElem inRights))
              (each index inLefts inRights).1)
      · refine .object fun field member => ?_
        obtain ⟨index, inLefts, rfl⟩ := List.getElem_of_mem member
        exact (each index inLefts (sameLength ▸ inLefts)).2

end Json

end Mockup
