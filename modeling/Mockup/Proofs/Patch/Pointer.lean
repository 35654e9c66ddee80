import Mockup.Patch.Pointer
import Mockup.Proofs.Text.Ordinal
import Mockup.Proofs.Text.Pieces

namespace Mockup

/-!
# Tokens of built pointers

A pointer that is built token by token is cut back into those tokens: an
escaped token holds no slash and unescapes to itself, whatever its characters
are, and the position of an item is written in digits that name it.
-/

namespace Pointer

/-! ## Escaping -/

theorem unescape_cons
    {char : Char}
    (plain : char ≠ '~')
    (rest : List Char) :
    unescape (char :: rest) = char :: unescape rest := by
  conv =>
    lhs
    unfold unescape
  split <;> simp_all

/-- Unescaping undoes escaping. -/
theorem unescape_escape
    (token : List Char) :
    unescape (escape token) = token := by
  induction token with
  | nil =>
      rfl
  | cons char rest inductionHypothesis =>
      unfold escape at inductionHypothesis ⊢
      by_cases isTilde : char = '~'
      · simp [isTilde, unescape, inductionHypothesis]
      · by_cases isSlash : char = '/'
        · simp [isSlash, unescape, inductionHypothesis]
        · simp [isTilde, isSlash, unescape_cons isTilde,
            inductionHypothesis]

theorem slash_not_mem_escape
    (token : List Char) :
    '/' ∉ escape token := by
  intro member
  obtain ⟨char, _, inEscape⟩ := List.mem_flatMap.mp member
  by_cases isTilde : char = '~'
  · simp [isTilde] at inEscape
  · by_cases isSlash : char = '/'
    · simp [isSlash] at inEscape
    · rw [if_neg isTilde, if_neg isSlash] at inEscape
      exact isSlash (List.mem_singleton.mp inEscape).symm

/-- A token of plain characters is written as it is. -/
theorem escape_of_plain
    {token : List Char}
    (plain : ∀ char ∈ token, char ≠ '~' ∧ char ≠ '/') :
    escape token = token := by
  induction token with
  | nil =>
      rfl
  | cons char rest inductionHypothesis =>
      have charPlain := plain char (by simp)
      have restPlain :=
        inductionHypothesis fun other member =>
          plain other (List.mem_cons_of_mem _ member)
      unfold escape at restPlain ⊢
      simp [charPlain.1, charPlain.2, restPlain]

/-! ## Building -/

/-- A pointer that is the root or begins with a slash. -/
def IsAnchored
    (pointer : String) :
    Prop :=
  pointer = "" ∨ pointer.toList.head? = some '/'

theorem isAnchored_root :
    IsAnchored "" :=
  Or.inl rfl

/-- The characters of the pointer to a part. -/
theorem toList_child
    (parent token : String) :
    (child parent token).toList =
      parent.toList ++ '/' :: escape token.toList := by
  simp [child]

theorem IsAnchored.child
    {parent : String}
    (anchored : IsAnchored parent)
    (token : String) :
    IsAnchored (Pointer.child parent token) := by
  refine Or.inr ?_
  rw [toList_child]
  rcases anchored with rfl | slashFirst
  · rfl
  · simp [List.head?_append, slashFirst]

theorem item_eq_child
    (parent : String)
    (index : Nat) :
    item parent index = child parent (toString index) := by
  have plain :
      ∀ char ∈ (toString index).toList, char ≠ '~' ∧ char ≠ '/' := by
    intro char member
    have isDigit : char.isDigit = true :=
      Text.isDigit_of_mem_toDigits (by simpa using member)
    constructor <;>
    · rintro rfl
      simp [Char.isDigit] at isDigit
  simp only [item, child, escape_of_plain plain, String.ofList_toList]

/-- The tokens of the pointer to a part: those of the whole, and its own. -/
theorem tokens_child
    {parent : String}
    (anchored : IsAnchored parent)
    (token : String) :
    tokens (child parent token) = tokens parent ++ [token] := by
  have nonempty : child parent token ≠ "" := by
    intro empty
    have noChars := congrArg String.toList empty
    rw [toList_child] at noChars
    simp at noChars
  have lastPiece :
      Text.splitAt '/' (escape token.toList) = [escape token.toList] :=
    Text.splitAt_of_not_mem (slash_not_mem_escape _)
  rw [tokens, if_neg nonempty, toList_child]
  rcases anchored with rfl | slashFirst
  · simp [Text.dropLeading, lastPiece, unescape_escape, tokens]
  · have parentNonempty : parent ≠ "" := by
      rintro rfl
      simp at slashFirst
    obtain ⟨rest, parentShape⟩ :
        ∃ rest, parent.toList = '/' :: rest := by
      cases shape : parent.toList with
      | nil =>
          simp [shape] at slashFirst
      | cons first rest =>
          simp only [shape, List.head?_cons, Option.some.injEq]
            at slashFirst
          exact ⟨rest, by rw [slashFirst]⟩
    rw [tokens, if_neg parentNonempty, parentShape, List.cons_append]
    simp only [Text.dropLeading, if_true, Text.splitAt_append, lastPiece,
      List.map_append, List.map_cons, List.map_nil, unescape_escape,
      String.ofList_toList]

/-- The root alone has no tokens. -/
theorem tokens_eq_nil_iff
    (pointer : String) :
    tokens pointer = [] ↔ pointer = "" := by
  by_cases isRoot : pointer = ""
  · simp [tokens, isRoot]
  · simp [tokens, isRoot, Text.splitAt_ne_nil]

end Pointer

end Mockup
