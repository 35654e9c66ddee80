import Mockup.Text.Pieces

namespace Mockup.Text

/-!
# Pieces of texts

Cutting a text at a separator gives at least one piece, and no piece holds the
separator.  Put together again, with a separator in front of each, the pieces
are the text.
-/

theorem splitAt_ne_nil
    (separator : Char)
    (chars : List Char) :
    splitAt separator chars ≠ [] := by
  induction chars with
  | nil =>
      simp [splitAt]
  | cons char rest inductionHypothesis =>
      by_cases same : char = separator
      · simp [splitAt, same]
      · cases pieces : splitAt separator rest with
        | nil =>
            exact (inductionHypothesis pieces).elim
        | cons piece later =>
            simp [splitAt, same, pieces, consFirst]

/-- A character that is no separator is put in front of the first piece. -/
theorem exists_splitAt_cons
    {separator char : Char}
    (different : char ≠ separator)
    (rest : List Char) :
    ∃ piece later,
      splitAt separator rest = piece :: later ∧
        splitAt separator (char :: rest) = (char :: piece) :: later := by
  cases pieces : splitAt separator rest with
  | nil =>
      exact (splitAt_ne_nil separator rest pieces).elim
  | cons piece later =>
      exact ⟨piece, later, rfl, by simp [splitAt, different, pieces, consFirst]⟩

theorem splitAt_of_not_mem
    {separator : Char}
    {chars : List Char}
    (absent : separator ∉ chars) :
    splitAt separator chars = [chars] := by
  induction chars with
  | nil =>
      rfl
  | cons char rest inductionHypothesis =>
      have different : char ≠ separator := by
        intro same
        exact absent (by simp [same])
      have restAbsent : separator ∉ rest := by
        intro member
        exact absent (List.mem_cons_of_mem _ member)
      simp [splitAt, different, inductionHypothesis restAbsent,
        consFirst]

/-- A separator divides the pieces before it from those behind it. -/
theorem splitAt_append
    (separator : Char)
    (before after : List Char) :
    splitAt separator (before ++ separator :: after) =
      splitAt separator before ++ splitAt separator after := by
  induction before with
  | nil =>
      simp [splitAt]
  | cons char rest inductionHypothesis =>
      by_cases same : char = separator
      · simp [splitAt, same, inductionHypothesis]
      · obtain ⟨piece, later, pieces, longer⟩ :=
          exists_splitAt_cons same rest
        rw [longer, List.cons_append, splitAt, if_neg same,
          inductionHypothesis, pieces]
        rfl

/-- A piece holds no separator, and nothing that the text does not hold. -/
theorem mem_of_mem_splitAt
    {separator : Char}
    {chars piece : List Char}
    (isPiece : piece ∈ splitAt separator chars)
    {char : Char}
    (member : char ∈ piece) :
    char ∈ chars ∧ char ≠ separator := by
  induction chars generalizing piece with
  | nil =>
      simp only [splitAt, List.mem_singleton] at isPiece
      simp [isPiece] at member
  | cons first rest inductionHypothesis =>
      -- What holds of the pieces of the rest holds of those of the whole.
      have later :
          ∀ {other : List Char},
            other ∈ splitAt separator rest →
            char ∈ other →
            char ∈ first :: rest ∧ char ≠ separator := by
        intro other isOther inOther
        obtain ⟨inRest, different⟩ := inductionHypothesis isOther inOther
        exact ⟨List.mem_cons_of_mem _ inRest, different⟩
      by_cases same : first = separator
      · simp only [splitAt, same, if_true, List.mem_cons] at isPiece
        rcases isPiece with rfl | isLater
        · cases member
        · exact same ▸ later isLater member
      · obtain ⟨head, others, pieces, longer⟩ := exists_splitAt_cons same rest
        rw [longer, List.mem_cons] at isPiece
        rcases isPiece with rfl | isOther
        · rcases List.mem_cons.mp member with rfl | inHead
          · exact ⟨List.mem_cons_self, same⟩
          · exact later (by simp [pieces]) inHead
        · exact later (by simp [pieces, isOther]) member

/-- The first piece begins as the text does, unless that begins a new piece. -/
theorem head?_of_splitAt
    {separator char : Char}
    {chars piece : List Char}
    {later : List (List Char)}
    (pieces : splitAt separator chars = piece :: later)
    (different : char ≠ separator)
    (isFirst : chars.head? = some char) :
    piece.head? = some char := by
  obtain ⟨rest, rfl⟩ := List.head?_eq_some_iff.mp isFirst
  obtain ⟨head, others, -, longer⟩ := exists_splitAt_cons different rest
  rw [longer, List.cons.injEq] at pieces
  rw [← pieces.1]
  rfl

/-- The pieces of a text with separators in front of them are the text. -/
theorem flatMap_splitAt
    (separator : Char)
    (chars : List Char) :
    ((splitAt separator chars).flatMap fun piece => separator :: piece) =
      separator :: chars := by
  induction chars with
  | nil =>
      rfl
  | cons char rest inductionHypothesis =>
      by_cases same : char = separator
      · simp [splitAt, same, inductionHypothesis]
      · obtain ⟨piece, later, pieces, longer⟩ := exists_splitAt_cons same rest
        rw [pieces, List.flatMap_cons, List.cons_append, List.cons.injEq]
          at inductionHypothesis
        simp [longer, inductionHypothesis.2]

end Mockup.Text
