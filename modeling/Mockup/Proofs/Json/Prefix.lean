import Mockup.Proofs.Json.Reader

namespace Mockup

namespace Json

namespace Reader

/-!
# Prefixes of documents

Once the first bracket of a document is read, some container stays open until
the bracket that closes the first one, and from there on only blanks may
follow.  A text that ends with that bracket has therefore no proper prefix
that is a document.
-/

/-- Some container is open, and the document is not complete. -/
def IsInside
    (reader : Reader) :
    Prop :=
  reader.stack ≠ [] ∧ reader.mode.isDone = false

theorem isInside_finishPart
    {stack : List Frame}
    (nonempty : stack ≠ [])
    (part : Json) :
    (finishPart stack part).IsInside := by
  cases stack with
  | nil =>
      exact (nonempty rfl).elim
  | cons frame outer =>
      exact ⟨by simp [finishPart], rfl⟩

/-- A move from inside stays inside or completes the document. -/
theorem Moves.inside_or_done
    {reader next : Reader}
    (moves : Moves reader next)
    (inside : reader.IsInside) :
    next.IsInside ∨ next.mode.isDone = true := by
  cases moves with
  | rest =>
      exact Or.inl inside
  | within notDone _ =>
      exact Or.inl ⟨inside.1, notDone⟩
  | opened _ notDone _ =>
      exact Or.inl ⟨by simp, notDone⟩
  | named =>
      exact Or.inl ⟨by simp, rfl⟩
  | finished _ =>
      exact Or.inl (isInside_finishPart inside.1 _)
  | @closed outer _ frame =>
      cases outer with
      | nil =>
          exact Or.inr rfl
      | cons second others =>
          exact Or.inl (isInside_finishPart (by simp) _)

/-- A character read inside stays inside or completes the document. -/
theorem inside_or_done_of_step?
    {demands : Demands}
    {reader next : Reader}
    {char : Char}
    (inside : reader.IsInside)
    (stepped : reader.step? demands char = some next) :
    next.IsInside ∨ next.mode.isDone = true := by
  rcases moves_of_step? stepped with once | ⟨part, _, _, second⟩
  · exact once.inside_or_done inside
  · exact second.inside_or_done (isInside_finishPart inside.1 part)

theorem step?_of_isDone
    {demands : Demands}
    {reader next : Reader}
    {char : Char}
    (done : reader.mode.isDone = true)
    (stepped : reader.step? demands char = some next) :
    next = reader ∧ isSpace char = true := by
  rcases reader with ⟨stack, mode⟩
  cases mode with
  | done document =>
      simp only [step?, stepPlain?] at stepped
      split at stepped
      · rename_i space
        cases stepped
        exact ⟨rfl, space⟩
      · cases stepped
  | _ =>
      simp [Mode.isDone] at done

/-- Behind a complete document there are only blanks. -/
theorem isSpace_of_isDone
    {demands : Demands}
    {reader final : Reader}
    {chars : List Char}
    (done : reader.mode.isDone = true)
    (ran : reader.run? demands chars = some final) :
    ∀ char ∈ chars, isSpace char = true := by
  induction chars with
  | nil =>
      simp
  | cons first rest inductionHypothesis =>
      cases stepped : reader.step? demands first with
      | none =>
          simp [run?, stepped] at ran
      | some next =>
          obtain ⟨rfl, space⟩ := step?_of_isDone done stepped
          have restRan : next.run? demands rest = some final := by
            simpa [run?, stepped] using ran
          simpa [space] using inductionHypothesis restRan

/-- Before the last character that is no blank the reader stays inside. -/
theorem inside_of_run?_append
    {demands : Demands}
    {reader final : Reader}
    {before after : List Char}
    (inside : reader.IsInside)
    (ran : reader.run? demands (before ++ after) = some final)
    (goesOn : ∃ char ∈ after, isSpace char = false) :
    ∃ middle,
      reader.run? demands before = some middle ∧ middle.IsInside := by
  induction before generalizing reader with
  | nil =>
      exact ⟨reader, rfl, inside⟩
  | cons first rest inductionHypothesis =>
      cases stepped : reader.step? demands first with
      | none =>
          simp [run?, stepped] at ran
      | some next =>
          have restRan :
              next.run? demands (rest ++ after) = some final := by
            simpa [run?, stepped] using ran
          rcases inside_or_done_of_step? inside stepped with
              nextInside | done
          · obtain ⟨middle, ranRest, middleInside⟩ :=
              inductionHypothesis nextInside restRan
            exact ⟨middle, by simpa [run?, stepped] using ranRest,
              middleInside⟩
          · obtain ⟨char, member, notSpace⟩ := goesOn
            have space :=
              isSpace_of_isDone done restRan char
                (List.mem_append_right rest member)
            simp [space] at notSpace

/-- Inside a container no document has been read. -/
theorem finish_of_isInside
    {reader : Reader}
    (inside : reader.IsInside) :
    ∃ error, reader.finish = .error error := by
  rcases reader with ⟨stack, mode⟩
  cases mode with
  | done document =>
      simp [IsInside, Mode.isDone] at inside
  | number token =>
      cases stack with
      | nil =>
          simp [IsInside] at inside
      | cons frame outer =>
          unfold finish
          simp only
          split
          · cases token.tree? with
            | none =>
                exact ⟨_, rfl⟩
            | some part =>
                exact ⟨_, rfl⟩
          · exact ⟨_, rfl⟩
  | _ =>
      exact ⟨.incomplete, rfl⟩

theorem run?_blanks
    (demands : Demands)
    {blanks : List Char}
    (areBlank : ∀ char ∈ blanks, isSpace char = true)
    (rest : List Char) :
    start.run? demands (blanks ++ rest) = start.run? demands rest := by
  induction blanks with
  | nil =>
      rfl
  | cons blank blanks inductionHypothesis =>
      have isBlank : isSpace blank = true :=
        areBlank blank (by simp)
      have stepped : start.step? demands blank = some start := by
        simp [step?, stepPlain?, start, isBlank]
      simpa [run?, stepped] using
        inductionHypothesis fun char member =>
          areBlank char (List.mem_cons_of_mem _ member)

/-- The bracket of an object or an array leads into it. -/
theorem inside_of_opening
    {opening : Char}
    {next : Reader}
    (opens : opening = '[' ∨ opening = '\x7b')
    (stepped : start.step? .strict opening = some next) :
    next.IsInside := by
  rcases opens with rfl | rfl <;>
  · simp [step?, stepPlain?, start, isSpace, startValue?, enter?,
      Demands.strict, Demands.nestingLimit] at stepped
    subst next
    exact ⟨by simp, rfl⟩

theorem last_mem_of_append_eq
    {before after front : List Char}
    {last : Char}
    (shape : before ++ after = front ++ [last])
    (nonempty : after ≠ []) :
    last ∈ after := by
  have isLast : (before ++ after).getLast? = some last := by
    simp [shape]
  rw [List.getLast?_append, List.getLast?_eq_some_getLast nonempty,
    Option.some_or, Option.some.injEq] at isLast
  exact isLast ▸ List.getLast_mem nonempty

/--
A prefix of blanks, a first bracket, and further text either consists of
blanks or goes beyond the bracket.
-/
theorem blank_or_beyond_opening
    {before after blanks rest : List Char}
    {opening : Char}
    (shape : before ++ after = blanks ++ opening :: rest)
    (areBlank : ∀ char ∈ blanks, isSpace char = true) :
    (∀ char ∈ before, isSpace char = true) ∨
      ∃ later,
        before = blanks ++ opening :: later ∧ rest = later ++ after := by
  rcases List.append_eq_append_iff.mp shape with
      ⟨left, blanksShape, _⟩ | ⟨left, beforeShape, restShape⟩
  · left
    intro char member
    exact areBlank char (by simp [blanksShape, member])
  · cases left with
    | nil =>
        left
        simpa [beforeShape] using areBlank
    | cons first later =>
        obtain ⟨rfl, laterShape⟩ := List.cons.inj restShape
        exact Or.inr ⟨later, beforeShape, laterShape⟩

end Reader

theorem read_of_run?
    {text : String}
    {reader : Reader}
    (ran : Reader.start.run? .strict text.toList = some reader) :
    read text = reader.finish := by
  simp [read, readWith, ran]

theorem exists_run?_of_read
    {text : String}
    {document : Json}
    (reads : read text = .ok document) :
    ∃ reader, Reader.start.run? .strict text.toList = some reader := by
  cases ran : Reader.start.run? .strict text.toList with
  | none =>
      simp [read, readWith, ran] at reads
  | some reader =>
      exact ⟨reader, rfl⟩

/-! ## Texts of documents -/

/--
A text of the shape of a document: blanks, and then an object or an array up
to the bracket that closes it.
-/
def IsBracketed
    (text : String) :
    Prop :=
  ∃ blanks opening inner closing,
    text.toList = blanks ++ opening :: (inner ++ [closing]) ∧
      (∀ char ∈ blanks, Reader.isSpace char = true) ∧
      (opening = '[' ∨ opening = '\x7b') ∧
      (closing = ']' ∨ closing = '\x7d')

/-- No proper prefix of the text of a document can be read. -/
theorem read_prefix_eq_error
    {before after : String}
    {document : Json}
    (bracketed : IsBracketed (before ++ after))
    (reads : read (before ++ after) = .ok document)
    (proper : after ≠ "") :
    ∃ error, read before = .error error := by
  obtain ⟨blanks, opening, inner, closing, shape, areBlank, opens,
    closes⟩ := bracketed
  obtain ⟨final, ran⟩ := exists_run?_of_read reads
  rw [String.toList_append] at shape ran
  have afterNonempty : after.toList ≠ [] := by
    simpa using proper
  have goesOn : ∃ char ∈ after.toList, Reader.isSpace char = false := by
    have wholeShape :
        before.toList ++ after.toList =
          (blanks ++ opening :: inner) ++ [closing] := by
      simp [shape]
    refine ⟨closing,
      Reader.last_mem_of_append_eq wholeShape afterNonempty, ?_⟩
    rcases closes with rfl | rfl <;> decide
  rcases Reader.blank_or_beyond_opening shape areBlank with
      blank | ⟨later, beforeShape, restShape⟩
  · have atStart :
        Reader.start.run? .strict before.toList = some Reader.start := by
      simpa [Reader.run?] using Reader.run?_blanks .strict blank []
    exact ⟨.incomplete, read_of_run? atStart⟩
  · rw [beforeShape, List.append_assoc,
      Reader.run?_blanks .strict areBlank, List.cons_append] at ran
    cases stepped : Reader.start.step? .strict opening with
    | none =>
        simp [Reader.run?, stepped] at ran
    | some next =>
        have restRan :
            next.run? .strict (later ++ after.toList) = some final := by
          simpa [Reader.run?, stepped] using ran
        obtain ⟨middle, ranLater, inside⟩ :=
          Reader.inside_of_run?_append
            (Reader.inside_of_opening opens stepped) restRan goesOn
        have ranBefore :
            Reader.start.run? .strict before.toList = some middle := by
          rw [beforeShape, Reader.run?_blanks .strict areBlank]
          simpa [Reader.run?, stepped] using ranLater
        obtain ⟨error, unfinished⟩ := Reader.finish_of_isInside inside
        exact ⟨error, (read_of_run? ranBefore).trans unfinished⟩

end Json

end Mockup
