import Mockup.Proofs.Json.Numeral
import Mockup.Proofs.Json.Reader

namespace Mockup

namespace Json

/-!
# Malformed texts that more text repairs

A text that the reader cannot take in stays malformed whatever follows.  A
text that is malformed only because it ends in a number beyond the doubles is
another matter: an exponent below zero that follows makes the number small
again.  Such a repair needs room for the exponent, and open containers around
the number.
-/

namespace NumberToken

/-- The characters of the token, in their order. -/
def literal
    (token : NumberToken) :
    List Char :=
  token.reversed.reverse

/-- The token has the shape of its phase. -/
def IsSpelled
    (token : NumberToken) :
    Prop :=
  Spells token.phase token.literal

theorem tree?_of_exponent
    {token : NumberToken}
    (inExponent : token.phase = .exponent) :
    token.tree? = doubleLiteral? token.literal := by
  simp [tree?, inExponent, NumberPhase.isInteger, literal]

end NumberToken

namespace Reader

/-! ## Numbers are spelled as their phases say -/

/-- A number that is being read has the shape of its phase. -/
def IsSpelled
    (reader : Reader) :
    Prop :=
  ∀ token, reader.mode = .number token → token.IsSpelled

theorem isSpelled_of_ne_number
    {stack : List Frame}
    {mode : Mode}
    (noNumber : ∀ token, mode ≠ .number token) :
    IsSpelled ⟨stack, mode⟩ :=
  fun token isNumber => absurd isNumber (noNumber token)

theorem isSpelled_finishPart
    (stack : List Frame)
    (part : Json) :
    (finishPart stack part).IsSpelled := by
  cases stack with
  | nil =>
      exact isSpelled_of_ne_number (by simp)
  | cons frame outer =>
      exact isSpelled_of_ne_number (by simp)

theorem isSpelled_of_leave?
    {stack : List Frame}
    {char : Char}
    {next : Reader}
    (left : leave? stack char = some next) :
    next.IsSpelled := by
  unfold leave? at left
  split at left
  · cases left
  · split at left
    · cases left
      exact isSpelled_finishPart _ _
    · cases left

theorem isSpelled_of_separate?
    {stack : List Frame}
    {next : Reader}
    (separated : separate? stack = some next) :
    next.IsSpelled := by
  unfold separate? at separated
  split at separated
  · cases separated
  · cases separated
    exact isSpelled_of_ne_number (by simp)
  · cases separated
    exact isSpelled_of_ne_number (by simp)

theorem isSpelled_of_associate?
    {key : String}
    {stack : List Frame}
    {next : Reader}
    (associated : associate? key stack = some next) :
    next.IsSpelled := by
  unfold associate? at associated
  split at associated
  · cases associated
    exact isSpelled_of_ne_number (by simp)
  · cases associated

/-- The first character of a number is its whole shape. -/
theorem isSpelled_of_startValue?
    {demands : Demands}
    {stack : List Frame}
    {char : Char}
    {next : Reader}
    (started : startValue? demands stack char = some next) :
    next.IsSpelled := by
  intro token isNumber
  unfold startValue? enter? at started
  repeat'
    split at started
  all_goals
    cases started
  all_goals
    cases isNumber
  · rename_i isMinus
    subst isMinus
    exact .minus
  · rename_i isZero
    subst isZero
    exact .zero false
  · rename_i isDigit
    exact .whole false (isDigits_singleton isDigit)

theorem isSpelled_of_stepPlain?
    {demands : Demands}
    {reader next : Reader}
    {char : Char}
    (stepped : reader.stepPlain? demands char = some next) :
    next.IsSpelled := by
  rcases reader with ⟨stack, mode⟩
  cases mode with
  | value =>
      simp only [stepPlain?] at stepped
      split at stepped
      · cases stepped
        exact isSpelled_of_ne_number (by simp)
      · exact isSpelled_of_startValue? stepped
  | firstItem =>
      simp only [stepPlain?] at stepped
      split at stepped
      · cases stepped
        exact isSpelled_of_ne_number (by simp)
      · split at stepped
        · exact isSpelled_of_leave? stepped
        · exact isSpelled_of_startValue? stepped
  | firstKey =>
      simp only [stepPlain?] at stepped
      split at stepped
      · cases stepped
        exact isSpelled_of_ne_number (by simp)
      · split at stepped
        · cases stepped
          exact isSpelled_of_ne_number (by simp)
        · exact isSpelled_of_leave? stepped
  | nextKey =>
      simp only [stepPlain?] at stepped
      split at stepped
      · cases stepped
        exact isSpelled_of_ne_number (by simp)
      · split at stepped
        · cases stepped
          exact isSpelled_of_ne_number (by simp)
        · cases stepped
  | colon key =>
      simp only [stepPlain?] at stepped
      split at stepped
      · cases stepped
        exact isSpelled_of_ne_number (by simp)
      · split at stepped
        · exact isSpelled_of_associate? stepped
        · cases stepped
  | afterPart =>
      simp only [stepPlain?] at stepped
      split at stepped
      · cases stepped
        exact isSpelled_of_ne_number (by simp)
      · split at stepped
        · exact isSpelled_of_separate? stepped
        · exact isSpelled_of_leave? stepped
  | word letters result =>
      rcases letters with _ | ⟨letter, _ | ⟨second, others⟩⟩
      · simp [stepPlain?] at stepped
      · simp only [stepPlain?] at stepped
        split at stepped
        · cases stepped
          exact isSpelled_finishPart _ _
        · cases stepped
      · simp only [stepPlain?] at stepped
        split at stepped
        · cases stepped
          exact isSpelled_of_ne_number (by simp)
        · cases stepped
  | number token =>
      simp [stepPlain?] at stepped
  | key token =>
      simp only [stepPlain?] at stepped
      split at stepped
      · cases stepped
        exact isSpelled_of_ne_number (by simp)
      · obtain ⟨after, _, rfl⟩ := Option.map_eq_some_iff.mp stepped
        exact isSpelled_of_ne_number (by simp)
  | string token =>
      simp only [stepPlain?] at stepped
      split at stepped
      · cases stepped
        exact isSpelled_finishPart _ _
      · obtain ⟨after, _, rfl⟩ := Option.map_eq_some_iff.mp stepped
        exact isSpelled_of_ne_number (by simp)
  | done document =>
      simp only [stepPlain?] at stepped
      split at stepped
      · cases stepped
        exact isSpelled_of_ne_number (by simp)
      · cases stepped

theorem isSpelled_of_step?
    {demands : Demands}
    {reader next : Reader}
    {char : Char}
    (isSpelled : reader.IsSpelled)
    (stepped : reader.step? demands char = some next) :
    next.IsSpelled := by
  rcases reader with ⟨stack, mode⟩
  unfold step? at stepped
  simp only at stepped
  split at stepped
  · rename_i token
    split at stepped
    · rename_i phase isNext
      cases stepped
      intro other same
      cases same
      have further := (isSpelled token rfl).next isNext
      rw [NumberToken.IsSpelled]
      simpa [NumberToken.literal] using further
    · split at stepped
      · exact isSpelled_of_stepPlain? stepped
      · cases stepped
  · exact isSpelled_of_stepPlain? stepped

end Reader

/-! ## Repairs -/

/-- The token has no exponent yet, or one below zero. -/
def NumberToken.CanShrink
    (token : NumberToken) :
    Prop :=
  token.phase ≠ .exponent ∨
    ∃ mantissa mark digits,
      IsMantissa mantissa ∧
        NumberPhase.isMark mark = true ∧
        IsDigits digits ∧
        token.literal = mantissa ++ mark :: '-' :: digits

/--
The text ends in a number beyond the doubles that more characters can make
smaller, and the number stands in a container.
-/
def EndsInShrinking
    (text : String) :
    Prop :=
  ∃ frame outer token,
    Reader.start.run? .strict text.toList =
        some ⟨frame :: outer, .number token⟩ ∧
      token.phase.mayEnd = true ∧
      token.tree? = none ∧
      token.CanShrink

/-- A number without an exponent that may end here is a mantissa. -/
theorem NumberToken.IsSpelled.isMantissa
    {token : NumberToken}
    (isSpelled : token.IsSpelled)
    (mayEnd : token.phase.mayEnd = true)
    (noExponent : token.phase ≠ .exponent) :
    IsMantissa token.literal := by
  rcases token with ⟨phase, reversed⟩
  unfold IsSpelled at isSpelled
  generalize literal ⟨phase, reversed⟩ = chars at isSpelled ⊢
  cases isSpelled with
  | zero negative =>
      exact .whole negative isDigits_zero
  | whole negative isDigits =>
      exact .whole negative isDigits
  | fraction negative isDigits behind =>
      exact .fraction negative isDigits behind
  | exponent =>
      exact absurd rfl noExponent
  | _ =>
      cases mayEnd

namespace Reader

/-- A number takes in all characters that leave it in its phase. -/
theorem run?_of_stays
    (demands : Demands)
    (stack : List Frame)
    {phase : NumberPhase}
    (reversed : List Char)
    {chars : List Char}
    (stays : ∀ char ∈ chars, phase.next? char = some phase) :
    run? demands ⟨stack, .number ⟨phase, reversed⟩⟩ chars =
      some ⟨stack, .number ⟨phase, chars.reverse ++ reversed⟩⟩ := by
  induction chars generalizing reversed with
  | nil =>
      rfl
  | cons char rest inductionHypothesis =>
      rw [run?]
      simp only [step?, stays char List.mem_cons_self]
      rw [inductionHypothesis (char :: reversed) fun other member =>
        stays other (List.mem_cons_of_mem _ member)]
      simp

/-- Nines behind an exponent below zero bring the number back. -/
theorem exists_named_of_below_zero
    (demands : Demands)
    (stack : List Frame)
    {reversed mantissa digits : List Char}
    {mark : Char}
    (isMantissa : IsMantissa mantissa)
    (isMark : NumberPhase.isMark mark = true)
    (isDigits : IsDigits digits)
    (shape : reversed.reverse = mantissa ++ mark :: '-' :: digits) :
    ∃ more after part,
      run? demands ⟨stack, .number ⟨.exponent, reversed⟩⟩ more =
          some ⟨stack, .number ⟨.exponent, after⟩⟩ ∧
        NumberToken.tree? ⟨.exponent, after⟩ = some part := by
  obtain ⟨count, inReach⟩ :=
    exists_doubleLiteral?_ne_none isMantissa isMark isDigits.2
  let nines := List.replicate (count + 1) '9'
  have literal :
      (nines.reverse ++ reversed).reverse =
        mantissa ++ mark :: '-' :: (digits ++ nines) := by
    rw [List.reverse_append, shape, List.reverse_reverse]
    simp
  have stays :
      ∀ char ∈ nines,
        NumberPhase.exponent.next? char = some .exponent := by
    intro char member
    rw [List.eq_of_mem_replicate member]
    rfl
  obtain ⟨part, isPart⟩ := Option.ne_none_iff_exists'.mp inReach
  refine
    ⟨nines, nines.reverse ++ reversed, part,
      run?_of_stays demands stack reversed stays, ?_⟩
  rw [NumberToken.tree?_of_exponent rfl, NumberToken.literal, literal]
  exact isPart

/-- A number without an exponent takes one that is below zero. -/
theorem run?_below_zero
    (demands : Demands)
    (stack : List Frame)
    {token : NumberToken}
    (mayEnd : token.phase.mayEnd = true)
    (noExponent : token.phase ≠ .exponent) :
    run? demands ⟨stack, .number token⟩ ['e', '-', '9'] =
      some ⟨stack,
        .number ⟨.exponent, '9' :: '-' :: 'e' :: token.reversed⟩⟩ := by
  rcases token with ⟨phase, reversed⟩
  cases phase with
  | zero =>
      rfl
  | whole =>
      rfl
  | fraction =>
      rfl
  | exponent =>
      exact absurd rfl noExponent
  | _ =>
      cases mayEnd

/-- More characters turn a number that can shrink into one that is read. -/
theorem exists_named_of_canShrink
    (demands : Demands)
    (stack : List Frame)
    {token : NumberToken}
    (isSpelled : token.IsSpelled)
    (mayEnd : token.phase.mayEnd = true)
    (canShrink : token.CanShrink) :
    ∃ more after part,
      run? demands ⟨stack, .number token⟩ more =
          some ⟨stack, .number ⟨.exponent, after⟩⟩ ∧
        NumberToken.tree? ⟨.exponent, after⟩ = some part := by
  by_cases inExponent : token.phase = .exponent
  · rcases canShrink with noExponent |
        ⟨mantissa, mark, digits, isMantissa, isMark, isDigits, shape⟩
    · exact absurd inExponent noExponent
    · rcases token with ⟨phase, reversed⟩
      cases inExponent
      exact exists_named_of_below_zero demands stack isMantissa isMark
        isDigits shape
  · have isMantissa := isSpelled.isMantissa mayEnd inExponent
    have shape :
        ('9' :: '-' :: 'e' :: token.reversed).reverse =
          token.literal ++ 'e' :: '-' :: ['9'] := by
      simp [NumberToken.literal]
    obtain ⟨more, after, part, ran, isPart⟩ :=
      exists_named_of_below_zero demands stack isMantissa rfl
        (isDigits_singleton rfl) shape
    refine ⟨['e', '-', '9'] ++ more, after, part, ?_, isPart⟩
    rw [run?_append, run?_below_zero demands stack mayEnd inExponent]
    exact ran

/-- The closing brackets of all open containers complete the document. -/
theorem run?_closings
    (demands : Demands)
    (frame : Frame)
    (outer : List Frame) :
    ∃ document,
      run? demands ⟨frame :: outer, .afterPart⟩
            ((frame :: outer).map Frame.closing) =
          some ⟨[], .done document⟩ ∧
        (Value.ofJson document).isContainer = true := by
  have left :
      ∀ (frame : Frame) (outer : List Frame),
        step? demands ⟨frame :: outer, .afterPart⟩ frame.closing =
          some (finishPart outer frame.tree) := by
    intro frame outer
    cases frame <;> rfl
  induction outer generalizing frame with
  | nil =>
      refine ⟨frame.tree, ?_, ?_⟩
      · simp [run?, left, finishPart]
      · cases frame <;> rfl
  | cons second others inductionHypothesis =>
      obtain ⟨document, ran, isContainer⟩ :=
        inductionHypothesis (second.add frame.tree)
      refine ⟨document, ?_, isContainer⟩
      have sameClosing :
          (second.add frame.tree).closing = second.closing := by
        cases second <;> rfl
      rw [List.map_cons, sameClosing] at ran
      rw [List.map_cons, run?, left]
      exact ran

/-- A bracket that closes a container ends the number in it. -/
theorem run?_closing_of_tree?
    (demands : Demands)
    {frame : Frame}
    {outer : List Frame}
    {reversed : List Char}
    {part : Json}
    (isPart : NumberToken.tree? ⟨.exponent, reversed⟩ = some part)
    (rest : List Char) :
    run? demands ⟨frame :: outer, .number ⟨.exponent, reversed⟩⟩
        (frame.closing :: rest) =
      run? demands ⟨frame.add part :: outer, .afterPart⟩
        (frame.closing :: rest) := by
  have ends : NumberPhase.exponent.next? frame.closing = none := by
    cases frame <;> rfl
  rw [run?, run?]
  simp [step?, ends, finishNumber?, NumberPhase.mayEnd, isPart,
    finishPart]

end Reader

/-- The characters of a repair: a small exponent, and closing brackets. -/
theorem exists_repair
    {text : String}
    (endsInShrinking : EndsInShrinking text) :
    ∃ rest document,
      read (text ++ rest) = .ok document ∧
        (Value.ofJson document).isContainer = true := by
  obtain ⟨frame, outer, token, ran, mayEnd, _, canShrink⟩ :=
    endsInShrinking
  have isSpelled : token.IsSpelled :=
    Reader.keeps_of_run? Reader.isSpelled_of_step?
      (Reader.isSpelled_of_ne_number (by simp)) ran token rfl
  obtain ⟨more, after, part, ranMore, isPart⟩ :=
    Reader.exists_named_of_canShrink .strict (frame :: outer) isSpelled
      mayEnd canShrink
  obtain ⟨document, ranClosings, isContainer⟩ :=
    Reader.run?_closings .strict (frame.add part) outer
  have sameClosing : (frame.add part).closing = frame.closing := by
    cases frame <;> rfl
  rw [List.map_cons, sameClosing] at ranClosings
  let rest := more ++ frame.closing :: outer.map Frame.closing
  have ranAll :
      Reader.start.run? .strict (text ++ String.ofList rest).toList =
        some ⟨[], .done document⟩ := by
    rw [String.toList_append, String.toList_ofList, Reader.run?_append,
      ran, Option.bind_some, Reader.run?_append, ranMore,
      Option.bind_some, Reader.run?_closing_of_tree? .strict isPart]
    exact ranClosings
  refine ⟨String.ofList rest, document, ?_, isContainer⟩
  rw [read, readWith, ranAll]
  rfl

/-! ## What cannot be repaired -/

namespace Reader

/-- Outside of containers only a scalar is read, and nothing behind it. -/
def ReadsScalar
    (reader : Reader) :
    Prop :=
  reader.stack = [] ∧
    ((∃ token, reader.mode = .number token) ∨
      ∃ document, reader.mode = .done document ∧ document.IsPlain)

theorem readsScalar_of_step?
    {demands : Demands}
    {reader next : Reader}
    {char : Char}
    (readsScalar : reader.ReadsScalar)
    (stepped : reader.step? demands char = some next) :
    next.ReadsScalar := by
  have stays :
      ∀ {document : Json},
        document.IsPlain →
          stepPlain? demands ⟨[], .done document⟩ char = some next →
            next.ReadsScalar := by
    intro document isPlain plainly
    simp only [stepPlain?] at plainly
    split at plainly
    · cases plainly
      exact ⟨rfl, Or.inr ⟨document, rfl, isPlain⟩⟩
    · cases plainly
  rcases reader with ⟨stack, mode⟩
  obtain ⟨noStack, ⟨token, isNumber⟩ | ⟨document, isDone, isPlain⟩⟩ :=
    readsScalar
  · cases noStack
    cases isNumber
    simp only [step?] at stepped
    split at stepped
    · cases stepped
      exact ⟨rfl, Or.inl ⟨_, rfl⟩⟩
    · split at stepped
      · rename_i finished ended
        obtain ⟨part, isPlain, same, _⟩ :=
          @moves_of_finishNumber? _ _ (.number token) _ _ ended
        cases same
        exact stays isPlain stepped
      · cases stepped
  · cases noStack
    cases isDone
    exact stays isPlain stepped

/-- A number that overflows with an exponent that only grows. -/
def Overflows
    (reader : Reader) :
    Prop :=
  ∃ reversed mantissa sign digits mark,
    reader.mode = .number ⟨.exponent, reversed⟩ ∧
      IsMantissa mantissa ∧
      NumberPhase.isMark mark = true ∧
      (sign = [] ∨ sign = ['+']) ∧
      IsDigits digits ∧
      reversed.reverse = mantissa ++ mark :: (sign ++ digits) ∧
      doubleLiteral? reversed.reverse = none

theorem overflows_of_step?
    {reader next : Reader}
    {char : Char}
    (overflows : reader.Overflows)
    (stepped : reader.step? .strict char = some next) :
    next.Overflows := by
  rcases reader with ⟨stack, mode⟩
  obtain ⟨reversed, mantissa, sign, digits, mark, isNumber, isMantissa,
    isMark, isSign, isDigits, shape, beyond⟩ := overflows
  cases isNumber
  have noTree : NumberToken.tree? ⟨.exponent, reversed⟩ = none := by
    rw [NumberToken.tree?_of_exponent rfl]
    exact beyond
  by_cases isDigit : char.isDigit = true
  · have isNext : NumberPhase.exponent.next? char = some .exponent := by
      simp [NumberPhase.next?, isDigit]
    simp only [step?, isNext, Option.some.injEq] at stepped
    cases stepped
    have longer :
        (char :: reversed).reverse =
          mantissa ++ mark :: (sign ++ (digits ++ [char])) := by
      simp [shape]
    rw [shape] at beyond
    refine ⟨char :: reversed, mantissa, sign, digits ++ [char], mark, rfl,
      isMantissa, isMark, isSign, isDigits_concat isDigits isDigit,
      longer, ?_⟩
    rw [longer]
    exact doubleLiteral?_of_more_digits isMantissa isMark isSign isDigits
      isDigit beyond
  · have ends : NumberPhase.exponent.next? char = none := by
      simp [NumberPhase.next?, isDigit]
    simp [step?, ends, finishNumber?, NumberPhase.mayEnd, noTree,
      Demands.strict] at stepped

theorem isContainer_of_readsScalar
    {reader : Reader}
    {document : Json}
    (readsScalar : reader.ReadsScalar)
    (finished : reader.finish = .ok document) :
    (Value.ofJson document).isContainer = false := by
  have ofPlain :
      document.IsPlain → (Value.ofJson document).isContainer = false := by
    intro isPlain
    cases document with
    | array =>
        cases isPlain
    | object =>
        cases isPlain
    | integer value =>
        unfold Value.ofJson Value.ofInteger
        split <;> rfl
    | _ =>
        rfl
  rcases reader with ⟨stack, mode⟩
  obtain ⟨noStack, ⟨token, isNumber⟩ | ⟨document, isDone, isPlain⟩⟩ :=
    readsScalar
  · cases noStack
    cases isNumber
    unfold finish at finished
    simp only at finished
    split at finished
    · split at finished
      · rename_i part isPart _
        cases finished
        exact ofPlain (NumberToken.isPlain_of_tree? isPart)
      · cases finished
      · cases finished
    · cases finished
  · cases isDone
    cases finished
    exact ofPlain isPlain

/-- Only a number that overflows ends a text that was taken in. -/
theorem exists_number_of_finish
    {reader : Reader}
    (malformed : reader.finish = .error .malformed) :
    ∃ token,
      reader.mode = .number token ∧
        token.phase.mayEnd = true ∧ token.tree? = none := by
  rcases reader with ⟨stack, mode⟩
  cases mode with
  | number token =>
      unfold finish at malformed
      simp only at malformed
      split at malformed
      · rename_i mayEnd
        split at malformed
        · cases malformed
        · cases malformed
        · rename_i noTree
          exact ⟨token, rfl, mayEnd, noTree⟩
      · cases malformed
  | _ =>
      cases malformed

/-- An exponent that is not below zero only grows. -/
theorem overflows_of_not_canShrink
    (stack : List Frame)
    {token : NumberToken}
    (isSpelled : token.IsSpelled)
    (noTree : token.tree? = none)
    (cannotShrink : ¬ token.CanShrink) :
    Overflows ⟨stack, .number token⟩ := by
  have inExponent : token.phase = .exponent := by
    by_contra noExponent
    exact cannotShrink (Or.inl noExponent)
  rw [NumberToken.tree?_of_exponent inExponent] at noTree
  rcases token with ⟨phase, reversed⟩
  cases inExponent
  unfold NumberToken.IsSpelled at isSpelled
  generalize shape : NumberToken.literal ⟨.exponent, reversed⟩ = chars
    at isSpelled noTree
  cases isSpelled with
  | @exponent mantissa sign digits mark isMantissa isMark isSign isDigits =>
      have notBelow : sign = [] ∨ sign = ['+'] := by
        rcases isSign with none | plus | minus
        · exact Or.inl none
        · exact Or.inr plus
        · cases minus
          exact absurd
            (Or.inr ⟨mantissa, mark, digits, isMantissa, isMark, isDigits,
              shape⟩)
            cannotShrink
      refine ⟨reversed, mantissa, sign, digits, mark, rfl, isMantissa,
        isMark, notBelow, isDigits, shape, ?_⟩
      rw [← shape] at noTree
      exact noTree

theorem finish_of_overflows
    {reader : Reader}
    (overflows : reader.Overflows) :
    reader.finish = .error .malformed := by
  rcases reader with ⟨stack, mode⟩
  obtain ⟨reversed, _, _, _, _, isNumber, _, _, _, _, _, beyond⟩ :=
    overflows
  cases isNumber
  have noTree : NumberToken.tree? ⟨.exponent, reversed⟩ = none := by
    rw [NumberToken.tree?_of_exponent rfl]
    exact beyond
  simp [finish, NumberPhase.mayEnd, noTree]

end Reader

/-- Nothing that follows repairs any other malformed text. -/
theorem not_isContainer_of_malformed
    {text rest : String}
    {document : Json}
    (malformed : read text = .error .malformed)
    (beyondRepair : ¬ EndsInShrinking text)
    (reads : read (text ++ rest) = .ok document) :
    (Value.ofJson document).isContainer = false := by
  rw [read, readWith, String.toList_append, Reader.run?_append] at reads
  rw [read, readWith] at malformed
  cases ran : Reader.start.run? .strict text.toList with
  | none =>
      simp [ran] at reads
  | some reader =>
      simp only [ran, Option.bind_some] at reads malformed
      cases ranOn : reader.run? .strict rest.toList with
      | none =>
          simp [ranOn] at reads
      | some final =>
          simp only [ranOn] at reads
          obtain ⟨token, isNumber, mayEnd, noTree⟩ :=
            Reader.exists_number_of_finish malformed
          rcases reader with ⟨_ | ⟨frame, outer⟩, mode⟩
          · have readsScalar :=
              Reader.keeps_of_run? Reader.readsScalar_of_step?
                ⟨rfl, Or.inl ⟨token, isNumber⟩⟩ ranOn
            exact Reader.isContainer_of_readsScalar readsScalar reads
          · cases isNumber
            have isSpelled : token.IsSpelled :=
              Reader.keeps_of_run? Reader.isSpelled_of_step?
                (Reader.isSpelled_of_ne_number (by simp)) ran token rfl
            have cannotShrink : ¬ token.CanShrink := fun canShrink =>
              beyondRepair
                ⟨frame, outer, token, ran, mayEnd, noTree, canShrink⟩
            have overflows :=
              Reader.overflows_of_not_canShrink (frame :: outer)
                isSpelled noTree cannotShrink
            rw [Reader.finish_of_overflows
              (Reader.keeps_of_run? Reader.overflows_of_step? overflows
                ranOn)] at reads
            cases reads

/--
A malformed text is the beginning of a document exactly if it ends in a
number that more characters can make smaller.
-/
theorem exists_repair_iff
    {text : String}
    (malformed : read text = .error .malformed) :
    (∃ rest document,
        read (text ++ rest) = .ok document ∧
          (Value.ofJson document).isContainer = true) ↔
      EndsInShrinking text := by
  refine ⟨?_, exists_repair⟩
  rintro ⟨rest, document, reads, isContainer⟩
  by_contra beyondRepair
  rw [not_isContainer_of_malformed malformed beyondRepair reads]
    at isContainer
  cases isContainer

end Json

end Mockup
