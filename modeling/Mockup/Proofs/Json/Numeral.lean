import Mathlib.Data.List.TakeDrop
import Mockup.Json.Reader
import Mockup.Proofs.Number.Scaling

namespace Mockup

/-!
# Numerals

The literal of a number is read character by character: maybe a minus sign,
digits, maybe a point with digits behind it, and maybe an exponent, which may
have a sign of its own.  What stands before the exponent decides on the digits
of the decimal, and the exponent only moves the point.
-/

namespace Text

/-- One more digit makes a number no smaller. -/
theorem naturalOfDigits_concat
    (digits : List Char)
    (digit : Char) :
    naturalOfDigits (digits ++ [digit]) =
      naturalOfDigits digits * 10 + (digit.toNat - '0'.toNat) := by
  simp [naturalOfDigits]

theorem le_naturalOfDigits_append
    (digits more : List Char) :
    naturalOfDigits digits ≤ naturalOfDigits (digits ++ more) := by
  induction more generalizing digits with
  | nil =>
      simp
  | cons digit more inductionHypothesis =>
      have longer := inductionHypothesis (digits ++ [digit])
      rw [List.append_assoc, List.singleton_append] at longer
      have once := naturalOfDigits_concat digits digit
      omega

/-- A number grows without bound as nines are written behind it. -/
theorem le_naturalOfDigits_nines
    (digits : List Char)
    (count : Nat) :
    count ≤ naturalOfDigits (digits ++ List.replicate count '9') := by
  induction count with
  | zero =>
      exact Nat.zero_le _
  | succ count inductionHypothesis =>
      have nine : '9'.toNat - '0'.toNat = 9 :=
        rfl
      rw [List.replicate_succ', ← List.append_assoc,
        naturalOfDigits_concat, nine]
      omega

end Text

namespace Json

/-! ## The shape of a literal -/

/-- Decimal digits, at least one. -/
def IsDigits
    (chars : List Char) :
    Prop :=
  chars ≠ [] ∧ ∀ char ∈ chars, char.isDigit = true

theorem isDigits_append
    {digits more : List Char}
    (isDigits : IsDigits digits)
    (areDigits : ∀ char ∈ more, char.isDigit = true) :
    IsDigits (digits ++ more) := by
  refine ⟨by simp [isDigits.1], ?_⟩
  intro char member
  rcases List.mem_append.mp member with before | behind
  · exact isDigits.2 char before
  · exact areDigits char behind

theorem isDigits_concat
    {digits : List Char}
    {digit : Char}
    (isDigits : IsDigits digits)
    (isDigit : digit.isDigit = true) :
    IsDigits (digits ++ [digit]) :=
  isDigits_append isDigits (by simpa using isDigit)

theorem isDigits_singleton
    {digit : Char}
    (isDigit : digit.isDigit = true) :
    IsDigits [digit] :=
  ⟨by simp, by simpa using isDigit⟩

/-- Digits do not begin with a sign. -/
theorem IsDigits.signed
    {digits : List Char}
    (isDigits : IsDigits digits)
    (more : List Char) :
    Decimal.signed (digits ++ more) = (false, digits ++ more) := by
  obtain ⟨nonempty, areDigits⟩ := isDigits
  cases digits with
  | nil =>
      exact absurd rfl nonempty
  | cons first rest =>
      have isDigit := areDigits first List.mem_cons_self
      rw [List.cons_append]
      unfold Decimal.signed
      split
      · rename_i same
        cases same
        simp [Char.isDigit] at isDigit
      · rename_i same
        cases same
        simp [Char.isDigit] at isDigit
      · rfl

/-- The sign of a literal. -/
def minus
    (negative : Bool) :
    List Char :=
  if negative then ['-'] else []

theorem signed_minus
    (negative : Bool)
    {digits : List Char}
    (isDigits : IsDigits digits)
    (more : List Char) :
    Decimal.signed (minus negative ++ (digits ++ more)) =
      (negative, digits ++ more) := by
  cases negative with
  | true =>
      rfl
  | false =>
      exact isDigits.signed more

/-- What stands before the exponent of a literal. -/
inductive IsMantissa : List Char → Prop where
  | whole
      (negative : Bool)
      {whole : List Char} :
      IsDigits whole →
      IsMantissa (minus negative ++ whole)
  | fraction
      (negative : Bool)
      {whole fraction : List Char} :
      IsDigits whole →
      IsDigits fraction →
      IsMantissa (minus negative ++ (whole ++ '.' :: fraction))

/-- How far a literal has been read in a phase. -/
inductive Spells : NumberPhase → List Char → Prop where
  | minus :
      Spells .minus (minus true)
  | zero
      (negative : Bool) :
      Spells .zero (Json.minus negative ++ ['0'])
  | whole
      (negative : Bool)
      {whole : List Char} :
      IsDigits whole →
      Spells .whole (Json.minus negative ++ whole)
  | point
      (negative : Bool)
      {whole : List Char} :
      IsDigits whole →
      Spells .point (Json.minus negative ++ (whole ++ ['.']))
  | fraction
      (negative : Bool)
      {whole fraction : List Char} :
      IsDigits whole →
      IsDigits fraction →
      Spells .fraction
        (Json.minus negative ++ (whole ++ '.' :: fraction))
  | mark
      {mantissa : List Char}
      {mark : Char} :
      IsMantissa mantissa →
      NumberPhase.isMark mark = true →
      Spells .mark (mantissa ++ [mark])
  | sign
      {mantissa : List Char}
      {mark sign : Char} :
      IsMantissa mantissa →
      NumberPhase.isMark mark = true →
      sign = '+' ∨ sign = '-' →
      Spells .sign (mantissa ++ [mark, sign])
  | exponent
      {mantissa sign digits : List Char}
      {mark : Char} :
      IsMantissa mantissa →
      NumberPhase.isMark mark = true →
      sign = [] ∨ sign = ['+'] ∨ sign = ['-'] →
      IsDigits digits →
      Spells .exponent (mantissa ++ mark :: (sign ++ digits))

theorem isDigits_zero :
    IsDigits ['0'] :=
  isDigits_singleton rfl

/-- A literal that is read further has the shape of the next phase. -/
theorem Spells.next
    {phase next : NumberPhase}
    {literal : List Char}
    {char : Char}
    (spells : Spells phase literal)
    (isNext : phase.next? char = some next) :
    Spells next (literal ++ [char]) := by
  cases spells with
  | minus =>
      simp only [NumberPhase.next?] at isNext
      split at isNext
      · rename_i isZero
        cases isNext
        exact isZero ▸ .zero true
      · split at isNext
        · rename_i isDigit
          cases isNext
          exact .whole true (isDigits_singleton isDigit)
        · cases isNext
  | zero negative =>
      simp only [NumberPhase.next?] at isNext
      split at isNext
      · rename_i isPoint
        cases isNext
        rw [List.append_assoc, isPoint]
        exact .point negative isDigits_zero
      · split at isNext
        · rename_i isMark
          cases isNext
          exact .mark (.whole negative isDigits_zero) isMark
        · cases isNext
  | whole negative isDigits =>
      simp only [NumberPhase.next?] at isNext
      split at isNext
      · rename_i isDigit
        cases isNext
        rw [List.append_assoc]
        exact .whole negative (isDigits_concat isDigits isDigit)
      · split at isNext
        · rename_i isPoint
          cases isNext
          rw [List.append_assoc, isPoint]
          exact .point negative isDigits
        · split at isNext
          · rename_i isMark
            cases isNext
            exact .mark (.whole negative isDigits) isMark
          · cases isNext
  | point negative isDigits =>
      simp only [NumberPhase.next?] at isNext
      split at isNext
      · rename_i isDigit
        cases isNext
        rw [List.append_assoc, List.append_assoc]
        exact .fraction negative isDigits (isDigits_singleton isDigit)
      · cases isNext
  | fraction negative isDigits behind =>
      simp only [NumberPhase.next?] at isNext
      split at isNext
      · rename_i isDigit
        cases isNext
        rw [List.append_assoc, List.append_assoc, List.cons_append]
        exact .fraction negative isDigits (isDigits_concat behind isDigit)
      · split at isNext
        · rename_i isMark
          cases isNext
          exact .mark (.fraction negative isDigits behind) isMark
        · cases isNext
  | mark isMantissa isMark =>
      simp only [NumberPhase.next?] at isNext
      split at isNext
      · rename_i isDigit
        cases isNext
        rw [List.append_assoc]
        exact .exponent isMantissa isMark (Or.inl rfl)
          (isDigits_singleton isDigit)
      · split at isNext
        · rename_i isSign
          cases isNext
          rw [List.append_assoc]
          exact .sign isMantissa isMark (by simpa using isSign)
        · cases isNext
  | @sign mantissa mark sign isMantissa isMark isSign =>
      simp only [NumberPhase.next?] at isNext
      split at isNext
      · rename_i isDigit
        cases isNext
        rw [List.append_assoc]
        have asText : [sign] = [] ∨ [sign] = ['+'] ∨ [sign] = ['-'] := by
          rcases isSign with rfl | rfl
          · exact Or.inr (Or.inl rfl)
          · exact Or.inr (Or.inr rfl)
        exact .exponent isMantissa isMark asText
          (isDigits_singleton isDigit)
      · cases isNext
  | exponent isMantissa isMark isSign isDigits =>
      simp only [NumberPhase.next?] at isNext
      split at isNext
      · rename_i isDigit
        cases isNext
        rw [List.append_assoc, List.cons_append, List.append_assoc]
        exact .exponent isMantissa isMark isSign
          (isDigits_concat isDigits isDigit)
      · cases isNext

/-! ## The decimal of a literal -/

/-- Digits end where something else stands. -/
theorem while_digits
    {digits : List Char}
    (areDigits : ∀ char ∈ digits, char.isDigit = true)
    (rest : List Char)
    (ends : ∀ char, rest.head? = some char → char.isDigit = false) :
    (digits ++ rest).takeWhile Char.isDigit = digits ∧
      (digits ++ rest).dropWhile Char.isDigit = rest := by
  have noneTaken : rest.takeWhile Char.isDigit = [] := by
    cases rest with
    | nil =>
        rfl
    | cons first later =>
        simp [ends first rfl]
  have noneDropped : rest.dropWhile Char.isDigit = rest := by
    cases rest with
    | nil =>
        rfl
    | cons first later =>
        simp [ends first rfl]
  rw [List.takeWhile_append_of_pos areDigits,
    List.dropWhile_append_of_pos areDigits, noneTaken, noneDropped,
    List.append_nil]
  exact ⟨rfl, rfl⟩

/-- An exponent begins with its mark. -/
theorem isMark_of_exponent?
    {mark : Char}
    {rest : List Char}
    {exponent : Int}
    (reads : Decimal.exponent? (mark :: rest) = some exponent) :
    mark = 'e' ∨ mark = 'E' := by
  unfold Decimal.exponent? at reads
  simp only at reads
  split at reads
  · rename_i holds
    simp only [Bool.and_eq_true, Bool.or_eq_true, decide_eq_true_eq]
      at holds
    exact holds.1.1
  · cases reads

/-- Neither digits nor a point go on in an exponent. -/
theorem head_of_exponent?
    {tail : List Char}
    {exponent : Int}
    (reads : Decimal.exponent? tail = some exponent) :
    ∀ char, tail.head? = some char → char.isDigit = false ∧ char ≠ '.' := by
  intro char isHead
  cases tail with
  | nil =>
      cases isHead
  | cons mark rest =>
      cases isHead
      rcases isMark_of_exponent? reads with rfl | rfl <;> decide

theorem fractionOf_of_head
    {tail : List Char}
    (noPoint : ∀ char, tail.head? = some char → char ≠ '.') :
    Decimal.fractionOf tail = ([], tail) := by
  unfold Decimal.fractionOf
  split
  · exact absurd rfl (noPoint '.' rfl)
  · rfl

/-- Whatever exponent stands behind a mantissa, it only moves the point. -/
theorem IsMantissa.exists_text
    {mantissa : List Char}
    (isMantissa : IsMantissa mantissa) :
    ∃ negative whole fraction,
      ∀ tail exponent,
        Decimal.exponent? tail = some exponent →
          Double.ofScaledChars? (mantissa ++ tail) =
            some (.ofRank negative
              (DecimalText.scaledRank ⟨whole, fraction, exponent⟩)) := by
  cases isMantissa with
  | @whole negative whole isDigits =>
      refine ⟨negative, whole, [], ?_⟩
      intro tail exponent reads
      have heads := head_of_exponent? reads
      obtain ⟨taken, left⟩ :=
        while_digits isDigits.2 tail fun char isHead =>
          (heads char isHead).1
      have noFraction :=
        fractionOf_of_head fun char isHead => (heads char isHead).2
      rw [List.append_assoc]
      simp [Double.ofScaledChars?, signed_minus negative isDigits,
        Decimal.text?, taken, left, noFraction, isDigits.1, reads]
  | @fraction negative whole fraction isDigits behind =>
      refine ⟨negative, whole, fraction, ?_⟩
      intro tail exponent reads
      have heads := head_of_exponent? reads
      obtain ⟨taken, left⟩ :=
        while_digits isDigits.2 ('.' :: (fraction ++ tail)) (by simp)
      obtain ⟨takenBehind, leftBehind⟩ :=
        while_digits behind.2 tail fun char isHead =>
          (heads char isHead).1
      rw [List.append_assoc, List.append_assoc, List.cons_append]
      simp [Double.ofScaledChars?, signed_minus negative isDigits,
        Decimal.text?, taken, left, Decimal.fractionOf, takenBehind,
        leftBehind, isDigits.1, reads]

/-- What an exponent without a minus sign comes to. -/
theorem exponent?_of_digits
    {mark : Char}
    {sign digits : List Char}
    (isMark : NumberPhase.isMark mark = true)
    (isDigits : IsDigits digits)
    (isSign : sign = [] ∨ sign = ['+']) :
    Decimal.exponent? (mark :: (sign ++ digits)) =
      some (Text.naturalOfDigits digits : Int) := by
  have read : Decimal.signed (sign ++ digits) = (false, digits) := by
    rcases isSign with rfl | rfl
    · simpa using isDigits.signed []
    · rfl
  have allDigits : digits.all Char.isDigit = true :=
    List.all_eq_true.mpr isDigits.2
  have nonempty : digits.isEmpty = false := by
    simpa using isDigits.1
  unfold NumberPhase.isMark at isMark
  simp [Decimal.exponent?, read, isMark, allDigits, nonempty]

theorem exponent?_of_minus
    {mark : Char}
    {digits : List Char}
    (isMark : NumberPhase.isMark mark = true)
    (isDigits : IsDigits digits) :
    Decimal.exponent? (mark :: '-' :: digits) =
      some (-(Text.naturalOfDigits digits : Int)) := by
  have read : Decimal.signed ('-' :: digits) = (true, digits) :=
    rfl
  have allDigits : digits.all Char.isDigit = true :=
    List.all_eq_true.mpr isDigits.2
  have nonempty : digits.isEmpty = false := by
    simpa using isDigits.1
  unfold NumberPhase.isMark at isMark
  simp [Decimal.exponent?, read, isMark, allDigits, nonempty]

/-! ## Literals of unlimited size -/

/-- A literal is refused when scaling it overflows. -/
theorem doubleLiteral?_eq_none_iff
    {literal : List Char}
    {double : Double}
    (isDouble : Double.ofScaledChars? literal = some double) :
    doubleLiteral? literal = none ↔ double.isFinite = false := by
  simp [doubleLiteral?, isDouble]

/-- A literal that overflows without an exponent below zero stays so. -/
theorem doubleLiteral?_of_more_digits
    {mantissa sign digits : List Char}
    {mark digit : Char}
    (isMantissa : IsMantissa mantissa)
    (isMark : NumberPhase.isMark mark = true)
    (isSign : sign = [] ∨ sign = ['+'])
    (isDigits : IsDigits digits)
    (isDigit : digit.isDigit = true)
    (overflows :
      doubleLiteral? (mantissa ++ mark :: (sign ++ digits)) = none) :
    doubleLiteral?
        (mantissa ++ mark :: (sign ++ (digits ++ [digit]))) = none := by
  obtain ⟨negative, whole, fraction, reads⟩ :=
    isMantissa.exists_text
  have readsNow := reads _ _ (exponent?_of_digits isMark isDigits isSign)
  have readsThen :=
    reads _ _
      (exponent?_of_digits isMark (isDigits_concat isDigits isDigit) isSign)
  rw [doubleLiteral?_eq_none_iff readsNow, Bool.eq_false_iff, Ne,
    Double.isFinite_ofRank_iff] at overflows
  rw [doubleLiteral?_eq_none_iff readsThen, Bool.eq_false_iff, Ne,
    Double.isFinite_ofRank_iff]
  intro finite
  have grows := Text.le_naturalOfDigits_append digits [digit]
  exact overflows
    (DecimalText.scaledRank_lt_of_le (Int.ofNat_le.mpr grows) finite)

/-- Enough nines in an exponent below zero bring every literal back. -/
theorem exists_doubleLiteral?_ne_none
    {mantissa : List Char}
    (isMantissa : IsMantissa mantissa)
    {mark : Char}
    (isMark : NumberPhase.isMark mark = true)
    {digits : List Char}
    (areDigits : ∀ char ∈ digits, char.isDigit = true) :
    ∃ count,
      doubleLiteral?
          (mantissa ++
            mark :: '-' :: (digits ++ List.replicate (count + 1) '9')) ≠
        none := by
  obtain ⟨negative, whole, fraction, reads⟩ :=
    isMantissa.exists_text
  refine ⟨whole.length, ?_⟩
  generalize isCount : whole.length = count
  have nines : IsDigits (digits ++ List.replicate (count + 1) '9') := by
    refine ⟨by simp, ?_⟩
    intro char member
    rcases List.mem_append.mp member with before | behind
    · exact areDigits char before
    · rw [List.eq_of_mem_replicate behind]
      rfl
  have great := Text.le_naturalOfDigits_nines digits (count + 1)
  have finite :
      DecimalText.scaledRank
        ⟨whole, fraction,
          -(Text.naturalOfDigits
              (digits ++ List.replicate (count + 1) '9') : Int)⟩ <
        infinityRank :=
    DecimalText.scaledRank_lt_of_small (by omega)
  rw [Ne,
    doubleLiteral?_eq_none_iff (reads _ _ (exponent?_of_minus isMark nines)),
    (Double.isFinite_ofRank_iff negative _).mpr finite]
  simp

end Json

end Mockup
