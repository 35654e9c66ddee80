import Mathlib.Data.List.TakeDrop
import Mathlib.Tactic.Tauto
import Mockup.Computed.Currency
import Mockup.Proofs.Number.Fixed
import Mockup.Proofs.Text.Pieces

namespace Mockup

namespace Computed

/-!
# Amounts in groups of digits

The text of an amount is its fixed text with commas put in.  Taking the commas
out again gives the fixed text, and they cut its whole part into groups of
three digits, of which the first may be shorter.  A minus sign stands before
the amounts that are still below zero as they are written.
-/

/-! ## Groups -/

/-- Taking the commas out of grouped digits gives the digits. -/
theorem filter_grouped
    {digits : List Char}
    (commaless : ',' ∉ digits) :
    (grouped digits).filter (· ≠ ',') = digits := by
  induction digits with
  | nil =>
      rfl
  | cons digit rest inductionHypothesis =>
      rw [List.mem_cons, not_or] at commaless
      have restSame := inductionHypothesis commaless.2
      have isKept : digit ≠ ',' := Ne.symm commaless.1
      rw [grouped]
      split
      · simpa [isKept] using restSame
      · simpa [isKept] using restSame

theorem mem_grouped
    {digits : List Char}
    {char : Char}
    (member : char ∈ grouped digits) :
    char = ',' ∨ char ∈ digits := by
  induction digits with
  | nil =>
      cases member
  | cons digit rest inductionHypothesis =>
      rw [grouped] at member
      split at member
      · simp only [List.mem_cons] at member ⊢
        tauto
      · simp only [List.mem_cons] at member ⊢
        tauto

/--
Commas cut grouped digits into groups of three.  The first group has what is
left over, which is one to three digits.
-/
theorem splitAt_grouped
    {digits : List Char}
    (nonempty : digits ≠ [])
    (commaless : ',' ∉ digits) :
    ∃ first others,
      Text.splitAt ',' (grouped digits) = first :: others ∧
        first.length = (digits.length - 1) % 3 + 1 ∧
          ∀ group ∈ others, group.length = 3 := by
  induction digits with
  | nil =>
      exact absurd rfl nonempty
  | cons digit rest inductionHypothesis =>
      rw [List.mem_cons, not_or] at commaless
      have isDigit : digit ≠ ',' := Ne.symm commaless.1
      by_cases isLast : rest = []
      · refine ⟨[digit], [], ?_, by simp [isLast], by simp⟩
        simp [isLast, grouped, Text.splitAt, Text.consFirst, isDigit]
      · obtain ⟨first, others, pieces, firstLength, otherLengths⟩ :=
          inductionHypothesis isLast commaless.2
        have more : 0 < rest.length :=
          List.length_pos_iff.mpr isLast
        by_cases isFull : rest.length % 3 = 0
        · -- A full group follows, so that the digit is a group of its own.
          refine ⟨[digit], first :: others, ?_, ?_, ?_⟩
          · simp [grouped, isLast, isFull, Text.splitAt, isDigit, pieces,
              Text.consFirst]
          · simp only [List.length_cons, List.length_nil]
            omega
          · intro group member
            rcases List.mem_cons.mp member with rfl | member
            · omega
            · exact otherLengths group member
        · refine ⟨digit :: first, others, ?_, ?_, otherLengths⟩
          · simp [grouped, isFull, Text.splitAt, isDigit, pieces,
              Text.consFirst]
          · simp only [List.length_cons]
            omega

/-- Digits in groups of three, the first of which may have fewer. -/
def IsGrouped
    (text : List Char) :
    Prop :=
  ∃ first others,
    Text.splitAt ',' text = first :: others ∧
      (1 ≤ first.length ∧ first.length ≤ 3) ∧
        (∀ group ∈ others, group.length = 3) ∧
          ∀ group ∈ first :: others,
            ∀ char ∈ group, char.isDigit = true

theorem isGrouped_grouped
    {digits : List Char}
    (nonempty : digits ≠ [])
    (areDigits : ∀ char ∈ digits, char.isDigit = true) :
    IsGrouped (grouped digits) := by
  have commaless : ',' ∉ digits := fun comma =>
    absurd (areDigits ',' comma) (by decide)
  obtain ⟨first, others, pieces, firstLength, otherLengths⟩ :=
    splitAt_grouped nonempty commaless
  refine ⟨first, others, pieces, by omega, otherLengths, ?_⟩
  intro group isGroup char member
  rw [← pieces] at isGroup
  obtain ⟨inText, isNoComma⟩ := Text.mem_of_mem_splitAt isGroup member
  exact areDigits char ((mem_grouped inText).resolve_left isNoComma)

/-! ## The body of an amount -/

/-- A text is cut at its first point. -/
theorem cut_at_point
    {whole fraction : List Char}
    (pointless : '.' ∉ whole)
    (pointFirst : ∀ char ∈ fraction.head?, char = '.') :
    (whole ++ fraction).takeWhile (· != '.') = whole ∧
      (whole ++ fraction).dropWhile (· != '.') = fraction := by
  have passed : ∀ char ∈ whole, (char != '.') = true := by
    rintro char member
    rw [bne_iff_ne]
    rintro rfl
    exact pointless member
  rw [List.takeWhile_append_of_pos passed, List.dropWhile_append_of_pos passed]
  cases fraction with
  | nil =>
      simp
  | cons point rest =>
      simp [pointFirst point rfl]

section Fixed

variable {whole fraction : List Char}

theorem not_mem_whole
    (isFixed : IsFixed whole fraction)
    {char : Char}
    (other : char.isDigit = false) :
    char ∉ whole := by
  intro member
  rw [isFixed.wholeDigits char member] at other
  cases other

theorem comma_not_mem_fraction
    (isFixed : IsFixed whole fraction) :
    ',' ∉ fraction := by
  intro comma
  cases fraction with
  | nil =>
      cases comma
  | cons point rest =>
      rcases List.mem_cons.mp comma with isPoint | inRest
      · exact absurd (isFixed.pointFirst point rfl) (isPoint ▸ by decide)
      · exact absurd (isFixed.fractionDigits ',' inRest) (by decide)

theorem point_not_mem_grouped
    (isFixed : IsFixed whole fraction) :
    '.' ∉ grouped whole := by
  intro point
  rcases mem_grouped point with isComma | inWhole
  · exact absurd isComma (by decide)
  · exact not_mem_whole isFixed rfl inWhole

/-- Only what stands before the point of a fixed text is grouped. -/
theorem groupedAmount_append
    (isFixed : IsFixed whole fraction) :
    groupedAmount (whole ++ fraction) = grouped whole ++ fraction := by
  obtain ⟨isWhole, isFraction⟩ :=
    cut_at_point (not_mem_whole isFixed rfl) isFixed.pointFirst
  rw [groupedAmount, List.span_eq_takeWhile_dropWhile, isWhole, isFraction]

end Fixed

/-! ## Amounts -/

/--
How a sign and a body show an amount.  Without its commas the body is the fixed
text of the magnitude; they stand between the groups of its whole part, and
what follows the whole part is as in the fixed text.  A minus sign stands for an
amount below zero that is not written as zero.
-/
structure ShowsAmount
    (style : CurrencyStyle)
    (amount : Double)
    (sign body : List Char) :
    Prop where
  commaless :
    body.filter (· ≠ ',') = amount.fixedMagnitude style.decimals
  grouped :
    IsGrouped (body.takeWhile (· != '.'))
  fraction :
    body.dropWhile (· != '.') =
      (amount.fixedMagnitude style.decimals).dropWhile (· != '.')
  optional :
    sign = [] ∨ sign = ['-']
  minus_iff :
    sign = ['-'] ↔
      amount.belowZero = true ∧
        ∃ digit ∈ amount.fixedMagnitude style.decimals,
          digit.isDigit = true ∧ digit ≠ '0'

/-- The style of the currency that some arguments ask for. -/
def styleOf
    (arguments : List Value) :
    CurrencyStyle :=
  currencyStyle
    (String.ofList (Text.upper (textArgument arguments 1 "CNY").toList))

/-- Grouping a fixed text puts commas into its whole part alone. -/
theorem groupedAmount_fixedMagnitude
    {amount : Double}
    (finite : amount.isFinite = true)
    (decimals : Nat) :
    let fixed := amount.fixedMagnitude decimals
    let body := groupedAmount fixed
    body.filter (· ≠ ',') = fixed ∧
      IsGrouped (body.takeWhile (· != '.')) ∧
        body.dropWhile (· != '.') = fixed.dropWhile (· != '.') := by
  obtain ⟨whole, fraction, shape, isFixed⟩ :=
    amount.isFixed_of_fixedMagnitude finite decimals
  obtain ⟨-, isFraction⟩ :=
    cut_at_point (not_mem_whole isFixed rfl) isFixed.pointFirst
  obtain ⟨isGroupedWhole, isGroupedFraction⟩ :=
    cut_at_point (point_not_mem_grouped isFixed) isFixed.pointFirst
  have kept : fraction.filter (· ≠ ',') = fraction := by
    rw [List.filter_eq_self]
    intro char member
    have different : char ≠ ',' := fun isComma =>
      comma_not_mem_fraction isFixed (isComma ▸ member)
    simpa using different
  simp only [shape, groupedAmount_append isFixed, isGroupedWhole,
    isGroupedFraction, isFraction, List.filter_append, kept,
    filter_grouped (not_mem_whole isFixed rfl), true_and, and_true]
  exact isGrouped_grouped isFixed.nonempty isFixed.wholeDigits

theorem hasNonzeroDigit_iff
    (chars : List Char) :
    hasNonzeroDigit chars = true ↔
      ∃ digit ∈ chars, digit.isDigit = true ∧ digit ≠ '0' := by
  simp [hasNonzeroDigit]

/-- The sign in front of an amount. -/
def amountSign
    (style : CurrencyStyle)
    (amount : Double) :
    List Char :=
  if amount.belowZero &&
      hasNonzeroDigit (amount.fixedMagnitude style.decimals) then
    ['-']
  else
    []

theorem currencyText_eq
    (style : CurrencyStyle)
    (amount : Double) :
    currencyText style amount =
      String.ofList
        (amountSign style amount ++ style.symbol.toList ++
          groupedAmount (amount.fixedMagnitude style.decimals)) := by
  rw [← String.toList_inj, currencyText, amountSign]
  split <;> simp

theorem amountSign_eq_minus_iff
    (style : CurrencyStyle)
    (amount : Double) :
    amountSign style amount = ['-'] ↔
      amount.belowZero = true ∧
        ∃ digit ∈ amount.fixedMagnitude style.decimals,
          digit.isDigit = true ∧ digit ≠ '0' := by
  rw [← hasNonzeroDigit_iff, ← Bool.and_eq_true, amountSign]
  split <;> simp_all

theorem formatCurrency_of_amount
    {arguments : List Value}
    {amount : Double}
    (isAmount : numberArgument "formatCurrency" arguments 0 = .ok amount) :
    formatCurrency arguments =
      .ok (.string (currencyText (styleOf arguments) amount)) := by
  simp only [formatCurrency, isAmount, styleOf]

/--
A finite amount is shown as a sign, the symbol of its currency, and a body that
is its fixed text with commas between groups of three digits.
-/
theorem formatCurrency_shows_amount
    {arguments : List Value}
    {amount : Double}
    (isAmount : numberArgument "formatCurrency" arguments 0 = .ok amount)
    (finite : amount.isFinite = true) :
    ∃ sign body,
      formatCurrency arguments =
          .ok (.string
            (String.ofList
              (sign ++ (styleOf arguments).symbol.toList ++ body))) ∧
        ShowsAmount (styleOf arguments) amount sign body := by
  let style := styleOf arguments
  let fixed := amount.fixedMagnitude style.decimals
  obtain ⟨isCommaless, isGrouped, isFraction⟩ :=
    groupedAmount_fixedMagnitude finite style.decimals
  refine ⟨amountSign style amount, groupedAmount fixed, ?_, ?_⟩
  · rw [formatCurrency_of_amount isAmount, currencyText_eq]
  · exact {
      commaless := isCommaless
      grouped := isGrouped
      fraction := isFraction
      optional := by
        unfold amountSign
        split <;> simp
      minus_iff := amountSign_eq_minus_iff style amount
    }

/-- A debt of more than a million, in a currency named by small letters. -/
theorem formatCurrency_shows_amount_million :
    let arguments : List Value := [.string "-1234567.891", .string "eur"]
    let amount := (⟨1234567891, -3⟩ : Decimal).toDouble true
    numberArgument "formatCurrency" arguments 0 = .ok amount ∧
      amount.isFinite = true ∧
        ∃ sign body,
          formatCurrency arguments =
              .ok (.string (String.ofList (sign ++ "€".toList ++ body))) ∧
            String.ofList (sign ++ "€".toList ++ body) = "-€1,234,567.89" ∧
              ShowsAmount ⟨"€", 2⟩ amount sign body := by
  intro arguments amount
  have isAmount :
      numberArgument "formatCurrency" arguments 0 = .ok amount :=
    rfl
  have finite : amount.isFinite = true := by
    decide +kernel
  have isEuro : styleOf arguments = ⟨"€", 2⟩ := by
    decide
  have isText : currencyText ⟨"€", 2⟩ amount = "-€1,234,567.89" := by
    decide +kernel
  obtain ⟨sign, body, shown, shows⟩ :=
    formatCurrency_shows_amount isAmount finite
  rw [isEuro] at shown shows
  refine ⟨isAmount, finite, sign, body, shown, ?_, shows⟩
  rw [formatCurrency_of_amount isAmount, isEuro, isText] at shown
  exact (Value.string.inj (Except.ok.inj shown)).symm

end Computed

end Mockup
