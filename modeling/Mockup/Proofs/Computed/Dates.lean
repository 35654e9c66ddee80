import Mockup.Computed.Dates
import Mockup.Proofs.Computed.DateReader
import Mockup.Proofs.Number.Fixed
import Mockup.Proofs.Text.Together

namespace Mockup

/-!
# Dates written and read

Written with the default pattern, a date is the numbers of its year, month and
day with dashes between them.  Up to the year 9999 that is read as the day it
was written from; the text of a later year is no date.  So a value that is
written as a date a second time stays what it is.
-/

namespace Text

/-! ## Replacing a token -/

/-- A pattern is not found before its first character. -/
theorem replaceFirst_append
    {wanted : Char}
    {earlier : List Char}
    (absent : wanted ∉ earlier)
    (pattern replacement later : List Char) :
    replaceFirst (wanted :: pattern) replacement (earlier ++ later) =
      earlier ++ replaceFirst (wanted :: pattern) replacement later := by
  induction earlier with
  | nil =>
      rfl
  | cons char earlier inductionHypothesis =>
      rw [List.mem_cons, not_or] at absent
      simp [replaceFirst, stripPattern?, absent.1,
        inductionHypothesis absent.2]

theorem replaceFirst_of_not_mem
    {wanted : Char}
    {text : List Char}
    (absent : wanted ∉ text)
    (pattern replacement : List Char) :
    replaceFirst (wanted :: pattern) replacement text = text := by
  have unchanged := replaceFirst_append absent pattern replacement []
  simpa [replaceFirst, stripPattern?] using unchanged

/-- A pattern is replaced where it stands, if nothing before begins it. -/
theorem replaceFirst_at
    {wanted : Char}
    {earlier : List Char}
    (absent : wanted ∉ earlier)
    (pattern replacement later : List Char) :
    replaceFirst (wanted :: pattern) replacement
        (earlier ++ (wanted :: pattern ++ later)) =
      earlier ++ (replacement ++ later) := by
  have found :
      stripPattern? (wanted :: pattern) (wanted :: pattern ++ later) =
        some later :=
    stripPattern?_eq_some_iff.mpr rfl
  rw [replaceFirst_append absent, List.cons_append, replaceFirst,
    ← List.cons_append, found]

end Text

namespace Computed

open DateTime

/-! ## The characters of a date -/

/-- Whether a text has only digits and dashes in it. -/
def IsNumeric
    (text : List Char) :
    Prop :=
  ∀ char ∈ text, char.isDigit = true ∨ char = '-'

namespace IsNumeric

theorem append
    {earlier later : List Char}
    (isEarlier : IsNumeric earlier)
    (isLater : IsNumeric later) :
    IsNumeric (earlier ++ '-' :: later) := by
  intro char member
  rw [List.mem_append, List.mem_cons] at member
  rcases member with member | isDash | member
  · exact isEarlier char member
  · exact Or.inr isDash
  · exact isLater char member

theorem not_mem
    {text : List Char}
    {char : Char}
    (isNumeric : IsNumeric text)
    (other : (char.isDigit || char == '-') = false) :
    char ∉ text := by
  intro member
  rcases isNumeric char member with isDigit | rfl
  · rw [isDigit] at other
    cases other
  · cases other

end IsNumeric

theorem isDigit_of_mem_twoDigits
    {number : Nat}
    {char : Char}
    (member : char ∈ twoDigits number) :
    char.isDigit = true :=
  isDigit_of_mem_padDigits (fun _ => Text.isDigit_of_mem_toDigits) member

theorem length_twoDigits
    {number : Nat}
    (small : number < 100) :
    (twoDigits number).length = 2 := by
  have fits : (Nat.toDigits 10 number).length ≤ 2 :=
    (Nat.length_toDigits_le_iff (by decide) (by decide)).mpr small
  simp only [twoDigits, padDigits, List.length_append, List.length_replicate]
  omega

/-- The zeros in front of a number do not count. -/
theorem naturalOfDigits_twoDigits
    (number : Nat) :
    Text.naturalOfDigits (twoDigits number) = number := by
  have zeros (count : Nat) (digits : List Char) :
      Text.naturalOfDigits (List.replicate count '0' ++ digits) =
        Text.naturalOfDigits digits := by
    induction count with
    | zero =>
        rfl
    | succ count inductionHypothesis =>
        simpa [Text.naturalOfDigits, List.replicate_succ]
          using inductionHypothesis
  rw [twoDigits, padDigits, zeros, Text.naturalOfDigits_toDigits]

/-- A year is written with a dash in front of its digits, or without. -/
theorem yearChars_cases
    (year : Int) :
    (∃ number : Nat,
        year = number ∧
          (toString year).toList = Nat.toDigits 10 number) ∨
      ∃ number : Nat,
        year = -number ∧
          (toString year).toList = '-' :: Nat.toDigits 10 number := by
  cases year with
  | ofNat number =>
      exact Or.inl ⟨number, rfl, Nat.toList_repr⟩
  | negSucc number =>
      refine Or.inr ⟨number + 1, rfl, ?_⟩
      simp [Int.toString_eq_repr, Int.repr, Nat.toList_repr]

theorem isNumeric_year
    (year : Int) :
    IsNumeric (toString year).toList := by
  intro char member
  rcases yearChars_cases year with ⟨number, _, digits⟩ | ⟨number, _, digits⟩
  · rw [digits] at member
    exact Or.inl (Text.isDigit_of_mem_toDigits member)
  · rw [digits, List.mem_cons] at member
    exact member.symm.imp_left Text.isDigit_of_mem_toDigits

theorem isNumeric_twoDigits
    (number : Nat) :
    IsNumeric (twoDigits number) :=
  fun _ member => Or.inl (isDigit_of_mem_twoDigits member)

/-- The numbers of a date with dashes between them. -/
def dashed
    (date : Date) :
    List Char :=
  (toString date.year).toList ++
    '-' :: (twoDigits date.month ++ '-' :: twoDigits date.day)

theorem isNumeric_dashed
    (date : Date) :
    IsNumeric (dashed date) :=
  (isNumeric_year date.year).append
    ((isNumeric_twoDigits date.month).append (isNumeric_twoDigits date.day))

/-- The default pattern writes the day of a moment with dashes. -/
theorem dateText_defaultPattern
    (moment : DateTime) :
    dateText moment defaultPattern = String.ofList (dashed moment.date) := by
  let year := (toString moment.date.year).toList
  let month := twoDigits moment.date.month
  let day := twoDigits moment.date.day
  have isYear : IsNumeric year :=
    isNumeric_year moment.date.year
  have isYearAndMonth : IsNumeric (year ++ '-' :: month) :=
    isYear.append (isNumeric_twoDigits moment.date.month)
  have afterYear :
      Text.replaceFirst "YYYY".toList year defaultPattern.toList =
        year ++ "-MM-DD".toList :=
    Text.replaceFirst_at List.not_mem_nil "YYY".toList year "-MM-DD".toList
  have afterMonth :
      Text.replaceFirst "MM".toList month (year ++ "-MM-DD".toList) =
        year ++ '-' :: (month ++ "-DD".toList) := by
    have notYet : 'M' ∉ year ++ ['-'] := by
      simpa using isYear.not_mem rfl
    simpa using Text.replaceFirst_at notYet ['M'] month "-DD".toList
  have afterDay :
      Text.replaceFirst "DD".toList day
          (year ++ '-' :: (month ++ "-DD".toList)) =
        year ++ '-' :: (month ++ '-' :: day) := by
    have absent : 'D' ∉ year ++ '-' :: month :=
      isYearAndMonth.not_mem rfl
    have notYet : 'D' ∉ year ++ '-' :: month ++ ['-'] := by
      simpa using absent
    simpa using Text.replaceFirst_at notYet ['D'] day []
  -- The tokens of the time do not stand in the numbers of a date.
  have untouched
      (char : Char)
      (other : (char.isDigit || char == '-') = false)
      (replacement : List Char) :
      Text.replaceFirst [char, char] replacement (dashed moment.date) =
        dashed moment.date :=
    Text.replaceFirst_of_not_mem
      ((isNumeric_dashed moment.date).not_mem other) [char] replacement
  have afterTime :
      Text.replaceFirst "ss".toList (twoDigits moment.second)
          (Text.replaceFirst "mm".toList (twoDigits moment.minute)
            (Text.replaceFirst "HH".toList (twoDigits moment.hour)
              (dashed moment.date))) =
        dashed moment.date := by
    simp [untouched 'H' rfl, untouched 'm' rfl, untouched 's' rfl]
  simp only [dateText, dateTokens, List.foldl_cons, List.foldl_nil]
  rw [afterYear, afterMonth, afterDay]
  exact congrArg String.ofList afterTime

/-! ## Reading a written date -/

theorem looseDate?_dashed
    {date : Date}
    (short : date.year ≤ 9999)
    (isMonth : date.month < 100)
    (isDay : date.day < 100) :
    looseDate? (dashed date) = some (date, []) := by
  have isYear (rest : List Char) :
      looseYear? ((toString date.year).toList ++ '-' :: rest) =
        some (date.year, '-' :: rest) := by
    have stops : ∀ char ∈ ('-' :: rest).head?, char.isDigit = false :=
      fun _ isHead => Option.some.inj isHead ▸ rfl
    rcases yearChars_cases date.year with
      ⟨number, isNumber, digits⟩ | ⟨number, isNumber, digits⟩
    · rw [digits, isNumber]
      exact looseYear?_toDigits (by omega) stops
    · rw [digits, isNumber]
      exact looseYear?_minus_toDigits stops
  have read :=
    looseDate?_of_parts isYear
      (fun _ => isDigit_of_mem_twoDigits) (length_twoDigits isMonth)
      (fun _ => isDigit_of_mem_twoDigits) (length_twoDigits isDay)
  rw [naturalOfDigits_twoDigits, naturalOfDigits_twoDigits] at read
  exact read

theorem looseDate?_dashed_of_late
    {date : Date}
    (late : 9999 < date.year) :
    looseDate? (dashed date) = none := by
  rcases yearChars_cases date.year with
    ⟨number, isNumber, digits⟩ | ⟨number, isNumber, digits⟩
  · have long : 4 < (Nat.toDigits 10 number).length := by
      refine Nat.lt_of_not_le fun short => ?_
      have small : number < 10 ^ 4 :=
        (Nat.length_toDigits_le_iff (by decide) (by decide)).mp short
      omega
    rw [dashed, digits]
    exact looseDate?_of_long_year
      (fun _ => Text.isDigit_of_mem_toDigits) long
  · omega

/-- What a written date is read as. -/
theorem ofText?_dashed
    {date : Date}
    (isValid : date.isValid = true) :
    ofText? (String.ofList (dashed date)) =
      if date.year ≤ 9999 then some (ofDate date) else none := by
  have noBlank :
      ∀ char ∈ (String.ofList (dashed date)).toList,
        Text.isBlank char = false := by
    rw [String.toList_ofList]
    intro char member
    rcases isNumeric_dashed date char member with isDigit | rfl
    · exact Text.isBlank_of_isDigit isDigit
    · decide
  have colonless : ':' ∉ (String.ofList (dashed date)).toList := by
    rw [String.toList_ofList]
    exact (isNumeric_dashed date).not_mem rfl
  rw [ofText?_of_date noBlank colonless, String.toList_ofList, ofLooseDate?]
  split_ifs with short
  · obtain ⟨isMonth, isDay⟩ := Date.lt_of_isValid isValid
    rw [looseDate?_dashed short isMonth isDay]
    exact if_pos isValid
  · rw [looseDate?_dashed_of_late (Int.not_le.mp short)]

/-! ## Moments have dates -/

/-- Every moment that a value names has a day of the calendar. -/
theorem isValid_of_moment?
    {value : Value}
    {moment : DateTime}
    (isMoment : moment? value = some moment) :
    moment.date.isValid = true := by
  unfold moment? at isMoment
  split at isMoment
  · exact isValid_of_ofMilliseconds? isMoment
  · rw [Option.ite_none_right_eq_some] at isMoment
    exact isValid_of_ofMilliseconds? isMoment.2
  · exact isValid_of_ofText? isMoment
  · cases isMoment

/-! ## Writing a date again -/

/-- What a value is written as, a date or no date. -/
theorem formatDate_cons
    (value : Value)
    (more : List Value) :
    formatDate (value :: more) =
      match moment? value with
      | none =>
          .ok value
      | some moment =>
          .ok (.string
            (dateText moment
              (textArgument (value :: more) 1 defaultPattern))) := by
  have first : (argument? (value :: more) 0).getD .null = value := by
    cases value <;> rfl
  cases isMoment : moment? value with
  | none =>
      simp only [formatDate, first, isMoment]
  | some moment =>
      simp only [formatDate, first, isMoment]

/-- A written date is read as the start of its day, unless it is too late. -/
theorem moment?_dateText
    {value : Value}
    {moment : DateTime}
    (isMoment : moment? value = some moment) :
    moment? (.string (dateText moment defaultPattern)) =
      if moment.date.year ≤ 9999 then
        some (ofDate moment.date)
      else
        none := by
  rw [dateText_defaultPattern]
  exact ofText?_dashed (isValid_of_moment? isMoment)

/--
Written with the default pattern, a value becomes one that stays the same when
it is written again.  A moment up to the year 9999 is read back as the start of
its day; a later one is not read back at all.
-/
theorem formatDate_formatDate
    (value : Value)
    (more : List Value)
    (isDefault :
      textArgument (value :: more) 1 defaultPattern = defaultPattern) :
    ∃ shown,
      formatDate (value :: more) = .ok shown ∧
        formatDate (shown :: more) = .ok shown ∧
          (moment? value = none → shown = value) ∧
            ∀ moment, moment? value = some moment →
              moment? shown =
                if moment.date.year ≤ 9999 then
                  some (ofDate moment.date)
                else
                  none := by
  have isDefaultAgain (shown : Value) :
      textArgument (shown :: more) 1 defaultPattern = defaultPattern :=
    isDefault
  cases isMoment : moment? value with
  | none =>
      have unchanged : formatDate (value :: more) = .ok value := by
        rw [formatDate_cons, isMoment]
      exact ⟨value, unchanged, unchanged, fun _ => rfl, nofun⟩
  | some moment =>
      let shown := Value.string (dateText moment defaultPattern)
      have readBack : moment? shown = _ :=
        moment?_dateText isMoment
      have again : formatDate (shown :: more) = .ok shown := by
        rw [formatDate_cons, readBack, isDefaultAgain]
        split_ifs with short
        · -- Only the day of a moment is written.
          have sameText :
              dateText (ofDate moment.date) defaultPattern =
                dateText moment defaultPattern := by
            rw [dateText_defaultPattern, dateText_defaultPattern]
            rfl
          simp only [sameText, shown]
        · rfl
      refine ⟨shown, ?_, again, nofun, ?_⟩
      · rw [formatDate_cons, isMoment, isDefault]
      · rintro _ ⟨⟩
        exact readBack

/-- A moment of the year 33658 and one of the year -1, by milliseconds. -/
theorem formatDate_formatDate_far :
    ∃ late early,
      formatDate [.int 1000000000000000] = .ok late ∧
        formatDate [late] = .ok late ∧ moment? late = none ∧
          formatDate [.string "-1-2-3", .null] = .ok early ∧
            formatDate [early, .null] = .ok early ∧
              moment? early = some (ofDate ⟨-1, 2, 3⟩) := by
  obtain ⟨late, isLate, lateAgain, _, lateRead⟩ :=
    formatDate_formatDate (.int 1000000000000000) [] rfl
  obtain ⟨early, isEarly, earlyAgain, _, earlyRead⟩ :=
    formatDate_formatDate (.string "-1-2-3") [.null] rfl
  have lateMoment :
      moment? (.int 1000000000000000) = some ⟨⟨33658, 9, 27⟩, 1, 46, 40⟩ := by
    decide
  have earlyMoment :
      moment? (.string "-1-2-3") = some (ofDate ⟨-1, 2, 3⟩) := by
    decide
  exact ⟨late, early, isLate, lateAgain, lateRead _ lateMoment, isEarly,
    earlyAgain, earlyRead _ earlyMoment⟩

end Computed

end Mockup
