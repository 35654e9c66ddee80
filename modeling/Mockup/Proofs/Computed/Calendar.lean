import Mathlib.Tactic.IntervalCases
import Mockup.Computed.Calendar

namespace Mockup

namespace Date

/-!
# Days have dates

Every day that is counted from the epoch has a date of the calendar.  An era
of four hundred years has four centuries of twenty-five cycles of four years,
and one day more at its very end; a cycle has four years, and one day more
unless it is the last one of its century.  Both days are leap days, and as
years are counted from March on, the leap day is the last day of its year.
-/

/-! ## The days of an era -/

/-- The year of an era in which a day of the era lies. -/
def yearOfEra
    (dayOfEra : Int) :
    Int :=
  (dayOfEra - dayOfEra / 1460 + dayOfEra / 36524 - dayOfEra / 146096) / 365

/-- The day of its year that a day of an era is. -/
def dayOfYear
    (dayOfEra : Int) :
    Int :=
  dayOfEra -
    (365 * yearOfEra dayOfEra + yearOfEra dayOfEra / 4 -
      yearOfEra dayOfEra / 100)

/-- Within its cycle of four years, a day lies in one of these years. -/
theorem yearOfEra_of_cycle
    {century cycle rest : Int}
    (centuries : 0 ≤ century ∧ century ≤ 3)
    (cycles : 0 ≤ cycle ∧ cycle ≤ 24)
    (days : 0 ≤ rest ∧ rest ≤ 1460)
    (short : cycle = 24 → rest < 1460) :
    yearOfEra (36524 * century + 1461 * cycle + rest) =
      100 * century + 4 * cycle + min (rest / 365) 3 := by
  let day := 36524 * century + 1461 * cycle + rest
  have inCentury : day / 36524 = century := by
    omega
  have inEra : day / 146096 = 0 := by
    omega
  -- Counted in cycles without a leap day, the last days may lie in the next.
  have inCycle :
      day / 1460 = 25 * century + cycle ∨
        day / 1460 = 25 * century + cycle + 1 ∧ 1364 ≤ rest := by
    omega
  change (day - day / 1460 + day / 36524 - day / 146096) / 365 = _
  rw [inCentury, inEra]
  rcases inCycle with sameCycle | ⟨nextCycle, late⟩
  · rw [sameCycle]
    omega
  · rw [nextCycle]
    omega

/-- A day of an era lies in a cycle of a century, or is the last day. -/
theorem exists_cycle
    {dayOfEra : Int}
    (inEra : 0 ≤ dayOfEra ∧ dayOfEra < daysPerEra) :
    dayOfEra = 146096 ∨
      ∃ century cycle rest,
        (0 ≤ century ∧ century ≤ 3) ∧ (0 ≤ cycle ∧ cycle ≤ 24) ∧
          (0 ≤ rest ∧ rest ≤ 1460) ∧ (cycle = 24 → rest < 1460) ∧
            dayOfEra = 36524 * century + 1461 * cycle + rest := by
  unfold daysPerEra at inEra
  by_cases isLast : dayOfEra = 146096
  · exact Or.inl isLast
  · refine Or.inr ⟨dayOfEra / 36524, dayOfEra % 36524 / 1461,
      dayOfEra % 36524 % 1461, ?_⟩
    omega

/-- A year that begins in March has 365 days, and one more in a leap year. -/
theorem dayOfYear_bounds
    {dayOfEra : Int}
    (inEra : 0 ≤ dayOfEra ∧ dayOfEra < daysPerEra) :
    (0 ≤ dayOfYear dayOfEra ∧ dayOfYear dayOfEra ≤ 365) ∧
      (dayOfYear dayOfEra = 365 →
        isLeapYear (yearOfEra dayOfEra + 1) = true) := by
  rcases exists_cycle inEra with
      rfl | ⟨century, cycle, rest, centuries, cycles, days, short, rfl⟩
  · decide
  · let quarter := min (rest / 365) 3
    have quarters : 0 ≤ quarter ∧ quarter ≤ 3 ∧ 365 * quarter ≤ rest := by
      omega
    have year := yearOfEra_of_cycle centuries cycles days short
    have byFour :
        (100 * century + 4 * cycle + quarter) / 4 =
          25 * century + cycle := by
      omega
    have byHundred :
        (100 * century + 4 * cycle + quarter) / 100 = century := by
      omega
    have dayInYear :
        dayOfYear (36524 * century + 1461 * cycle + rest) =
          rest - 365 * quarter := by
      rw [dayOfYear, year, byFour, byHundred]
      omega
    rw [dayInYear, year]
    refine ⟨by omega, fun isLast => ?_⟩
    -- A leap day ends a cycle that is not the last one of its century.
    have cycleEnds : rest = 1460 ∧ quarter = 3 ∧ cycle < 24 := by
      omega
    simp only [isLeapYear, Bool.and_eq_true, Bool.or_eq_true,
      decide_eq_true_eq]
    omega

/-! ## The days of a month -/

/-- Eras have the same leap years. -/
theorem isLeapYear_add_era
    (year era : Int) :
    isLeapYear (year + era * 400) = isLeapYear year := by
  have byFour : (year + era * 400) % 4 = year % 4 := by
    omega
  have byHundred : (year + era * 400) % 100 = year % 100 := by
    omega
  have byFourHundred : (year + era * 400) % 400 = year % 400 := by
    omega
  simp only [isLeapYear, byFour, byHundred, byFourHundred]

/-- The month and the day of a day of the year, counted from 1 March on. -/
theorem day_le_daysInMonth
    {year dayOfYear fromMarch day month : Int}
    (inYear : 0 ≤ dayOfYear ∧ dayOfYear ≤ 365)
    (leap : dayOfYear = 365 → isLeapYear year = true)
    (isFromMarch : fromMarch = (5 * dayOfYear + 2) / 153)
    (isDay : day = dayOfYear - (153 * fromMarch + 2) / 5 + 1)
    (isMonth :
      month = if fromMarch < 10 then fromMarch + 3 else fromMarch - 9) :
    1 ≤ day ∧ day.toNat ≤ daysInMonth year month.toNat := by
  have months : 0 ≤ fromMarch ∧ fromMarch ≤ 11 := by
    omega
  rcases Int.lt_or_eq_of_le months.2 with notFebruary | rfl
  · have first := months.1
    interval_cases fromMarch
    all_goals
      refine ⟨by omega, ?_⟩
      simp [isMonth, daysInMonth]
      omega
  · refine ⟨by omega, ?_⟩
    cases isLeap : isLeapYear year with
    | true =>
        simp [isMonth, daysInMonth, isLeap]
        omega
    | false =>
        have early : dayOfYear ≠ 365 := by
          intro isLast
          rw [leap isLast] at isLeap
          cases isLeap
        simp [isMonth, daysInMonth, isLeap]
        omega

/-- Every day has a date, unless its year is too far away. -/
theorem isValid_ofDays
    {days : Int}
    (inYears :
      years.1 ≤ (ofDays days).year ∧ (ofDays days).year ≤ years.2) :
    (ofDays days).isValid = true := by
  let dayOfEra := (days + daysToEpoch) % daysPerEra
  let era := (days + daysToEpoch) / daysPerEra
  let fromMarch := (5 * dayOfYear dayOfEra + 2) / 153
  let day := dayOfYear dayOfEra - (153 * fromMarch + 2) / 5 + 1
  let month := if fromMarch < 10 then fromMarch + 3 else fromMarch - 9
  have inEra : 0 ≤ dayOfEra ∧ dayOfEra < daysPerEra :=
    ⟨Int.emod_nonneg _ (by decide), Int.emod_lt_of_pos _ (by decide)⟩
  obtain ⟨inYear, leapDay⟩ := dayOfYear_bounds inEra
  have leap :
      dayOfYear dayOfEra = 365 →
        isLeapYear (ofDays days).year = true := by
    intro isLast
    have isFebruary : month = 2 := by
      simp only [month, fromMarch, isLast]
      decide
    have year :
        (ofDays days).year = yearOfEra dayOfEra + 1 + era * 400 := by
      change yearOfEra dayOfEra + era * 400 + (if month ≤ 2 then 1 else 0) = _
      rw [isFebruary, if_pos (Int.le_refl 2)]
      omega
    rw [year, isLeapYear_add_era]
    exact leapDay isLast
  obtain ⟨first, last⟩ :=
    day_le_daysInMonth inYear leap rfl rfl (rfl : month = _)
  have isFirst : 1 ≤ (ofDays days).day := by
    change 1 ≤ day.toNat
    omega
  simp only [isValid, Bool.and_eq_true, decide_eq_true_eq]
  exact ⟨⟨inYears, isFirst⟩, last⟩

/-- The numbers of a month and a day of the calendar are small. -/
theorem lt_of_isValid
    {date : Date}
    (isValid : date.isValid = true) :
    date.month < 100 ∧ date.day < 100 := by
  simp only [Date.isValid, Bool.and_eq_true, decide_eq_true_eq] at isValid
  obtain ⟨⟨_, first⟩, last⟩ := isValid
  unfold daysInMonth at last
  simp only [Bool.or_eq_true, Bool.and_eq_true, decide_eq_true_eq] at last
  split at last
  · split at last <;> omega
  · split at last
    · omega
    · split at last <;> omega

end Date

namespace DateTime

/-- The moment that a count of milliseconds stands for has a date. -/
theorem isValid_of_ofMilliseconds?
    {milliseconds : Int}
    {moment : DateTime}
    (isMoment : ofMilliseconds? milliseconds = some moment) :
    moment.date.isValid = true := by
  unfold ofMilliseconds? at isMoment
  simp only [Bool.and_eq_true, decide_eq_true_eq,
    Option.ite_none_right_eq_some, Option.some.injEq] at isMoment
  obtain ⟨inYears, rfl⟩ := isMoment
  exact Date.isValid_ofDays inYears

/-- Parts make a moment only if they name a day of the calendar. -/
theorem isValid_of_ofParts?
    {date : Date}
    {hour minute second : Nat}
    {moment : DateTime}
    (isMoment : ofParts? date hour minute second = some moment) :
    moment.date.isValid = true := by
  unfold ofParts? at isMoment
  simp only [Bool.and_eq_true, Option.ite_none_right_eq_some,
    Option.some.injEq] at isMoment
  obtain ⟨⟨⟨⟨isValid, _⟩, _⟩, _⟩, rfl⟩ := isMoment
  exact isValid

end DateTime

end Mockup
