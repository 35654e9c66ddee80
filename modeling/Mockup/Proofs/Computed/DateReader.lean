import Mockup.Computed.DateReader
import Mockup.Proofs.Computed.Calendar
import Mockup.Proofs.Patch.Pointer

namespace Mockup

/-!
# What date readers take

Every reader of a part of a date leaves an end of what it was given.  So a
form with a time in it takes no text without a colon, and a date alone is read
back from its numbers with dashes between them: the year without padding and
with up to four digits unless it has a sign, the month and the day with two.
-/

namespace Text

theorem isBlank_of_isDigit
    {char : Char}
    (isDigit : char.isDigit = true) :
    isBlank char = false := by
  simp only [Char.isDigit, Bool.and_eq_true, decide_eq_true_eq,
    UInt32.le_iff_toNat_le] at isDigit
  change 48 ≤ char.toNat ∧ char.toNat ≤ 57 at isDigit
  simp only [isBlank, blankRuns, List.any_cons, List.any_nil,
    Bool.or_false, Bool.or_eq_false_iff, Bool.and_eq_false_iff,
    decide_eq_false_iff_not]
  omega

/-- Nothing is dropped in front of a character that is not blank. -/
theorem trimStart_of_head
    {chars : List Char}
    (head : ∀ char ∈ chars.head?, isBlank char = false) :
    trimStart chars = chars := by
  cases chars with
  | nil =>
      rfl
  | cons first rest =>
      have notBlank := head first rfl
      rw [trimStart, List.dropWhile_cons_of_neg]
      rw [notBlank]
      exact Bool.false_ne_true

/-- A text without blanks is left as it is. -/
theorem trim_of_no_blank
    {chars : List Char}
    (none : ∀ char ∈ chars, isBlank char = false) :
    trim chars = chars := by
  have front : trimStart chars = chars :=
    trimStart_of_head fun char isHead =>
      none char (List.mem_of_mem_head? isHead)
  have back : trimStart chars.reverse = chars.reverse :=
    trimStart_of_head fun char isHead =>
      none char (List.mem_reverse.mp (List.mem_of_mem_head? isHead))
  rw [trim, front, back, List.reverse_reverse]

theorem trimStart_suffix
    (chars : List Char) :
    trimStart chars <:+ chars :=
  List.dropWhile_suffix isBlank

end Text

namespace DateTime

variable
  {least most number : Nat}
  {chars rest : List Char}

/-! ## Readers leave an end of the text -/

theorem suffix_of_digits?
    (reads : digits? least most chars = some (number, rest)) :
    rest <:+ chars := by
  unfold digits? at reads
  simp only at reads
  split at reads
  · cases reads
  · cases reads
    exact List.drop_suffix _ _

theorem eq_of_literal?
    {wanted : Char}
    (reads : literal? wanted chars = some rest) :
    chars = wanted :: rest := by
  unfold literal? at reads
  split at reads
  · cases reads
  · split at reads
    · rename_i same
      cases reads
      rw [same]
    · cases reads

theorem suffix_of_literal?
    {wanted : Char}
    (reads : literal? wanted chars = some rest) :
    rest <:+ chars :=
  eq_of_literal? reads ▸ List.suffix_cons _ _

theorem suffix_of_timestampMark?
    (reads : timestampMark? chars = some rest) :
    rest <:+ chars := by
  unfold timestampMark? at reads
  split at reads
  · cases reads
  · split at reads
    · cases reads
      exact List.suffix_cons _ _
    · cases reads

theorem suffix_of_looseNumber?
    (reads : looseNumber? chars = some (number, rest)) :
    rest <:+ chars :=
  (suffix_of_digits? reads).trans (Text.trimStart_suffix chars)

theorem suffix_of_looseYear?
    {year : Int}
    (reads : looseYear? chars = some (year, rest)) :
    rest <:+ chars := by
  refine List.IsSuffix.trans ?_ (Text.trimStart_suffix chars)
  unfold looseYear? at reads
  split at reads
  all_goals
    rename_i shape
    obtain ⟨⟨_, left⟩, digits, same⟩ := Option.map_eq_some_iff.mp reads
    cases same
    have isSuffix := suffix_of_digits? digits
  · rw [shape]
    exact isSuffix.trans (List.suffix_cons _ _)
  · rw [shape]
    exact isSuffix.trans (List.suffix_cons _ _)
  · exact isSuffix

/-- A character is read first, and the rest by another reader. -/
theorem suffix_of_literal?_then
    {wanted : Char}
    {reader? : List Char → Option (α × List Char)}
    (suffixes :
      ∀ {chars result rest}, reader? chars = some (result, rest) →
        rest <:+ chars)
    {result : α}
    (reads :
      ∃ between,
        literal? wanted chars = some between ∧
          reader? between = some (result, rest)) :
    wanted ∈ chars ∧ rest <:+ chars := by
  obtain ⟨between, isLiteral, reads⟩ := reads
  rw [eq_of_literal? isLiteral]
  exact ⟨List.mem_cons_self,
    (suffixes reads).trans (List.suffix_cons _ _)⟩

theorem suffix_of_looseDate?
    {date : Date}
    (reads : looseDate? chars = some (date, rest)) :
    rest <:+ chars := by
  simp only [looseDate?, Option.bind_eq_bind, Option.bind_eq_some_iff,
    Option.some.injEq, Prod.mk.injEq, Prod.exists] at reads
  obtain ⟨_, _, year, _, _, month, _, _, day, _, rfl⟩ := reads
  have afterMonth :=
    (suffix_of_literal?_then suffix_of_looseNumber? month).2
  have afterDay :=
    (suffix_of_literal?_then suffix_of_looseNumber? day).2
  exact afterDay.trans (afterMonth.trans (suffix_of_looseYear? year))

/-! ## Forms with a time -/

/-- A time of day has a colon in it. -/
theorem colon_mem_of_clock?
    {number? : List Char → Option (Nat × List Char)}
    (suffixes :
      ∀ {chars number rest}, number? chars = some (number, rest) →
        rest <:+ chars)
    {time : Nat × Nat × Nat}
    (reads : clock? number? chars = some (time, rest)) :
    ':' ∈ chars := by
  simp only [clock?, Option.bind_eq_bind, Option.bind_eq_some_iff,
    Prod.exists] at reads
  obtain ⟨_, _, hour, _, _, minute, _⟩ := reads
  exact (suffixes hour).subset
    (suffix_of_literal?_then suffixes minute).1

section

variable (colonless : ':' ∉ chars)
include colonless

theorem ofTimestamp?_eq_none :
    ofTimestamp? chars = none := by
  rw [Option.eq_none_iff_forall_ne_some]
  intro moment reads
  simp only [ofTimestamp?, Option.bind_eq_bind, Option.bind_eq_some_iff,
    Prod.exists] at reads
  obtain ⟨_, _, year, _, _, month, _, _, day, _, mark, _, _, _, _, clock,
    _⟩ := reads
  have afterMonth := (suffix_of_literal?_then suffix_of_digits? month).2
  have afterDay := (suffix_of_literal?_then suffix_of_digits? day).2
  have timeChars :=
    (suffix_of_timestampMark? mark).trans
      (afterDay.trans (afterMonth.trans (suffix_of_digits? year)))
  exact colonless
    (timeChars.subset (colon_mem_of_clock? suffix_of_digits? clock))

theorem ofLoose?_eq_none
    (between? : List Char → Option (List Char))
    (suffixes :
      ∀ {chars rest}, between? chars = some rest → rest <:+ chars) :
    ofLoose? between? chars = none := by
  rw [Option.eq_none_iff_forall_ne_some]
  intro moment reads
  simp only [ofLoose?, Option.bind_eq_bind, Option.bind_eq_some_iff,
    Prod.exists] at reads
  obtain ⟨_, _, date, _, between, reads⟩ := reads
  have timeChars :=
    (suffixes between).trans (suffix_of_looseDate? date)
  split at reads
  · rename_i clock
    exact colonless
      (timeChars.subset
        (colon_mem_of_clock? suffix_of_looseNumber? clock))
  · cases reads

end

/-- A text without blanks and colons can only be a date alone. -/
theorem ofText?_of_date
    {text : String}
    (noBlank : ∀ char ∈ text.toList, Text.isBlank char = false)
    (colonless : ':' ∉ text.toList) :
    ofText? text = ofLooseDate? text.toList := by
  have spaced :=
    ofLoose?_eq_none colonless (fun rest => some (Text.trimStart rest))
      fun same => Option.some.inj same ▸ Text.trimStart_suffix _
  have marked :=
    ofLoose?_eq_none colonless (literal? 'T') suffix_of_literal?
  simp [ofText?, Text.trim_of_no_blank noBlank,
    ofTimestamp?_eq_none colonless, spaced, marked]

/-! ## Moments have dates -/

theorem isValid_of_ofLooseDate?
    {chars : List Char}
    {moment : DateTime}
    (isMoment : ofLooseDate? chars = some moment) :
    moment.date.isValid = true := by
  unfold ofLooseDate? at isMoment
  split at isMoment
  · rw [Option.ite_none_right_eq_some] at isMoment
    obtain ⟨isValid, same⟩ := isMoment
    exact Option.some.inj same ▸ isValid
  · cases isMoment

theorem isValid_of_ofTimestamp?
    {chars : List Char}
    {moment : DateTime}
    (isMoment : ofTimestamp? chars = some moment) :
    moment.date.isValid = true := by
  simp only [ofTimestamp?, Option.bind_eq_bind, Option.bind_eq_some_iff,
    Prod.exists, Option.ite_none_right_eq_some] at isMoment
  obtain ⟨_, _, _, _, _, _, _, _, _, _, _, _, _, _, _, _, _, _, _, parts⟩ :=
    isMoment
  exact isValid_of_ofParts? parts

theorem isValid_of_ofLoose?
    {between? : List Char → Option (List Char)}
    {chars : List Char}
    {moment : DateTime}
    (isMoment : ofLoose? between? chars = some moment) :
    moment.date.isValid = true := by
  simp only [ofLoose?, Option.bind_eq_bind, Option.bind_eq_some_iff,
    Prod.exists] at isMoment
  obtain ⟨_, _, _, _, _, parts⟩ := isMoment
  split at parts
  · exact isValid_of_ofParts? parts
  · cases parts

theorem isValid_of_ofText?
    {text : String}
    {moment : DateTime}
    (isMoment : ofText? text = some moment) :
    moment.date.isValid = true := by
  simp only [ofText?, Option.orElse_eq_orElse, Option.orElse_eq_or,
    Option.or_eq_some_iff] at isMoment
  rcases isMoment with stamp | ⟨_, spaced | ⟨_, marked | ⟨_, alone⟩⟩⟩
  · exact isValid_of_ofTimestamp? stamp
  · exact isValid_of_ofLoose? spaced
  · exact isValid_of_ofLoose? marked
  · exact isValid_of_ofLooseDate? alone

/-! ## Dates alone -/

/-- Digits are read up to what follows them. -/
theorem digits?_append
    {digits : List Char}
    (areDigits : ∀ char ∈ digits, char.isDigit = true)
    (enough : least ≤ digits.length)
    (few : digits.length ≤ most)
    (stops : ∀ char ∈ rest.head?, char.isDigit = false) :
    digits? least most (digits ++ rest) =
      some (Text.naturalOfDigits digits, rest) := by
  have noMore :
      (rest.take (most - digits.length)).takeWhile Char.isDigit = [] := by
    cases rest with
    | nil =>
        simp
    | cons char rest =>
        have notDigit := stops char rfl
        cases most - digits.length <;> simp [notDigit]
  have read :
      ((digits ++ rest).take most).takeWhile Char.isDigit = digits := by
    rw [List.take_append, List.take_of_length_le few,
      List.takeWhile_append_of_pos areDigits, noMore, List.append_nil]
  simp [digits?, read, Nat.not_lt.mpr enough]

/-- What begins with a digit has neither blanks nor a sign in front. -/
theorem looseYear?_of_digit
    {char : Char}
    (isDigit : char.isDigit = true) :
    looseYear? (char :: rest) =
      (digits? 1 4 (char :: rest)).map
        fun read => ((read.1 : Int), read.2) := by
  have noBlank : Text.trimStart (char :: rest) = char :: rest :=
    Text.trimStart_of_head fun head isHead =>
      Option.some.inj isHead ▸ Text.isBlank_of_isDigit isDigit
  have noMinus : char ≠ '-' := by
    rintro rfl
    cases isDigit
  have noPlus : char ≠ '+' := by
    rintro rfl
    cases isDigit
  rw [looseYear?, noBlank]
  split
  · rename_i same
    exact absurd (List.cons.inj same).1 noMinus
  · rename_i same
    exact absurd (List.cons.inj same).1 noPlus
  · rfl

/-- A written year ends where its digits end. -/
theorem looseYear?_toDigits
    {year : Nat}
    (short : year ≤ 9999)
    (stops : ∀ char ∈ rest.head?, char.isDigit = false) :
    looseYear? (Nat.toDigits 10 year ++ rest) = some ((year : Int), rest) := by
  have read :
      digits? 1 4 (Nat.toDigits 10 year ++ rest) = some (year, rest) := by
    rw [digits?_append (fun _ => Text.isDigit_of_mem_toDigits)
      Nat.length_toDigits_pos
      ((Nat.length_toDigits_le_iff (by decide) (by decide)).mpr (by omega))
      stops, Text.naturalOfDigits_toDigits]
  cases digits : Nat.toDigits 10 year with
  | nil =>
      exact absurd digits Nat.toDigits_ne_nil
  | cons first later =>
      have member : first ∈ Nat.toDigits 10 year := by
        simp [digits]
      have isDigit := Text.isDigit_of_mem_toDigits member
      rw [digits] at read
      rw [List.cons_append] at read ⊢
      rw [looseYear?_of_digit isDigit, read]
      rfl

/-- A year with a sign in front may have any number of digits. -/
theorem looseYear?_minus_toDigits
    {year : Nat}
    (stops : ∀ char ∈ rest.head?, char.isDigit = false) :
    looseYear? ('-' :: (Nat.toDigits 10 year ++ rest)) =
      some (-(year : Int), rest) := by
  have read :
      digits? 1 (Nat.toDigits 10 year ++ rest).length
          (Nat.toDigits 10 year ++ rest) =
        some (year, rest) := by
    rw [digits?_append (fun _ => Text.isDigit_of_mem_toDigits)
      Nat.length_toDigits_pos (by simp) stops,
      Text.naturalOfDigits_toDigits]
  have noBlank :
      Text.trimStart ('-' :: (Nat.toDigits 10 year ++ rest)) =
        '-' :: (Nat.toDigits 10 year ++ rest) :=
    Text.trimStart_of_head fun head isHead =>
      Option.some.inj isHead ▸ rfl
  simp only [looseYear?, noBlank, read, Option.map_some]

/-- No dash follows the first four digits of a longer year. -/
theorem looseDate?_of_long_year
    {digits : List Char}
    (areDigits : ∀ char ∈ digits, char.isDigit = true)
    (long : 4 < digits.length) :
    looseDate? (digits ++ rest) = none := by
  obtain ⟨first, second, third, fourth, fifth, later, rfl⟩ :
      ∃ first second third fourth fifth later,
        digits = first :: second :: third :: fourth :: fifth :: later := by
    match digits, long with
    | first :: second :: third :: fourth :: fifth :: later, _ =>
        exact ⟨first, second, third, fourth, fifth, later, rfl⟩
  have noDash : fifth ≠ '-' := by
    rintro rfl
    simp [Char.isDigit] at areDigits
  simp only [List.mem_cons, forall_eq_or_imp] at areDigits
  obtain ⟨isFirst, isSecond, isThird, isFourth, -⟩ := areDigits
  simp [looseDate?, looseYear?_of_digit isFirst, digits?, isFirst, isSecond,
    isThird, isFourth, literal?, noDash]

/-- A number of two digits is read as it is. -/
theorem looseNumber?_of_two
    {digits : List Char}
    (areDigits : ∀ char ∈ digits, char.isDigit = true)
    (two : digits.length = 2)
    (rest : List Char)
    (stops : ∀ char ∈ rest.head?, char.isDigit = false) :
    looseNumber? (digits ++ rest) =
      some (Text.naturalOfDigits digits, rest) := by
  have noBlank : Text.trimStart (digits ++ rest) = digits ++ rest := by
    refine Text.trimStart_of_head fun char isHead =>
      Text.isBlank_of_isDigit (areDigits char ?_)
    match digits, two with
    | [first, second], _ =>
        exact Option.some.inj isHead ▸ List.mem_cons_self
  rw [looseNumber?, noBlank,
    digits?_append areDigits (by omega) (by omega) stops]

/-- A date is read from its year and two digits each for month and day. -/
theorem looseDate?_of_parts
    {year : Int}
    {yearChars month day : List Char}
    (isYear :
      ∀ rest, looseYear? (yearChars ++ '-' :: rest) =
        some (year, '-' :: rest))
    (isMonth : ∀ char ∈ month, char.isDigit = true)
    (twoOfMonth : month.length = 2)
    (isDay : ∀ char ∈ day, char.isDigit = true)
    (twoOfDay : day.length = 2) :
    looseDate? (yearChars ++ '-' :: (month ++ '-' :: day)) =
      some
        (⟨year, Text.naturalOfDigits month, Text.naturalOfDigits day⟩,
          []) := by
  have readMonth :=
    looseNumber?_of_two isMonth twoOfMonth ('-' :: day)
      fun char isHead => Option.some.inj isHead ▸ rfl
  have readDay :=
    looseNumber?_of_two isDay twoOfDay []
      fun char isHead => absurd isHead (Option.not_mem_none char)
  rw [List.append_nil] at readDay
  simp [looseDate?, isYear, literal?, readMonth, readDay]

end DateTime

end Mockup
