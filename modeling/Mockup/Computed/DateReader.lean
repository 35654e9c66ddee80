import Mockup.Computed.Calendar
import Mockup.Text.Blank
import Mockup.Text.Ordinal

namespace Mockup

namespace DateTime

/-!
# Reading dates

Four forms of text name a moment: an internet timestamp with its offset, of
which the local time counts, and three loose forms whose numbers may have
fewer digits and blanks in front.  The forms are tried in a fixed order.
-/

/-- Read between `least` and `most` digits, as many as there are. -/
def digits?
    (least most : Nat)
    (chars : List Char) :
    Option (Nat × List Char) :=
  let digits := (chars.take most).takeWhile Char.isDigit
  if digits.length < least then
    none
  else
    some (Text.naturalOfDigits digits, chars.drop digits.length)

/-- Read one given character. -/
def literal?
    (wanted : Char) :
    List Char → Option (List Char)
  | [] =>
      none
  | char :: rest =>
      if char = wanted then some rest else none

/-- Read the `T` or the blank of a timestamp. -/
def timestampMark? : List Char → Option (List Char)
  | [] =>
      none
  | char :: rest =>
      if char = 'T' || char = 't' || char = ' ' then
        some rest
      else
        none

/-- Read a fraction of a second, if there is one. -/
def fraction? : List Char → Option (List Char)
  | '.' :: rest =>
      match digits? 1 9 rest with
      | some (_, afterDigits) =>
          some (afterDigits.dropWhile Char.isDigit)
      | none =>
          none
  | chars =>
      some chars

/-- Whether a character is the sign of an offset. -/
def isOffsetSign
    (char : Char) :
    Bool :=
  char = '+' || char = '-' || char = '−'

/-- Whether the rest of a timestamp is an offset of less than a day. -/
def isOffset : List Char → Bool
  | ['Z'] =>
      true
  | ['z'] =>
      true
  | [] =>
      false
  | sign :: rest =>
      isOffsetSign sign &&
        match digits? 2 2 rest with
        | none =>
            false
        | some (hour, afterHour) =>
            match (literal? ':' afterHour).bind (digits? 2 2) with
            | some (minute, []) =>
                hour < 24 && minute < 60
            | _ =>
                false

/-- Read hours, minutes and seconds, numbers by a given reader. -/
def clock?
    (number? : List Char → Option (Nat × List Char))
    (chars : List Char) :
    Option ((Nat × Nat × Nat) × List Char) := do
  let (hour, afterHour) ← number? chars
  let (minute, afterMinute) ← (literal? ':' afterHour).bind number?
  let (second, afterSecond) ← (literal? ':' afterMinute).bind number?
  some ((hour, minute, second), afterSecond)

/-- Read `2024-03-05T08:09:10.5+01:00`. -/
def ofTimestamp?
    (chars : List Char) :
    Option DateTime := do
  let (year, afterYear) ← digits? 4 4 chars
  let (month, afterMonth) ← (literal? '-' afterYear).bind (digits? 2 2)
  let (day, afterDay) ← (literal? '-' afterMonth).bind (digits? 2 2)
  let timeChars ← timestampMark? afterDay
  let ((hour, minute, second), afterSecond) ←
    clock? (digits? 2 2) timeChars
  let offset ← fraction? afterSecond
  if isOffset offset then
    ofParts? ⟨year, month, day⟩ hour minute second
  else
    none

/-- Read a number of one or two digits behind blanks. -/
def looseNumber?
    (chars : List Char) :
    Option (Nat × List Char) :=
  digits? 1 2 (Text.trimStart chars)

/-- Read a year behind blanks: up to four digits, or any number with a sign. -/
def looseYear?
    (chars : List Char) :
    Option (Int × List Char) :=
  match Text.trimStart chars with
  | '-' :: rest =>
      (digits? 1 rest.length rest).map fun read => (-read.1, read.2)
  | '+' :: rest =>
      (digits? 1 rest.length rest).map fun read => ((read.1 : Int), read.2)
  | rest =>
      (digits? 1 4 rest).map fun read => ((read.1 : Int), read.2)

/-- Read a year, a month and a day. -/
def looseDate?
    (chars : List Char) :
    Option (Date × List Char) := do
  let (year, afterYear) ← looseYear? chars
  let (month, afterMonth) ← (literal? '-' afterYear).bind looseNumber?
  let (day, afterDay) ← (literal? '-' afterMonth).bind looseNumber?
  some (⟨year, month, day⟩, afterDay)

/-- Read a date and a time with something between them. -/
def ofLoose?
    (between? : List Char → Option (List Char))
    (chars : List Char) :
    Option DateTime := do
  let (date, afterDate) ← looseDate? chars
  let timeChars ← between? afterDate
  match clock? looseNumber? timeChars with
  | some ((hour, minute, second), []) =>
      ofParts? date hour minute second
  | _ =>
      none

/-- Read a date alone. -/
def ofLooseDate?
    (chars : List Char) :
    Option DateTime :=
  match looseDate? chars with
  | some (date, []) =>
      if date.isValid then some (ofDate date) else none
  | _ =>
      none

/-- Read a moment in the first form that fits; blanks at the ends are free. -/
def ofText?
    (text : String) :
    Option DateTime :=
  let chars := Text.trim text.toList
  ofTimestamp? chars
    <|> ofLoose? (fun rest => some (Text.trimStart rest)) chars
    <|> ofLoose? (literal? 'T') chars
    <|> ofLooseDate? chars

end DateTime

end Mockup
