import Mockup.Text.Ordinal

namespace Mockup.Text

/-!
# Written numbers

A natural number is written in decimal digits, which are read as that number
again: as the digits of a number, and as the position of an item.
-/

/-- The digits of a number write that number. -/
theorem naturalOfDigits_toDigits
    (number : Nat) :
    naturalOfDigits (Nat.toDigits 10 number) = number := by
  have written :
      Nat.ofDigitChars 10 (Nat.toDigits 10 number) 0 = number :=
    Nat.ofDigitChars_toDigits (by decide) (by decide)
  rw [Nat.ofDigitChars_eq_foldl] at written
  simpa only [naturalOfDigits, Nat.mul_comm] using written

theorem isDigit_of_mem_toDigits
    {number : Nat}
    {char : Char}
    (member : char ∈ Nat.toDigits 10 number) :
    char.isDigit = true :=
  Nat.isDigit_of_mem_toDigits (by decide) (by decide) member

/-- A number that begins with a digit has no plus sign to drop. -/
theorem withoutPlus_toDigits
    (number : Nat) :
    withoutPlus (Nat.toDigits 10 number) = Nat.toDigits 10 number := by
  cases digits : Nat.toDigits 10 number with
  | nil =>
      rfl
  | cons first rest =>
      have member : first ∈ Nat.toDigits 10 number := by
        simp [digits]
      have firstDigit := isDigit_of_mem_toDigits member
      have noPlus : first ≠ '+' := by
        rintro rfl
        simp [Char.isDigit] at firstDigit
      simp [withoutPlus, noPlus]

/-- A written position names itself, as long as it is a machine word. -/
theorem ordinal?_toString
    {index : Nat}
    (isWord : index < Nat.pow 2 64) :
    ordinal? (toString index) = some index := by
  have allDigits :
      (Nat.toDigits 10 index).all Char.isDigit = true :=
    List.all_eq_true.mpr fun _ => isDigit_of_mem_toDigits
  have nonempty : (Nat.toDigits 10 index).isEmpty = false := by
    simp
  simp only [ordinal?, Nat.toString_eq_repr, Nat.toList_repr,
    withoutPlus_toDigits, allDigits, nonempty,
    naturalOfDigits_toDigits, Bool.not_true, Bool.or_self,
    Bool.false_eq_true, if_false, if_pos isWord]

end Mockup.Text
