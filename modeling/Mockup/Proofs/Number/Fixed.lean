import Mockup.Number.Notation
import Mockup.Proofs.Text.Ordinal

namespace Mockup

/-!
# Fixed text

The fixed text of a finite number is digits, at least one, behind which there
may be a point with more digits.
-/

theorem isDigit_of_mem_padDigits
    {width : Nat}
    {digits : List Char}
    (areDigits : ∀ char ∈ digits, char.isDigit = true)
    {char : Char}
    (member : char ∈ padDigits width digits) :
    char.isDigit = true := by
  rw [padDigits, List.mem_append, List.mem_replicate] at member
  rcases member with ⟨_, rfl⟩ | member
  · rfl
  · exact areDigits char member

/-- The two parts of a fixed text: the point stands at the head of the second. -/
structure IsFixed
    (whole fraction : List Char) :
    Prop where
  nonempty : whole ≠ []
  wholeDigits : ∀ char ∈ whole, char.isDigit = true
  pointFirst : ∀ char ∈ fraction.head?, char = '.'
  fractionDigits : ∀ char ∈ fraction.tail, char.isDigit = true

/-- A point is put behind at least one digit. -/
theorem isFixed_of_pointed
    (places number : Nat) :
    ∃ whole fraction,
      pointed places number = whole ++ fraction ∧ IsFixed whole fraction := by
  let digits := padDigits (places + 1) (Nat.toDigits 10 number)
  let whole := digits.take (digits.length - places)
  let fraction := digits.drop (digits.length - places)
  have areDigits : ∀ char ∈ digits, char.isDigit = true := fun _ =>
    isDigit_of_mem_padDigits fun _ => Text.isDigit_of_mem_toDigits
  have wholeDigits : ∀ char ∈ whole, char.isDigit = true :=
    fun char member => areDigits char (List.mem_of_mem_take member)
  have fractionDigits : ∀ char ∈ fraction, char.isDigit = true :=
    fun char member => areDigits char (List.mem_of_mem_drop member)
  have long : places < digits.length := by
    simp only [digits, padDigits, List.length_append, List.length_replicate]
    omega
  have nonempty : whole ≠ [] := by
    rw [← List.length_pos_iff, List.length_take]
    omega
  by_cases noPlaces : places = 0
  · exact ⟨whole, [], by simp [pointed, noPlaces, whole, digits],
      nonempty, wholeDigits, by simp, by simp⟩
  · exact ⟨whole, '.' :: fraction,
      by simp [pointed, noPlaces, whole, fraction, digits],
      nonempty, wholeDigits, by simp, fractionDigits⟩

namespace Double

theorem exists_units?
    {number : Double}
    (finite : number.isFinite = true) :
    ∃ units, number.units? = some units := by
  cases number with
  | nan =>
      cases finite
  | ranked negative rank =>
      exact ⟨unitsOfRank rank, if_neg (by simpa [isFinite] using finite)⟩

theorem isFixed_of_fixedMagnitude
    {number : Double}
    (finite : number.isFinite = true)
    (places : Nat) :
    ∃ whole fraction,
      number.fixedMagnitude places = whole ++ fraction ∧
        IsFixed whole fraction := by
  obtain ⟨units, hasUnits⟩ := exists_units? finite
  rw [fixedMagnitude, hasUnits]
  exact isFixed_of_pointed places _

end Double

end Mockup
