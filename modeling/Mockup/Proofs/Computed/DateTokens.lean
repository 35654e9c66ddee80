import Mockup.Proofs.Computed.Dates

namespace Mockup

namespace Computed

/-!
# The tokens of a date

The tokens of a pattern do not interfere: no two have a letter in common, and
the numbers put in for them have no letters at all.  So a pattern becomes what
it becomes when all its tokens are replaced together, in any order.
-/

theorem map_fst_dateTokens
    (moment : DateTime) :
    (dateTokens moment).map Prod.fst =
      ["YYYY", "MM", "DD", "HH", "mm", "ss"] :=
  rfl

theorem toList_ne_nil_of_mem_dateTokens
    {moment : DateTime}
    {token : String × List Char}
    (isToken : token ∈ dateTokens moment) :
    token.1.toList ≠ [] := by
  have nonempty :
      ∀ name ∈ (dateTokens moment).map Prod.fst, name.toList ≠ [] := by
    rw [map_fst_dateTokens]
    decide
  exact nonempty token.1 (List.mem_map_of_mem isToken)

/-- The letters of a token are no characters of numbers. -/
theorem isLetter_of_mem_dateTokens
    {moment : DateTime}
    {token : String × List Char}
    (isToken : token ∈ dateTokens moment)
    {char : Char}
    (member : char ∈ token.1.toList) :
    (char.isDigit || char == '-') = false := by
  have areLetters :
      ∀ name ∈ (dateTokens moment).map Prod.fst,
        (name.toList.all fun char => !(char.isDigit || char == '-')) = true := by
    rw [map_fst_dateTokens]
    decide
  have isLetter :=
    List.all_eq_true.mp
      (areLetters token.1 (List.mem_map_of_mem isToken)) char member
  simpa using isLetter

theorem twoDigits_ne_nil
    (number : Nat) :
    twoDigits number ≠ [] := by
  rw [← List.length_pos_iff, twoDigits, padDigits, List.length_append,
    List.length_replicate]
  omega

theorem yearChars_ne_nil
    (year : Int) :
    (toString year).toList ≠ [] := by
  rcases yearChars_cases year with ⟨number, _, digits⟩ | ⟨number, _, digits⟩
  · rw [digits]
    exact Nat.toDigits_ne_nil
  · rw [digits]
    exact List.cons_ne_nil _ _

/-- A number is put in for a token, at least a digit long. -/
theorem isNumeric_of_mem_dateTokens
    {moment : DateTime}
    {token : String × List Char}
    (isToken : token ∈ dateTokens moment) :
    token.2 ≠ [] ∧ IsNumeric token.2 := by
  have isNumber (number : Nat) :
      twoDigits number ≠ [] ∧ IsNumeric (twoDigits number) :=
    ⟨twoDigits_ne_nil number, isNumeric_twoDigits number⟩
  rw [dateTokens] at isToken
  simp only [List.mem_cons, List.not_mem_nil, or_false] at isToken
  rcases isToken with rfl | rfl | rfl | rfl | rfl | rfl
  · exact ⟨yearChars_ne_nil _, isNumeric_year _⟩
  all_goals exact isNumber _

theorem areApart_dateTokens
    (moment : DateTime) :
    Text.AreApart (dateTokens moment) where
  nonempty _ isToken :=
    toList_ne_nil_of_mem_dateTokens isToken
  replaced _ isToken :=
    (isNumeric_of_mem_dateTokens isToken).1
  disjoint := by
    have noneShared :
        ((dateTokens moment).map Prod.fst).Pairwise fun name other =>
          (name.toList.all fun char => !other.toList.contains char) = true := by
      rw [map_fst_dateTokens]
      decide
    refine (List.pairwise_map.mp noneShared).imp fun apart => ?_
    rw [List.disjoint_left]
    intro char inOne inOther
    simpa [inOther] using List.all_eq_true.mp apart char inOne
  fresh token isToken other isOther := by
    rw [List.disjoint_right]
    exact fun char member =>
      (isNumeric_of_mem_dateTokens isToken).2.not_mem
        (isLetter_of_mem_dateTokens isOther member)

/--
A pattern is written with all its tokens replaced together, each where it
stands first in the pattern.  No character put in belongs to a token, and the
tokens may be replaced one after another in any order.
-/
theorem formatDate_replaces_together
    (moment : DateTime)
    (pattern : String) :
    dateText moment pattern =
        String.ofList
          (Text.replaceTogether (dateTokens moment) pattern.toList) ∧
      (∀ order : List (String × List Char),
        order.Perm (dateTokens moment) →
          order.foldl
              (fun text token =>
                Text.replaceFirst token.1.toList token.2 text)
              pattern.toList =
            Text.replaceTogether (dateTokens moment) pattern.toList) ∧
        (∀ shown ∈ dateTokens moment,
          ∀ token ∈ dateTokens moment,
            shown.2.Disjoint token.1.toList) ∧
          ∀ arguments,
            moment? ((argument? arguments 0).getD .null) = some moment →
              textArgument arguments 1 defaultPattern = pattern →
                formatDate arguments =
                  .ok (.string (dateText moment pattern)) := by
  have apart := areApart_dateTokens moment
  refine ⟨?_, ?_, apart.fresh, ?_⟩
  · rw [dateText, apart.foldl_replaceFirst]
  · exact fun _ reordered =>
      apart.foldl_replaceFirst_of_perm reordered pattern.toList
  · intro arguments isMoment isPattern
    simp only [formatDate, isMoment, isPattern]

/-- Runs of letters longer than a token, and the tokens taken from the last. -/
theorem formatDate_replaces_together_runs :
    let moment : DateTime := ⟨⟨-45, 3, 5⟩, 8, 9, 10⟩
    let order := (dateTokens moment).reverse
    let pattern := "YYYYYMMMmmm"
    let arguments : List Value := [.string "-45-3-5 8:9:10", .string pattern]
    order.Perm (dateTokens moment) ∧
      order.foldl
          (fun text token => Text.replaceFirst token.1.toList token.2 text)
          pattern.toList =
        "-45Y03M09m".toList ∧
        moment? ((argument? arguments 0).getD .null) = some moment ∧
          textArgument arguments 1 defaultPattern = pattern ∧
            formatDate arguments = .ok (.string "-45Y03M09m") := by
  intro moment order pattern arguments
  have reversed : order.Perm (dateTokens moment) :=
    List.reverse_perm (dateTokens moment)
  have isMoment :
      moment? ((argument? arguments 0).getD .null) = some moment := by
    decide
  have isPattern : textArgument arguments 1 defaultPattern = pattern :=
    rfl
  have isText :
      Text.replaceTogether (dateTokens moment) pattern.toList =
        "-45Y03M09m".toList := by
    decide
  obtain ⟨together, anyOrder, -, shown⟩ :=
    formatDate_replaces_together moment pattern
  rw [isText, String.ofList_toList] at together
  refine ⟨reversed, (anyOrder order reversed).trans isText, isMoment,
    isPattern, ?_⟩
  rw [shown arguments isMoment isPattern, together]

end Computed

end Mockup
