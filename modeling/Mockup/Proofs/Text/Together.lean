import Mathlib.Data.List.Basic
import Mathlib.Data.List.Pairwise
import Mockup.Text.Pieces

namespace Mockup.Text

/-!
# Replacing tokens together

Tokens can be replaced in a text one after another, each at its leftmost
occurrence in what the earlier ones have left, or all together, each at its
leftmost occurrence in the text as it came.  Where no character of a token is
in another token, or in a text put in for one, the two are the same, whatever
order the tokens are taken in.
-/

/-! ## Leftmost occurrences -/

/-- Where a pattern stands in a text for the first time. -/
def leftmost?
    (pattern : List Char) :
    List Char → Option Nat
  | [] =>
      if pattern = [] then some 0 else none
  | char :: text =>
      if pattern <+: char :: text then
        some 0
      else
        (leftmost? pattern text).map (· + 1)

/-- The pattern stands at the leftmost place, and at none before it. -/
theorem leftmost?_eq_some_iff
    {pattern text : List Char}
    {start : Nat} :
    leftmost? pattern text = some start ↔
      pattern <+: text.drop start ∧
        ∀ earlier < start, ¬pattern <+: text.drop earlier := by
  induction text generalizing start with
  | nil =>
      by_cases isEmpty : pattern = []
      · cases start with
        | zero =>
            simp [leftmost?, isEmpty]
        | succ start =>
            refine iff_of_false (by simp [leftmost?, isEmpty]) fun isThere => ?_
            exact isThere.2 0 (Nat.succ_pos start) (by simp [isEmpty])
      · simp [leftmost?, isEmpty]
  | cons char text inductionHypothesis =>
      by_cases isHere : pattern <+: char :: text
      · cases start with
        | zero =>
            simp [leftmost?, isHere]
        | succ start =>
            refine iff_of_false (by simp [leftmost?, isHere]) fun isThere => ?_
            exact isThere.2 0 (Nat.succ_pos start) isHere
      · cases start with
        | zero =>
            simp [leftmost?, isHere]
        | succ start =>
            simp only [leftmost?, isHere, if_false, Option.map_eq_some_iff,
              Nat.succ.injEq, exists_eq_right, inductionHypothesis,
              List.drop_succ_cons]
            refine and_congr_right fun _ => ⟨fun before earlier lt => ?_,
              fun before earlier lt => before (earlier + 1) (by omega)⟩
            cases earlier with
            | zero =>
                exact isHere
            | succ earlier =>
                exact before earlier (by omega)

/-- An occurrence ends inside the text. -/
theorem add_length_le_of_leftmost?
    {pattern text : List Char}
    {start : Nat}
    (nonempty : pattern ≠ [])
    (isThere : leftmost? pattern text = some start) :
    start + pattern.length ≤ text.length := by
  have fits := (leftmost?_eq_some_iff.mp isThere).1.length_le
  have positive : 0 < pattern.length :=
    List.length_pos_iff.mpr nonempty
  rw [List.length_drop] at fits
  omega

theorem stripPattern?_eq_some_iff
    {pattern text rest : List Char} :
    stripPattern? pattern text = some rest ↔ text = pattern ++ rest := by
  induction pattern generalizing text with
  | nil =>
      simp [stripPattern?]
  | cons wanted pattern inductionHypothesis =>
      cases text with
      | nil =>
          simp [stripPattern?]
      | cons char text =>
          by_cases same : wanted = char
          · simp [stripPattern?, same, inductionHypothesis]
          · simp [stripPattern?, same, Ne.symm same]

theorem stripPattern?_eq_none_iff
    {pattern text : List Char} :
    stripPattern? pattern text = none ↔ ¬pattern <+: text := by
  rw [Option.eq_none_iff_forall_ne_some]
  constructor
  · rintro absent ⟨rest, shape⟩
    exact absent rest (stripPattern?_eq_some_iff.mpr shape.symm)
  · intro absent rest isRest
    exact absent ⟨rest, (stripPattern?_eq_some_iff.mp isRest).symm⟩

/-- A pattern that is nowhere changes nothing; else it gives way where it is. -/
theorem replaceFirst_cases
    {pattern : List Char}
    (nonempty : pattern ≠ [])
    (replacement text : List Char) :
    (leftmost? pattern text = none ∧
        replaceFirst pattern replacement text = text) ∨
      ∃ earlier later,
        text = earlier ++ (pattern ++ later) ∧
          leftmost? pattern text = some earlier.length ∧
            replaceFirst pattern replacement text =
              earlier ++ (replacement ++ later) := by
  induction text with
  | nil =>
      have absent : stripPattern? pattern [] = none := by
        simpa [stripPattern?_eq_none_iff] using nonempty
      exact Or.inl ⟨if_neg nonempty, by rw [replaceFirst, absent]⟩
  | cons char text inductionHypothesis =>
      cases found : stripPattern? pattern (char :: text) with
      | some rest =>
          have shape := stripPattern?_eq_some_iff.mp found
          have isHere : pattern <+: char :: text :=
            ⟨rest, shape.symm⟩
          exact Or.inr ⟨[], rest, shape, if_pos isHere,
            by rw [replaceFirst, found, List.nil_append]⟩
      | none =>
          have notHere := stripPattern?_eq_none_iff.mp found
          rw [leftmost?, if_neg notHere, replaceFirst, found]
          rcases inductionHypothesis with
            ⟨absent, unchanged⟩ | ⟨earlier, later, shape, isThere, replaced⟩
          · exact Or.inl ⟨by rw [absent]; rfl, by rw [unchanged]⟩
          · refine Or.inr ⟨char :: earlier, later, ?_, ?_, ?_⟩
            · rw [List.cons_append, shape]
            · rw [isThere]
              rfl
            · rw [List.cons_append, replaced]

/-! ## Occurrences around a barrier -/

section Barrier

/-!
No occurrence of a pattern reaches into characters that the pattern does not
have, so it lies on one side of them.
-/

/-- Characters between two texts that no occurrence of a pattern can bridge. -/
structure IsBarrier
    (middle pattern : List Char) :
    Prop where
  pattern_ne_nil : pattern ≠ []
  ne_nil : middle ≠ []
  disjoint : middle.Disjoint pattern

variable {pattern middle : List Char}

theorem prefix_append_cons_iff
    {char : Char}
    (absent : char ∉ pattern)
    (earlier later : List Char) :
    pattern <+: earlier ++ char :: later ↔ pattern <+: earlier := by
  constructor
  · intro isPrefix
    have longer : earlier ++ [char] <+: earlier ++ char :: later :=
      ⟨later, by simp⟩
    by_cases short : pattern.length ≤ earlier.length
    · exact List.prefix_of_prefix_length_le isPrefix ⟨_, rfl⟩ short
    · have reaches : earlier ++ [char] <+: pattern := by
        refine List.prefix_of_prefix_length_le longer isPrefix ?_
        simp only [List.length_append, List.length_singleton]
        omega
      exact absurd (reaches.subset (by simp)) absent
  · intro isPrefix
    exact isPrefix.trans ⟨_, rfl⟩

theorem leftmost?_append_of_disjoint
    (nonempty : pattern ≠ [])
    (disjoint : middle.Disjoint pattern)
    (later : List Char) :
    leftmost? pattern (middle ++ later) =
      (leftmost? pattern later).map (· + middle.length) := by
  induction middle with
  | nil =>
      simp
  | cons char middle inductionHypothesis =>
      rw [List.disjoint_cons_left] at disjoint
      have notHere : ¬pattern <+: char :: (middle ++ later) := by
        intro isPrefix
        have isEmpty :=
          (prefix_append_cons_iff disjoint.1 [] (middle ++ later)).mp isPrefix
        exact nonempty (List.prefix_nil.mp isEmpty)
      rw [List.cons_append, leftmost?, if_neg notHere,
        inductionHypothesis disjoint.2, Option.map_map]
      rfl

/-- The leftmost occurrence lies before the barrier, or else behind it. -/
theorem leftmost?_around
    (barrier : IsBarrier middle pattern)
    (earlier later : List Char) :
    leftmost? pattern (earlier ++ (middle ++ later)) =
      (leftmost? pattern earlier).or
        ((leftmost? pattern later).map
          (· + (earlier.length + middle.length))) := by
  induction earlier with
  | nil =>
      simpa [leftmost?, barrier.pattern_ne_nil] using
        leftmost?_append_of_disjoint barrier.pattern_ne_nil barrier.disjoint
          later
  | cons char earlier inductionHypothesis =>
      obtain ⟨first, more, rfl⟩ := List.exists_cons_of_ne_nil barrier.ne_nil
      have absent : first ∉ pattern :=
        (List.disjoint_cons_left.mp barrier.disjoint).1
      have sameHere :
          pattern <+: char :: (earlier ++ (first :: more ++ later)) ↔
            pattern <+: char :: earlier :=
        prefix_append_cons_iff absent (char :: earlier) (more ++ later)
      rw [List.cons_append, leftmost?, leftmost?, inductionHypothesis]
      by_cases isHere : pattern <+: char :: earlier
      · rw [if_pos (sameHere.mpr isHere), if_pos isHere, Option.some_or]
      · rw [if_neg (mt sameHere.mp isHere), if_neg isHere, Option.map_or,
          Option.map_map]
        congr 2
        funext start
        simp only [Function.comp_apply, List.length_cons]
        omega

end Barrier

/-! ## Replacing together -/

/--
What a token puts in a place of a text: its replacement where its leftmost
occurrence begins, nothing in the rest of that occurrence, and no share of the
text elsewhere.
-/
def share?
    (text : List Char)
    (place : Nat)
    (token : String × List Char) :
    Option (List Char) :=
  match leftmost? token.1.toList text with
  | none =>
      none
  | some start =>
      if place = start then
        some token.2
      else if start < place ∧ place < start + token.1.toList.length then
        some []
      else
        none

/-- What stands for the character in a place of a text. -/
def standIn
    (tokens : List (String × List Char))
    (text : List Char)
    (place : Nat) :
    List Char :=
  (tokens.findSome? (share? text place)).getD text[place]?.toList

/-- A text with all tokens replaced, each at its leftmost occurrence in it. -/
def replaceTogether
    (tokens : List (String × List Char))
    (text : List Char) :
    List Char :=
  (List.range text.length).flatMap (standIn tokens text)

/-! ## Shares around a barrier -/

section Shares

variable {token : String × List Char} {text middle : List Char} {place : Nat}

theorem share?_of_absent
    (absent : leftmost? token.1.toList text = none)
    (place : Nat) :
    share? text place token = none := by
  rw [share?, absent]

theorem share?_of_outside
    {start : Nat}
    (nonempty : token.1.toList ≠ [])
    (isThere : leftmost? token.1.toList text = some start)
    (outside : place < start ∨ start + token.1.toList.length ≤ place) :
    share? text place token = none := by
  have positive := List.length_pos_iff.mpr nonempty
  simp only [share?, isThere]
  rw [if_neg (by omega), if_neg (by omega)]

theorem share?_before
    (barrier : IsBarrier middle token.1.toList)
    {earlier : List Char}
    (later : List Char)
    (before : place < earlier.length) :
    share? (earlier ++ (middle ++ later)) place token =
      share? earlier place token := by
  have around := leftmost?_around barrier earlier later
  cases isEarlier : leftmost? token.1.toList earlier with
  | some start =>
      rw [isEarlier, Option.some_or] at around
      rw [share?, share?, around, isEarlier]
  | none =>
      rw [isEarlier, Option.none_or] at around
      rw [share?_of_absent isEarlier]
      cases isLater : leftmost? token.1.toList later with
      | none =>
          rw [isLater] at around
          exact share?_of_absent around place
      | some start =>
          rw [isLater, Option.map_some] at around
          exact share?_of_outside barrier.pattern_ne_nil around
            (Or.inl (by omega))

theorem share?_within
    (barrier : IsBarrier middle token.1.toList)
    (earlier later : List Char)
    (within : place < middle.length) :
    share? (earlier ++ (middle ++ later)) (earlier.length + place) token =
      none := by
  have nonempty := barrier.pattern_ne_nil
  have around := leftmost?_around barrier earlier later
  cases isEarlier : leftmost? token.1.toList earlier with
  | some start =>
      have inside := add_length_le_of_leftmost? nonempty isEarlier
      rw [isEarlier, Option.some_or] at around
      exact share?_of_outside nonempty around (Or.inr (by omega))
  | none =>
      rw [isEarlier, Option.none_or] at around
      cases isLater : leftmost? token.1.toList later with
      | none =>
          rw [isLater] at around
          exact share?_of_absent around _
      | some start =>
          rw [isLater, Option.map_some] at around
          exact share?_of_outside nonempty around (Or.inl (by omega))

/-- A token that stands before the barrier has no share behind it. -/
theorem share?_behind
    (barrier : IsBarrier middle token.1.toList)
    (earlier later : List Char)
    (place : Nat) :
    share? (earlier ++ (middle ++ later))
        (earlier.length + (middle.length + place)) token =
      if (leftmost? token.1.toList earlier).isNone then
        share? later place token
      else
        none := by
  have nonempty := barrier.pattern_ne_nil
  have around := leftmost?_around barrier earlier later
  cases isEarlier : leftmost? token.1.toList earlier with
  | some start =>
      have inside := add_length_le_of_leftmost? nonempty isEarlier
      rw [isEarlier, Option.some_or] at around
      exact share?_of_outside nonempty around (Or.inr (by omega))
  | none =>
      rw [isEarlier, Option.none_or] at around
      simp only [share?, around, Option.isNone_none, if_true]
      cases leftmost? token.1.toList later with
      | none =>
          rfl
      | some start =>
          -- Both places are as far from the start of the occurrence.
          have sameStart :
              earlier.length + (middle.length + place) =
                  start + (earlier.length + middle.length) ↔
                place = start := by
            omega
          have sameRest :
              (start + (earlier.length + middle.length) <
                    earlier.length + (middle.length + place) ∧
                  earlier.length + (middle.length + place) <
                    start + (earlier.length + middle.length) +
                      token.1.toList.length) ↔
                start < place ∧ place < start + token.1.toList.length := by
            omega
          simp only [Option.map_some, sameStart, sameRest]

end Shares

/-! ## Texts around a barrier -/

theorem standIn_congr
    {tokens : List (String × List Char)}
    {text other : List Char}
    {place otherPlace : Nat}
    (sameShares :
      ∀ token ∈ tokens,
        share? text place token = share? other otherPlace token)
    (sameChar : text[place]? = other[otherPlace]?) :
    standIn tokens text place = standIn tokens other otherPlace := by
  rw [standIn, standIn, ← List.head?_filterMap, ← List.head?_filterMap,
    List.filterMap_congr sameShares, sameChar]

theorem standIn_cons_of_share
    {token : String × List Char}
    {text shown : List Char}
    {place : Nat}
    (share : share? text place token = some shown)
    (tokens : List (String × List Char)) :
    standIn (token :: tokens) text place = shown := by
  rw [standIn, List.findSome?_cons, share]
  rfl

/-- Without a share of its own a token leaves a place to the others. -/
theorem standIn_cons
    {token : String × List Char}
    {text : List Char}
    {place : Nat}
    (noShare : share? text place token = none)
    (tokens : List (String × List Char)) :
    standIn (token :: tokens) text place = standIn tokens text place := by
  rw [standIn, List.findSome?_cons, noShare]
  rfl

/-- Whether no occurrence of a token can bridge some characters. -/
def Bars
    (middle : List Char)
    (tokens : List (String × List Char)) :
    Prop :=
  ∀ token ∈ tokens, IsBarrier middle token.1.toList

/-- The tokens that do not stand in a text. -/
def missingFrom
    (text : List Char)
    (tokens : List (String × List Char)) :
    List (String × List Char) :=
  tokens.filter fun token => (leftmost? token.1.toList text).isNone

section Texts

variable
  {tokens : List (String × List Char)}
  {earlier middle later : List Char}

theorem standIn_before
    (bars : Bars middle tokens)
    {place : Nat}
    (before : place < earlier.length) :
    standIn tokens (earlier ++ (middle ++ later)) place =
      standIn tokens earlier place :=
  standIn_congr
    (fun token member =>
      share?_before (bars token member) later before)
    (List.getElem?_append_left before)

theorem standIn_within
    (bars : Bars middle tokens)
    {place : Nat}
    (within : place < middle.length) :
    standIn tokens (earlier ++ (middle ++ later)) (earlier.length + place) =
      middle[place]?.toList := by
  have noShare :
      tokens.findSome?
          (share? (earlier ++ (middle ++ later)) (earlier.length + place)) =
        none :=
    List.findSome?_eq_none_iff.mpr fun token member =>
      share?_within (bars token member) earlier later within
  rw [standIn, noShare, Option.getD_none,
    List.getElem?_append_right (Nat.le_add_right _ _),
    Nat.add_sub_cancel_left, List.getElem?_append_left within]

theorem standIn_behind
    (bars : Bars middle tokens)
    (place : Nat) :
    standIn tokens (earlier ++ (middle ++ later))
        (earlier.length + (middle.length + place)) =
      standIn (missingFrom earlier tokens) later place := by
  have shares :
      ∀ token ∈ tokens,
        share? (earlier ++ (middle ++ later))
            (earlier.length + (middle.length + place)) token =
          if (leftmost? token.1.toList earlier).isNone then
            share? later place token
          else
            none :=
    fun token member =>
      share?_behind (bars token member) earlier later place
  rw [standIn, standIn, missingFrom, ← List.head?_filterMap,
    ← List.head?_filterMap, List.filterMap_filter,
    List.filterMap_congr shares,
    List.getElem?_append_right (Nat.le_add_right _ _),
    Nat.add_sub_cancel_left,
    List.getElem?_append_right (Nat.le_add_right _ _),
    Nat.add_sub_cancel_left]

theorem flatMap_range_getElem?
    (chars : List Char) :
    ((List.range chars.length).flatMap fun place => chars[place]?.toList) =
      chars := by
  induction chars with
  | nil =>
      rfl
  | cons char rest inductionHypothesis =>
      rw [List.length_cons, List.range_succ_eq_map, List.flatMap_cons,
        List.flatMap_map]
      simpa using inductionHypothesis

/-- What is put in before, in and behind the middle of a text. -/
theorem replaceTogether_parts
    {before behind : List (String × List Char)}
    {shown : List Char}
    (isBefore :
      ∀ place < earlier.length,
        standIn tokens (earlier ++ (middle ++ later)) place =
          standIn before earlier place)
    (isWithin :
      ((List.range middle.length).flatMap fun place =>
          standIn tokens (earlier ++ (middle ++ later))
            (earlier.length + place)) =
        shown)
    (isBehind :
      ∀ place,
        standIn tokens (earlier ++ (middle ++ later))
            (earlier.length + (middle.length + place)) =
          standIn behind later place) :
    replaceTogether tokens (earlier ++ (middle ++ later)) =
      replaceTogether before earlier ++
        (shown ++ replaceTogether behind later) := by
  have sameBefore :
      (List.range earlier.length).flatMap
          (standIn tokens (earlier ++ (middle ++ later))) =
        replaceTogether before earlier :=
    List.flatMap_congr fun place member =>
      isBefore place (List.mem_range.mp member)
  rw [replaceTogether, List.length_append, List.length_append,
    List.range_add, List.flatMap_append, sameBefore, List.flatMap_map,
    List.range_add, List.flatMap_append, isWithin, List.flatMap_map]
  simp only [isBehind]
  rfl

/-- Characters that the tokens do not have are kept. -/
theorem replaceTogether_around
    (bars : Bars middle tokens) :
    replaceTogether tokens (earlier ++ (middle ++ later)) =
      replaceTogether tokens earlier ++
        (middle ++ replaceTogether (missingFrom earlier tokens) later) := by
  refine replaceTogether_parts
    (fun _ before => standIn_before bars before) ?_ (standIn_behind bars)
  calc
    _ = (List.range middle.length).flatMap
          (fun place => middle[place]?.toList) :=
      List.flatMap_congr fun _ member =>
        standIn_within bars (List.mem_range.mp member)
    _ = middle :=
      flatMap_range_getElem? middle

/-- A token gives way to its replacement at its leftmost occurrence. -/
theorem replaceTogether_cons_around
    {token : String × List Char}
    (nonempty : token.1.toList ≠ [])
    (bars : Bars token.1.toList tokens)
    (isLeftmost :
      leftmost? token.1.toList
          (earlier ++ (token.1.toList ++ later)) =
        some earlier.length) :
    replaceTogether (token :: tokens)
        (earlier ++ (token.1.toList ++ later)) =
      replaceTogether tokens earlier ++
        (token.2 ++
          replaceTogether (missingFrom earlier tokens) later) := by
  refine replaceTogether_parts (fun place before => ?_) ?_ (fun place => ?_)
  · have noShare :
        share? (earlier ++ (token.1.toList ++ later)) place token = none :=
      share?_of_outside nonempty isLeftmost (Or.inl before)
    rw [standIn_cons noShare, standIn_before bars before]
  · obtain ⟨count, isLength⟩ :=
      Nat.exists_eq_succ_of_ne_zero (mt List.length_eq_zero_iff.mp nonempty)
    rw [isLength, List.range_succ_eq_map, List.flatMap_cons, List.flatMap_map]
    have first :
        standIn (token :: tokens) (earlier ++ (token.1.toList ++ later))
            (earlier.length + 0) =
          token.2 := by
      refine standIn_cons_of_share ?_ tokens
      simp only [share?, isLeftmost, Nat.add_zero, if_true]
    have others :
        ((List.range count).flatMap fun place =>
            standIn (token :: tokens)
              (earlier ++ (token.1.toList ++ later))
              (earlier.length + place.succ)) =
          [] := by
      refine List.flatMap_eq_nil_iff.mpr fun place member => ?_
      have inside := List.mem_range.mp member
      refine standIn_cons_of_share ?_ tokens
      simp only [share?, isLeftmost]
      rw [if_neg (by omega), if_pos (by omega)]
    rw [first, others, List.append_nil]
  · have noShare :
        share? (earlier ++ (token.1.toList ++ later))
            (earlier.length + (token.1.toList.length + place)) token =
          none :=
      share?_of_outside nonempty isLeftmost (Or.inr (by omega))
    rw [standIn_cons noShare, standIn_behind bars]

end Texts

/-- In a place where a token has a share the text has one of its characters. -/
theorem exists_mem_of_share?
    {token : String × List Char}
    {text shown : List Char}
    {place : Nat}
    (nonempty : token.1.toList ≠ [])
    (share : share? text place token = some shown) :
    ∃ char ∈ token.1.toList, text[place]? = some char := by
  have positive := List.length_pos_iff.mpr nonempty
  cases isThere : leftmost? token.1.toList text with
  | none =>
      simp [share?, isThere] at share
  | some start =>
      obtain ⟨least, inside⟩ :
          start ≤ place ∧ place - start < token.1.toList.length := by
        simp only [share?, isThere] at share
        split_ifs at share with first more
        · omega
        · omega
      obtain ⟨rest, shape⟩ := (leftmost?_eq_some_iff.mp isThere).1
      refine ⟨token.1.toList[place - start], List.getElem_mem inside, ?_⟩
      calc text[place]?
        _ = (text.drop start)[place - start]? := by
          rw [List.getElem?_drop, Nat.add_sub_cancel' least]
        _ = token.1.toList[place - start]? := by
          rw [← shape, List.getElem?_append_left inside]
        _ = some token.1.toList[place - start] :=
          List.getElem?_eq_getElem inside

/-! ## One after another -/

/--
Tokens that do not interfere: none is empty or replaced by nothing, and no
character of one is in another or in a replacement.
-/
structure AreApart
    (tokens : List (String × List Char)) :
    Prop where
  nonempty : ∀ token ∈ tokens, token.1.toList ≠ []
  replaced : ∀ token ∈ tokens, token.2 ≠ []
  disjoint :
    tokens.Pairwise fun token other =>
      token.1.toList.Disjoint other.1.toList
  fresh :
    ∀ token ∈ tokens,
      ∀ other ∈ tokens, token.2.Disjoint other.1.toList

namespace AreApart

variable {token : String × List Char} {tokens : List (String × List Char)}

theorem tail
    (apart : AreApart (token :: tokens)) :
    AreApart tokens where
  nonempty other member :=
    apart.nonempty other (List.mem_cons_of_mem token member)
  replaced other member :=
    apart.replaced other (List.mem_cons_of_mem token member)
  disjoint :=
    (List.pairwise_cons.mp apart.disjoint).2
  fresh one isOne other isOther :=
    apart.fresh one (List.mem_cons_of_mem token isOne)
      other (List.mem_cons_of_mem token isOther)

theorem perm
    {order : List (String × List Char)}
    (apart : AreApart tokens)
    (reordered : order.Perm tokens) :
    AreApart order where
  nonempty other member :=
    apart.nonempty other (reordered.mem_iff.mp member)
  replaced other member :=
    apart.replaced other (reordered.mem_iff.mp member)
  disjoint :=
    apart.disjoint.perm reordered.symm List.disjoint_symm
  fresh one isOne other isOther :=
    apart.fresh one (reordered.mem_iff.mp isOne)
      other (reordered.mem_iff.mp isOther)

theorem bars_token
    (apart : AreApart (token :: tokens)) :
    Bars token.1.toList tokens :=
  fun other member =>
    ⟨apart.tail.nonempty other member,
      apart.nonempty token List.mem_cons_self,
      (List.pairwise_cons.mp apart.disjoint).1 other member⟩

theorem bars_replacement
    (apart : AreApart (token :: tokens)) :
    Bars token.2 tokens :=
  fun other member =>
    ⟨apart.tail.nonempty other member,
      apart.replaced token List.mem_cons_self,
      apart.fresh token List.mem_cons_self
        other (List.mem_cons_of_mem token member)⟩

/-- One token may be replaced before the others are replaced together. -/
theorem replaceTogether_cons
    (apart : AreApart (token :: tokens))
    (text : List Char) :
    replaceTogether (token :: tokens) text =
      replaceTogether tokens
        (replaceFirst token.1.toList token.2 text) := by
  have nonempty := apart.nonempty token List.mem_cons_self
  rcases replaceFirst_cases nonempty token.2 text with
    ⟨absent, unchanged⟩ | ⟨earlier, later, rfl, isLeftmost, isReplaced⟩
  · rw [unchanged, replaceTogether, replaceTogether]
    exact List.flatMap_congr fun place _ =>
      standIn_cons (share?_of_absent absent place) tokens
  · rw [isReplaced,
      replaceTogether_cons_around nonempty apart.bars_token isLeftmost,
      replaceTogether_around apart.bars_replacement]

/-- Replaced one after another, tokens are replaced together. -/
theorem foldl_replaceFirst
    (apart : AreApart tokens)
    (text : List Char) :
    tokens.foldl
        (fun text token => replaceFirst token.1.toList token.2 text) text =
      replaceTogether tokens text := by
  induction tokens generalizing text with
  | nil =>
      exact (flatMap_range_getElem? text).symm
  | cons token tokens inductionHypothesis =>
      rw [List.foldl_cons, inductionHypothesis apart.tail,
        apart.replaceTogether_cons]

/-- Of tokens that do not interfere only one has a share in a place. -/
theorem eq_of_share?
    (apart : AreApart tokens)
    {other : String × List Char}
    (isToken : token ∈ tokens)
    (isOther : other ∈ tokens)
    {text shown otherShown : List Char}
    {place : Nat}
    (share : share? text place token = some shown)
    (otherShare : share? text place other = some otherShown) :
    shown = otherShown := by
  by_cases same : token = other
  · rw [same, otherShare] at share
    exact (Option.some.inj share).symm
  · obtain ⟨char, isChar, atPlace⟩ :=
      exists_mem_of_share? (apart.nonempty token isToken) share
    obtain ⟨otherChar, isOtherChar, atPlace'⟩ :=
      exists_mem_of_share? (apart.nonempty other isOther) otherShare
    have sameChar : char = otherChar := by
      rw [atPlace] at atPlace'
      exact Option.some.inj atPlace'
    have symmetric :
        Std.Symm fun (one two : String × List Char) =>
          one.1.toList.Disjoint two.1.toList :=
      ⟨fun _ _ => List.disjoint_symm⟩
    have separate := apart.disjoint.forall isToken isOther same
    exact absurd (sameChar ▸ isOtherChar) (separate isChar)

theorem findSome?_share?_perm
    {order : List (String × List Char)}
    (apart : AreApart tokens)
    (reordered : order.Perm tokens)
    (text : List Char)
    (place : Nat) :
    order.findSome? (share? text place) =
      tokens.findSome? (share? text place) := by
  cases found : tokens.findSome? (share? text place) with
  | none =>
      rw [List.findSome?_eq_none_iff] at found ⊢
      exact fun token member => found token (reordered.mem_iff.mp member)
  | some shown =>
      obtain ⟨token, isToken, share⟩ := List.exists_of_findSome?_eq_some found
      have isFound :
          (order.findSome? (share? text place)).isSome = true := by
        rw [List.findSome?_isSome_iff]
        exact ⟨token, reordered.mem_iff.mpr isToken, by rw [share]; rfl⟩
      obtain ⟨otherShown, otherFound⟩ := Option.isSome_iff_exists.mp isFound
      obtain ⟨other, isOther, otherShare⟩ :=
        List.exists_of_findSome?_eq_some otherFound
      rw [otherFound,
        apart.eq_of_share? (reordered.mem_iff.mp isOther) isToken
          otherShare share]

/-- In any order, tokens replaced one after another are replaced together. -/
theorem foldl_replaceFirst_of_perm
    {order : List (String × List Char)}
    (apart : AreApart tokens)
    (reordered : order.Perm tokens)
    (text : List Char) :
    order.foldl
        (fun text token => replaceFirst token.1.toList token.2 text) text =
      replaceTogether tokens text := by
  rw [(apart.perm reordered).foldl_replaceFirst, replaceTogether,
    replaceTogether]
  refine List.flatMap_congr fun place _ => ?_
  rw [standIn, standIn, apart.findSome?_share?_perm reordered]

end AreApart

end Mockup.Text
