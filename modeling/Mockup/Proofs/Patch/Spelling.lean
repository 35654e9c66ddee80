import Mathlib.Data.List.Basic
import Mockup.Proofs.Patch.Pointer

namespace Mockup

/-!
# The spelling of pointers

Lists of tokens and strictly written pointers stand for one another.  A pointer
that is built from the root is cut back into its tokens, whatever characters
they have, and a pointer in which every tilde begins an escape is built again
from the tokens it is cut into.  A token is escaped, and read back, by two
replacements one after the other: tildes are escaped before slashes are, and
slashes are put back before tildes are.
-/

namespace Text

/-! ## Replacing every occurrence -/

/--
A text with the occurrences of a pattern, which is not empty, replaced from
left to right.
-/
def replaceAll
    (pattern replacement : List Char) :
    List Char → List Char
  | [] =>
      []
  | char :: text =>
      if pattern <+: char :: text then
        replacement ++
          replaceAll pattern replacement (text.drop (pattern.length - 1))
      else
        char :: replaceAll pattern replacement text
termination_by text => text.length

/-- A character is replaced wherever it stands. -/
theorem replaceAll_singleton
    (wanted : Char)
    (replacement text : List Char) :
    replaceAll [wanted] replacement text =
      text.flatMap fun char =>
        if char = wanted then replacement else [char] := by
  induction text with
  | nil =>
      rw [replaceAll, List.flatMap_nil]
  | cons char text inductionHypothesis =>
      rw [replaceAll, List.flatMap_cons, ← inductionHypothesis]
      by_cases same : char = wanted
      · simp [same]
      · simp [same, Ne.symm same]

/-- A pattern that begins with another character is not found here. -/
theorem replaceAll_cons_of_ne
    {first char : Char}
    (different : first ≠ char)
    (more replacement text : List Char) :
    replaceAll (first :: more) replacement (char :: text) =
      char :: replaceAll (first :: more) replacement text := by
  rw [replaceAll, if_neg (by simp [different])]

/-- A pair of characters is replaced where the text begins with it. -/
theorem replaceAll_pair
    (first second : Char)
    (replacement text : List Char) :
    replaceAll [first, second] replacement (first :: second :: text) =
      replacement ++ replaceAll [first, second] replacement text := by
  rw [replaceAll, if_pos (by simp)]
  rfl

/-- A pair is not found where its second character does not follow. -/
theorem replaceAll_pair_of_head?_ne
    {first second : Char}
    {text : List Char}
    (absent : text.head? ≠ some second)
    (replacement : List Char) :
    replaceAll [first, second] replacement (first :: text) =
      first :: replaceAll [first, second] replacement text := by
  have notHere : ¬[first, second] <+: first :: text := by
    cases text with
    | nil =>
        simp
    | cons char text =>
        have different : char ≠ second := by
          simpa using absent
        simp [Ne.symm different]
  rw [replaceAll, if_neg notHere]

end Text

namespace Pointer

theorem escape_cons
    (char : Char)
    (rest : List Char) :
    escape (char :: rest) =
      (if char = '~' then ['~', '0']
        else if char = '/' then ['~', '1']
        else [char]) ++ escape rest :=
  List.flatMap_cons

/-! ## Two replacements one after the other -/

/-- A token is escaped by escaping its tildes, then its slashes. -/
theorem escape_eq_replaceAll
    (token : List Char) :
    escape token =
      Text.replaceAll ['/'] ['~', '1']
        (Text.replaceAll ['~'] ['~', '0'] token) := by
  rw [Text.replaceAll_singleton, Text.replaceAll_singleton,
    List.flatMap_assoc, escape]
  refine congrArg (List.flatMap · token) (funext fun char => ?_)
  by_cases isTilde : char = '~'
  · simp [isTilde]
  · simp [isTilde]

/--
Putting back slashes makes no escape of a tilde: a zero stands behind a tilde
only if it stood there before.
-/
theorem head?_replaceAll_ne_zero
    {text : List Char}
    (notZero : text.head? ≠ some '0') :
    (Text.replaceAll ['~', '1'] ['/'] text).head? ≠ some '0' := by
  cases text with
  | nil =>
      simp [Text.replaceAll]
  | cons char text =>
      rw [Text.replaceAll]
      split
      · simp
      · simpa using notZero

/-- A token is read by putting back its slashes, then its tildes. -/
theorem unescape_eq_replaceAll
    (text : List Char) :
    unescape text =
      Text.replaceAll ['~', '0'] ['~']
        (Text.replaceAll ['~', '1'] ['/'] text) := by
  fun_induction unescape text with
  | case1 rest inductionHypothesis =>
      have slash : '~' ≠ '/' := by
        decide
      rw [Text.replaceAll_pair, List.singleton_append,
        Text.replaceAll_cons_of_ne slash, inductionHypothesis]
  | case2 rest inductionHypothesis =>
      have zero : '~' ≠ '0' := by
        decide
      rw [Text.replaceAll_pair_of_head?_ne (by simp),
        Text.replaceAll_cons_of_ne zero, Text.replaceAll_pair,
        List.singleton_append, inductionHypothesis]
  | case3 char rest noSlash noTilde inductionHypothesis =>
      by_cases isTilde : char = '~'
      · -- A tilde that begins no escape is kept by either replacement.
        subst isTilde
        have notOne : rest.head? ≠ some '1' := by
          intro isOne
          obtain ⟨more, rfl⟩ := List.head?_eq_some_iff.mp isOne
          exact noSlash more rfl rfl
        have notZero : rest.head? ≠ some '0' := by
          intro isZero
          obtain ⟨more, rfl⟩ := List.head?_eq_some_iff.mp isZero
          exact noTilde more rfl rfl
        rw [Text.replaceAll_pair_of_head?_ne notOne,
          Text.replaceAll_pair_of_head?_ne
            (head?_replaceAll_ne_zero notZero),
          inductionHypothesis]
      · have different : '~' ≠ char :=
          Ne.symm isTilde
        rw [Text.replaceAll_cons_of_ne different,
          Text.replaceAll_cons_of_ne different, inductionHypothesis]
  | case4 =>
      simp [Text.replaceAll]

/-! ## Strictly written pointers -/

/-- A text in which every tilde has a zero or a one behind it. -/
def IsEscaped
    (chars : List Char) :
    Prop :=
  ∀ index,
    chars[index]? = some '~' →
      chars[index + 1]? = some '0' ∨ chars[index + 1]? = some '1'

/-- The root, or a pointer that begins with a slash and has no stray tilde. -/
structure IsStrict
    (pointer : String) :
    Prop where
  anchored : IsAnchored pointer
  escaped : IsEscaped pointer.toList

namespace IsEscaped

theorem cons_iff
    {char : Char}
    {rest : List Char} :
    IsEscaped (char :: rest) ↔
      (char = '~' → rest.head? = some '0' ∨ rest.head? = some '1') ∧
        IsEscaped rest := by
  constructor
  · intro escaped
    refine ⟨fun isTilde => ?_, fun index => escaped (index + 1)⟩
    simpa [isTilde, List.head?_eq_getElem?] using escaped 0
  · rintro ⟨first, later⟩ index isTilde
    cases index with
    | zero =>
        simpa [List.head?_eq_getElem?] using first (by simpa using isTilde)
    | succ index =>
        exact later index isTilde

theorem nil :
    IsEscaped [] := by
  simp [IsEscaped]

/-- What follows a text cannot be needed by a tilde inside it. -/
theorem append
    {earlier later : List Char}
    (isEarlier : IsEscaped earlier)
    (isLater : IsEscaped later) :
    IsEscaped (earlier ++ later) := by
  induction earlier with
  | nil =>
      exact isLater
  | cons char rest inductionHypothesis =>
      obtain ⟨follows, restEscaped⟩ := cons_iff.mp isEarlier
      refine cons_iff.mpr ⟨fun isTilde => ?_, inductionHypothesis restEscaped⟩
      exact (follows isTilde).imp
        (fun isZero => by simp [List.head?_append, isZero])
        (fun isOne => by simp [List.head?_append, isOne])

theorem of_escape
    (token : List Char) :
    IsEscaped (escape token) := by
  induction token with
  | nil =>
      exact nil
  | cons char rest inductionHypothesis =>
      rw [escape_cons]
      refine append ?_ inductionHypothesis
      split_ifs with isTilde isSlash
      · simp [cons_iff, nil]
      · simp [cons_iff, nil]
      · simp [cons_iff, nil, isTilde]

/-- Cutting at slashes leaves every tilde with what follows it. -/
theorem of_mem_splitAt
    {chars piece : List Char}
    (escaped : IsEscaped chars)
    (isPiece : piece ∈ Text.splitAt '/' chars) :
    IsEscaped piece := by
  induction chars generalizing piece with
  | nil =>
      rw [Text.splitAt, List.mem_singleton] at isPiece
      exact isPiece ▸ nil
  | cons char rest inductionHypothesis =>
      obtain ⟨follows, restEscaped⟩ := cons_iff.mp escaped
      have later
          {other : List Char}
          (isOther : other ∈ Text.splitAt '/' rest) :
          IsEscaped other :=
        inductionHypothesis restEscaped isOther
      by_cases isSlash : char = '/'
      · rw [Text.splitAt, if_pos isSlash, List.mem_cons] at isPiece
        rcases isPiece with rfl | isLater
        · exact nil
        · exact later isLater
      · obtain ⟨head, others, pieces, longer⟩ :=
          Text.exists_splitAt_cons isSlash rest
        rw [longer, List.mem_cons] at isPiece
        rcases isPiece with rfl | isOther
        · refine cons_iff.mpr ⟨fun isTilde => ?_, later (by simp [pieces])⟩
          -- Neither of the two characters is the one to cut at.
          exact (follows isTilde).imp
            (Text.head?_of_splitAt pieces (by decide))
            (Text.head?_of_splitAt pieces (by decide))
        · exact later (by simp [pieces, isOther])

/-- Escaping undoes unescaping where no tilde is stray. -/
theorem escape_unescape
    {chars : List Char}
    (escaped : IsEscaped chars)
    (slashless : '/' ∉ chars) :
    escape (unescape chars) = chars := by
  fun_induction unescape chars with
  | case1 rest inductionHypothesis =>
      have restEscaped := (cons_iff.mp (cons_iff.mp escaped).2).2
      have restSlashless : '/' ∉ rest := by
        simpa using slashless
      rw [escape_cons, inductionHypothesis restEscaped restSlashless]
      rfl
  | case2 rest inductionHypothesis =>
      have restEscaped := (cons_iff.mp (cons_iff.mp escaped).2).2
      have restSlashless : '/' ∉ rest := by
        simpa using slashless
      rw [escape_cons, inductionHypothesis restEscaped restSlashless]
      rfl
  | case3 char rest noSlash noTilde inductionHypothesis =>
      obtain ⟨follows, restEscaped⟩ := cons_iff.mp escaped
      have isPlain : char ≠ '~' := by
        intro isTilde
        rcases follows isTilde with isZero | isOne
        · obtain ⟨more, rfl⟩ := List.head?_eq_some_iff.mp isZero
          exact noTilde more isTilde rfl
        · obtain ⟨more, rfl⟩ := List.head?_eq_some_iff.mp isOne
          exact noSlash more isTilde rfl
      rw [List.mem_cons, not_or] at slashless
      rw [escape_cons, inductionHypothesis restEscaped slashless.2,
        if_neg isPlain, if_neg (Ne.symm slashless.1)]
      rfl
  | case4 =>
      rfl

end IsEscaped

/-! ## Building and cutting -/

/-- The pointer from the root along some tokens. -/
def ofTokens
    (tokens : List String) :
    String :=
  tokens.foldl child ""

theorem toList_ofTokens
    (tokens : List String) :
    (ofTokens tokens).toList =
      tokens.flatMap fun token => '/' :: escape token.toList := by
  have onwards (parent : String) :
      (tokens.foldl child parent).toList =
        parent.toList ++
          tokens.flatMap fun token => '/' :: escape token.toList := by
    induction tokens generalizing parent with
    | nil =>
        simp
    | cons token rest inductionHypothesis =>
        simp [inductionHypothesis, toList_child]
  rw [ofTokens, onwards, String.toList_empty, List.nil_append]

/-- A pointer that is built from tokens is cut into them. -/
theorem tokens_ofTokens
    (keys : List String) :
    tokens (ofTokens keys) = keys := by
  have onwards
      {parent : String}
      (anchored : IsAnchored parent) :
      tokens (keys.foldl child parent) = tokens parent ++ keys := by
    induction keys generalizing parent with
    | nil =>
        simp
    | cons key rest inductionHypothesis =>
        rw [List.foldl_cons, inductionHypothesis (anchored.child key),
          tokens_child anchored, List.append_assoc, List.singleton_append]
  exact onwards isAnchored_root

/-- A strictly written pointer is built again from its tokens. -/
theorem IsStrict.ofTokens_tokens
    {pointer : String}
    (strict : IsStrict pointer) :
    ofTokens (tokens pointer) = pointer := by
  rcases strict.anchored with rfl | slashFirst
  · rfl
  · obtain ⟨body, shape⟩ := List.head?_eq_some_iff.mp slashFirst
    have escaped : IsEscaped body := by
      have whole := strict.escaped
      rw [shape] at whole
      exact (IsEscaped.cons_iff.mp whole).2
    have nonempty : pointer ≠ "" := by
      rintro rfl
      simp at shape
    have written
        (piece : List Char)
        (isPiece : piece ∈ Text.splitAt '/' body) :
        '/' :: escape (unescape piece) = '/' :: piece := by
      have slashless : '/' ∉ piece := fun slash =>
        (Text.mem_of_mem_splitAt isPiece slash).2 rfl
      rw [(escaped.of_mem_splitAt isPiece).escape_unescape slashless]
    rw [← String.toList_inj, toList_ofTokens, tokens, if_neg nonempty, shape]
    simp only [Text.dropLeading, if_true, List.flatMap_map,
      String.toList_ofList]
    rw [List.flatMap_congr written, Text.flatMap_splitAt]

/-- A pointer that is built from tokens is strictly written. -/
theorem isStrict_ofTokens
    (tokens : List String) :
    IsStrict (ofTokens tokens) where
  anchored := by
    cases tokens with
    | nil =>
        exact isAnchored_root
    | cons token rest =>
        refine Or.inr ?_
        rw [toList_ofTokens]
        rfl
  escaped := by
    rw [toList_ofTokens]
    induction tokens with
    | nil =>
        exact IsEscaped.nil
    | cons token rest inductionHypothesis =>
        have own : IsEscaped ('/' :: escape token.toList) :=
          IsEscaped.cons_iff.mpr ⟨by simp, IsEscaped.of_escape token.toList⟩
        rw [List.flatMap_cons]
        exact own.append inductionHypothesis

/--
Building a pointer and cutting it undo each other: any tokens are read back
from the pointer they make, and the pointers that are made again from their
tokens are the strictly written ones.  Each token is written and read by two
replacements in turn.
-/
theorem building_inverts_cutting :
    (∀ keys, tokens (ofTokens keys) = keys) ∧
      (∀ pointer, ofTokens (tokens pointer) = pointer ↔ IsStrict pointer) ∧
        ∀ token,
          escape token =
              Text.replaceAll ['/'] ['~', '1']
                (Text.replaceAll ['~'] ['~', '0'] token) ∧
            unescape token =
              Text.replaceAll ['~', '0'] ['~']
                (Text.replaceAll ['~', '1'] ['/'] token) := by
  refine ⟨tokens_ofTokens, fun pointer => ⟨?_, IsStrict.ofTokens_tokens⟩,
    fun token => ⟨escape_eq_replaceAll token, unescape_eq_replaceAll token⟩⟩
  intro rebuilt
  exact rebuilt ▸ isStrict_ofTokens (tokens pointer)

/-- Keys that look like escapes, and an empty one. -/
example :
    ofTokens ["a/b", "~1", "", "~"] = "/a~1b/~01//~0" ∧
      tokens "/a~1b/~01//~0" = ["a/b", "~1", "", "~"] := by
  decide

end Pointer

end Mockup
