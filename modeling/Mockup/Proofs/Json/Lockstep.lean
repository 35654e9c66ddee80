import Mockup.Proofs.Json.Shape

namespace Mockup

namespace Json

/-!
# Reading only what counts

A text that can be read when every part counts can also be read when only the
parts in a shape count, and the two trees agree on these parts.  The reader
that ignores the others goes through the same text in lockstep: it has opened
the same containers, and what the two hold differs only where nobody looks,
by the surrogates that stand for themselves there.
-/

/-! ## Agreement of readers -/

/-- Two open containers of one kind that agree on the parts in a shape. -/
inductive Frame.AgreesOn : Option Shape → Frame → Frame → Prop where
  | array
      {shape : Option Shape}
      {lefts rights : List Json} :
      Json.AgreesOn shape (.array lefts.reverse) (.array rights.reverse) →
      AgreesOn shape (.array lefts) (.array rights)
  | object
      {shape : Option Shape}
      {lefts rights : List (String × Json)}
      {leftKey rightKey : String} :
      Json.AgreesOn shape (.object lefts.reverse) (.object rights.reverse) →
      (shape ≠ none → leftKey = rightKey) →
      AgreesOn shape (.object lefts leftKey) (.object rights rightKey)

namespace Frame.AgreesOn

variable
  {shape : Option Shape}
  {left right : Frame}

theorem closing_eq
    (agrees : AgreesOn shape left right) :
    left.closing = right.closing := by
  cases agrees <;> rfl

theorem tree
    (agrees : AgreesOn shape left right) :
    Json.AgreesOn shape left.tree right.tree := by
  cases agrees with
  | array trees =>
      exact trees
  | object trees _ =>
      exact trees

/-- Open containers that agree have the same shape for the next part. -/
theorem part?_eq
    (agrees : AgreesOn shape left right) :
    (shape.bind fun outer => outer.part? left) =
      shape.bind fun outer => outer.part? right := by
  cases shape with
  | none =>
      rfl
  | some shape =>
      simp only [Option.bind_some]
      cases agrees with
      | array trees =>
          rw [Shape.part?_array, Shape.part?_array]
          exact congrArg shape.item? (by simpa using trees.length_eq)
      | object _ sameKey =>
          rw [Shape.part?_object, Shape.part?_object, sameKey (by simp)]

/-- One more part on both sides. -/
theorem add
    (agrees : AgreesOn shape left right)
    {first second : Json}
    (parts :
      Json.AgreesOn (shape.bind fun outer => outer.part? left)
        first second) :
    AgreesOn shape (left.add first) (right.add second) := by
  cases shape with
  | none =>
      cases agrees with
      | array _ =>
          exact .array .ignored
      | object _ _ =>
          exact .object .ignored (by simp)
  | some shape =>
      rw [Option.bind_some] at parts
      cases agrees with
      | array trees =>
          refine .array ?_
          rw [Shape.part?_array] at parts
          rw [List.reverse_cons, List.reverse_cons]
          exact trees.array_append (by simpa using parts)
      | object trees sameKey =>
          obtain rfl := sameKey (by simp)
          refine .object ?_ fun _ => rfl
          rw [Shape.part?_object] at parts
          rw [List.reverse_cons, List.reverse_cons]
          exact trees.object_append parts

end Frame.AgreesOn

/-- Open containers that agree, each on what counts inside the outer ones. -/
inductive StacksAgree (shape : Shape) : List Frame → List Frame → Prop where
  | nil :
      StacksAgree shape [] []
  | cons
      {left right : Frame}
      {lefts rights : List Frame} :
      StacksAgree shape lefts rights →
      left.AgreesOn (shape.inside? lefts) right →
      StacksAgree shape (left :: lefts) (right :: rights)

namespace StacksAgree

variable
  {shape : Shape}
  {lefts rights : List Frame}

theorem inside?_eq
    (agree : StacksAgree shape lefts rights) :
    shape.inside? lefts = shape.inside? rights := by
  induction agree with
  | nil =>
      rfl
  | cons _ frames inductionHypothesis =>
      rw [Shape.inside?, Shape.inside?, ← inductionHypothesis]
      exact frames.part?_eq

theorem tail
    (agree : StacksAgree shape lefts rights) :
    StacksAgree shape lefts.tail rights.tail := by
  cases agree with
  | nil =>
      exact .nil
  | cons outer _ =>
      exact outer

theorem length_eq
    (agree : StacksAgree shape lefts rights) :
    lefts.length = rights.length := by
  induction agree with
  | nil =>
      rfl
  | cons _ _ inductionHypothesis =>
      simp [inductionHypothesis]

theorem ignores_eq
    (agree : StacksAgree shape lefts rights) :
    shape.demands.ignores rights = (shape.inside? lefts).isNone := by
  rw [Shape.demands, agree.inside?_eq]

end StacksAgree

/-! ## Agreement of tokens -/

/-- The escape of a reader that lets every surrogate stand for itself. -/
def Escape.ignoring : Escape → Escape
  | .hex _ reversed =>
      .hex .none reversed
  | .lowBackslash _ =>
      .none
  | .lowMark _ =>
      .begun
  | other =>
      other

namespace StringToken

/-- The same token, or one that only has got as far where it is ignored. -/
def AgreesOn
    (ignored : Bool)
    (left right : StringToken) :
    Prop :=
  if ignored then
    right.escape = left.escape.ignoring
  else
    left = right

theorem agreesOn_refl
    (ignored : Bool)
    {token : StringToken}
    (noEscape : token.escape = .none) :
    AgreesOn ignored token token := by
  cases ignored with
  | false =>
      rfl
  | true =>
      rw [AgreesOn, if_pos rfl, noEscape]
      rfl

/-- A strict token that ends is an ignored token that ends. -/
theorem AgreesOn.isEnd
    {ignored : Bool}
    {left right : StringToken}
    (agrees : AgreesOn ignored left right)
    {char : Char}
    (ends : left.isEnd char = true) :
    right.isEnd char = true := by
  cases ignored with
  | false =>
      obtain rfl : left = right := agrees
      exact ends
  | true =>
      have sameEscape : right.escape = left.escape.ignoring := agrees
      unfold StringToken.isEnd at ends ⊢
      rw [Bool.and_eq_true, decide_eq_true_eq] at ends ⊢
      rw [sameEscape, ends.1]
      exact ⟨rfl, ends.2⟩

/-- In an ignored text every unit stands for itself. -/
theorem pushHex?_ignored
    {left right next : StringToken}
    {high : Option Nat}
    {reversed : List Char}
    (pushed : left.pushHex? false high reversed = some next) :
    ∃ other,
      right.pushHex? true .none reversed = some other ∧
        other.escape = next.escape.ignoring := by
  unfold pushHex? at pushed ⊢
  split at pushed
  · rename_i more
    cases pushed
    rw [if_pos more]
    exact ⟨_, rfl, rfl⟩
  · rename_i enough
    rw [if_neg enough]
    split at pushed
    · rename_i unit isUnit
      have plain :
          next.escape.ignoring = .none := by
        unfold pushUnit? at pushed
        simp only at pushed
        split at pushed
        · split at pushed
          · cases pushed
            rfl
          · cases pushed
        · split at pushed
          · cases pushed
          · split at pushed <;>
            · cases pushed
              rfl
      refine ⟨right.push (Char.ofNat unit), ?_, plain.symm⟩
      simp [pushUnit?]
    · cases pushed

/-- A character that a strict token takes is one that an ignored one takes. -/
theorem AgreesOn.step?
    {ignored : Bool}
    {left right : StringToken}
    (agrees : AgreesOn ignored left right)
    {char : Char}
    {next : StringToken}
    (stepped : left.step? false char = some next)
    (goesOn : left.isEnd char = false) :
    right.isEnd char = false ∧
      ∃ other,
        right.step? ignored char = some other ∧
          next.AgreesOn ignored other := by
  cases ignored with
  | false =>
      obtain rfl : left = right := agrees
      exact ⟨goesOn, next, stepped, rfl⟩
  | true =>
      rcases left with ⟨lefts, escape⟩
      rcases right with ⟨rights, _⟩
      obtain rfl : _ = escape.ignoring := agrees
      simp only [StringToken.step?, Escape.ignoring] at stepped ⊢
      cases escape with
      | none =>
          refine ⟨goesOn, ?_⟩
          simp only at stepped ⊢
          split at stepped
          · rename_i isBackslash
            cases stepped
            exact ⟨_, if_pos isBackslash, rfl⟩
          · rename_i noBackslash
            rw [if_neg noBackslash]
            split at stepped
            · cases stepped
            · rename_i isPrinted
              cases stepped
              exact ⟨_, if_neg isPrinted, rfl⟩
      | begun =>
          refine ⟨rfl, ?_⟩
          simp only at stepped ⊢
          split at stepped
          · rename_i isMark
            cases stepped
            exact ⟨_, if_pos isMark, rfl⟩
          · rename_i noMark
            rw [if_neg noMark]
            obtain ⟨escaped, isEscape, rfl⟩ :=
              Option.map_eq_some_iff.mp stepped
            rw [isEscape]
            exact ⟨_, rfl, rfl⟩
      | hex high reversed =>
          exact ⟨rfl, pushHex?_ignored stepped⟩
      | lowBackslash high =>
          obtain ⟨rfl, same⟩ := Option.ite_none_right_eq_some.mp stepped
          cases same
          exact ⟨rfl, _, rfl, rfl⟩
      | lowMark high =>
          obtain ⟨rfl, same⟩ := Option.ite_none_right_eq_some.mp stepped
          cases same
          exact ⟨rfl, _, rfl, rfl⟩

end StringToken

/-! ## A character on both sides -/

/-- Modes of two readers inside open containers that agree. -/
inductive Mode.AgreesOn
    (shape : Shape)
    (stack : List Frame) :
    Mode → Mode → Prop where
  | value :
      AgreesOn shape stack .value .value
  | firstItem :
      AgreesOn shape stack .firstItem .firstItem
  | firstKey :
      AgreesOn shape stack .firstKey .firstKey
  | nextKey :
      AgreesOn shape stack .nextKey .nextKey
  | colon
      {left right : String} :
      (shape.inside? stack.tail ≠ none → left = right) →
      AgreesOn shape stack (.colon left) (.colon right)
  | afterPart :
      AgreesOn shape stack .afterPart .afterPart
  | word
      {rest : List Char}
      {result : Json} :
      result.IsScalar →
      AgreesOn shape stack (.word rest result) (.word rest result)
  | number
      {token : NumberToken} :
      AgreesOn shape stack (.number token) (.number token)
  | key
      {left right : StringToken} :
      left.AgreesOn (shape.inside? stack.tail).isNone right →
      AgreesOn shape stack (.key left) (.key right)
  | string
      {left right : StringToken} :
      left.AgreesOn (shape.inside? stack).isNone right →
      AgreesOn shape stack (.string left) (.string right)
  | done
      {left right : Json} :
      left.AgreesOn (some shape) right →
      AgreesOn shape stack (.done left) (.done right)

namespace Reader

/-- Two readers of one text, the second of which ignores what has no shape. -/
structure AgreesOn
    (shape : Shape)
    (left right : Reader) :
    Prop where
  opened : StacksAgree shape left.stack right.stack
  modes : left.mode.AgreesOn shape left.stack right.mode

/-- Where the first reader goes on, the second goes on as well. -/
def Follows
    (shape : Shape)
    (left right : Option Reader) :
    Prop :=
  ∀ next, left = some next →
    ∃ other, right = some other ∧ next.AgreesOn shape other

namespace Follows

variable {shape : Shape}

theorem none
    (right : Option Reader) :
    Follows shape .none right := by
  rintro next ⟨⟩

theorem some
    {left right : Reader}
    (agrees : left.AgreesOn shape right) :
    Follows shape (.some left) (.some right) := by
  rintro next ⟨⟩
  exact ⟨right, rfl, agrees⟩

/-- Both readers ask the same question. -/
theorem ite
    {condition : Prop}
    [Decidable condition]
    {left right first second : Option Reader}
    (yes : condition → Follows shape left right)
    (no : ¬condition → Follows shape first second) :
    Follows shape (if condition then left else first)
      (if condition then right else second) := by
  split
  · exact yes ‹_›
  · exact no ‹_›

end Follows

variable
  {shape : Shape}
  {lefts rights : List Frame}
  (opened : StacksAgree shape lefts rights)
  (char : Char)

include opened

theorem agreesOn_finishPart
    {left right : Json}
    (parts : left.AgreesOn (shape.inside? lefts) right) :
    AgreesOn shape (finishPart lefts left) (finishPart rights right) := by
  cases opened with
  | nil =>
      exact ⟨.nil, .done parts⟩
  | cons outer frames =>
      exact ⟨.cons outer (frames.add parts), .afterPart⟩

theorem follows_enter?
    {frame : Frame}
    {mode : Mode}
    (frames : frame.AgreesOn (shape.inside? lefts) frame)
    (modes : mode.AgreesOn shape (frame :: lefts) mode) :
    Follows shape (enter? .strict lefts frame mode)
      (enter? shape.demands rights frame mode) := by
  intro next entered
  obtain ⟨few, same⟩ := Option.ite_none_right_eq_some.mp entered
  cases same
  have isStrict : lefts.length < Demands.nestingLimit := by
    rcases Bool.or_eq_true_iff.mp few with isFew | isIgnored
    · exact of_decide_eq_true isFew
    · cases isIgnored
  refine ⟨_, if_pos ?_, .cons opened frames, modes⟩
  rw [Shape.demands, ← opened.length_eq]
  simp [isStrict]

theorem follows_startValue? :
    Follows shape (startValue? .strict lefts char)
      (startValue? shape.demands rights char) := by
  have emptyArray :
      Frame.AgreesOn (shape.inside? lefts) (.array []) (.array []) := by
    refine .array ?_
    cases shape.inside? lefts with
    | none =>
        exact .ignored
    | some inner =>
        exact .array rfl (by simp)
  have emptyObject :
      Frame.AgreesOn (shape.inside? lefts)
        (.object [] "") (.object [] "") := by
    refine .object ?_ fun _ => rfl
    cases shape.inside? lefts with
    | none =>
        exact .ignored
    | some inner =>
        exact .object rfl (by simp)
  have token :
      ∀ {mode : Mode},
        mode.AgreesOn shape lefts mode →
        Follows shape (some ⟨lefts, mode⟩) (some ⟨rights, mode⟩) :=
    fun modes => .some ⟨opened, modes⟩
  refine .ite (fun _ => token ?_) fun _ => ?_
  · exact .string (StringToken.agreesOn_refl _ rfl)
  refine .ite (fun _ => follows_enter? opened emptyArray .firstItem)
    fun _ => ?_
  refine .ite (fun _ => follows_enter? opened emptyObject .firstKey)
    fun _ => ?_
  refine .ite (fun _ => token (.word trivial)) fun _ => ?_
  refine .ite (fun _ => token (.word trivial)) fun _ => ?_
  refine .ite (fun _ => token (.word trivial)) fun _ => ?_
  refine .ite (fun _ => token .number) fun _ => ?_
  refine .ite (fun _ => token .number) fun _ => ?_
  exact .ite (fun _ => token .number) fun _ => .none _

theorem follows_leave? :
    Follows shape (leave? lefts char) (leave? rights char) := by
  cases opened with
  | nil =>
      exact .none _
  | @cons left right lefts rights outer frames =>
      rw [leave?, leave?, frames.closing_eq]
      exact .ite
        (fun _ => .some (agreesOn_finishPart outer frames.tree))
        fun _ => .none _

theorem follows_separate? :
    Follows shape (separate? lefts) (separate? rights) := by
  cases opened with
  | nil =>
      exact .none _
  | cons outer frames =>
      have again := StacksAgree.cons outer frames
      cases frames with
      | array _ =>
          exact .some ⟨again, .value⟩
      | object _ _ =>
          exact .some ⟨again, .nextKey⟩

theorem follows_associate?
    {left right : String}
    (sameKey : shape.inside? lefts.tail ≠ none → left = right) :
    Follows shape (associate? left lefts) (associate? right rights) := by
  cases opened with
  | nil =>
      exact .none _
  | cons outer frames =>
      cases frames with
      | array _ =>
          exact .none _
      | object trees _ =>
          exact .some ⟨.cons outer (.object trees sameKey), .value⟩

omit opened in
/-- Inside a string the second reader goes on where the first does. -/
theorem follows_token
    {left right : StringToken}
    {ignored : Bool}
    (tokens : left.AgreesOn ignored right)
    {ended otherEnded : Option Reader}
    (ends : Follows shape ended otherEnded)
    {wrap otherWrap : StringToken → Reader}
    (goesOn :
      ∀ {next other : StringToken},
        next.AgreesOn ignored other →
        (wrap next).AgreesOn shape (otherWrap other)) :
    Follows shape
      (if left.isEnd char then ended
        else (left.step? false char).map wrap)
      (if right.isEnd char then otherEnded
        else (right.step? ignored char).map otherWrap) := by
  cases isEnd : left.isEnd char with
  | true =>
      rw [if_pos rfl, if_pos (tokens.isEnd isEnd)]
      exact ends
  | false =>
      rintro next stepped
      rw [if_neg Bool.false_ne_true] at stepped
      obtain ⟨token, isToken, rfl⟩ := Option.map_eq_some_iff.mp stepped
      obtain ⟨stillOpen, other, isOther, again⟩ :=
        tokens.step? isToken isEnd
      rw [stillOpen, if_neg Bool.false_ne_true, isOther]
      exact ⟨_, rfl, goesOn again⟩

omit opened in
/-- One character outside of a number token, for both readers. -/
theorem follows_stepPlain?
    {left right : Reader}
    (agrees : left.AgreesOn shape right) :
    Follows shape (left.stepPlain? .strict char)
      (right.stepPlain? shape.demands char) := by
  rcases left with ⟨lefts, mode⟩
  rcases right with ⟨rights, other⟩
  obtain ⟨opened, modes⟩ := agrees
  simp only at opened modes
  have rest : Follows shape (some ⟨lefts, mode⟩) (some ⟨rights, other⟩) :=
    .some ⟨opened, modes⟩
  have firstKey :
      Follows shape (some ⟨lefts, .key ⟨[], .none⟩⟩)
        (some ⟨rights, .key ⟨[], .none⟩⟩) :=
    .some ⟨opened, .key (StringToken.agreesOn_refl _ rfl)⟩
  cases modes with
  | value =>
      exact .ite (fun _ => rest) fun _ => follows_startValue? opened char
  | firstItem =>
      refine .ite (fun _ => rest) fun _ => ?_
      exact .ite (fun _ => follows_leave? opened char)
        fun _ => follows_startValue? opened char
  | firstKey =>
      refine .ite (fun _ => rest) fun _ => ?_
      exact .ite (fun _ => firstKey) fun _ => follows_leave? opened char
  | nextKey =>
      refine .ite (fun _ => rest) fun _ => ?_
      exact .ite (fun _ => firstKey) fun _ => .none _
  | colon sameKey =>
      refine .ite (fun _ => rest) fun _ => ?_
      exact .ite (fun _ => follows_associate? opened sameKey)
        fun _ => .none _
  | afterPart =>
      refine .ite (fun _ => rest) fun _ => ?_
      exact .ite (fun _ => follows_separate? opened)
        fun _ => follows_leave? opened char
  | @word letters result isScalar =>
      rcases letters with _ | ⟨letter, _ | ⟨second, others⟩⟩
      · exact .none _
      · exact .ite
          (fun _ => .some (agreesOn_finishPart opened (.scalar isScalar)))
          fun _ => .none _
      · exact .ite (fun _ => .some ⟨opened, .word isScalar⟩)
          fun _ => .none _
  | number =>
      exact .none _
  | @key left right tokens =>
      have sameText :
          shape.inside? lefts.tail ≠ none → left.text = right.text := by
        intro counts
        rw [Option.isNone_eq_false_iff.mpr
          (Option.isSome_iff_ne_none.mpr counts)] at tokens
        rw [show left = right from tokens]
      have ends :
          Follows shape (some ⟨lefts, .colon left.text⟩)
            (some ⟨rights, .colon right.text⟩) :=
        .some ⟨opened, .colon sameText⟩
      rw [stepPlain?, stepPlain?, opened.tail.ignores_eq]
      exact follows_token char tokens ends
        fun again => ⟨opened, .key again⟩
  | @string left right tokens =>
      have parts :
          Json.AgreesOn (shape.inside? lefts)
            (.string left.text) (.string right.text) := by
        cases counts : shape.inside? lefts with
        | none =>
            exact .ignored
        | some inner =>
            rw [counts] at tokens
            rw [show left = right from tokens]
            exact .scalar trivial
      rw [stepPlain?, stepPlain?, opened.ignores_eq]
      exact follows_token char tokens
        (.some (agreesOn_finishPart opened parts))
        fun again => ⟨opened, .string again⟩
  | done documents =>
      exact .ite (fun _ => rest) fun _ => .none _

/-- A number token that ends completes the same part for both readers. -/
theorem follows_finishNumber?
    (token : NumberToken) :
    Follows shape (finishNumber? .strict lefts token)
      (finishNumber? shape.demands rights token) := by
  refine .ite (fun _ => ?_) fun _ => .none _
  cases named : token.tree? with
  | none =>
      exact .none _
  | some part =>
      exact .some (agreesOn_finishPart opened
        (.scalar (token.isScalar_of_tree? named)))

omit opened in
/-- One character, for both readers. -/
theorem follows_step?
    {left right : Reader}
    (agrees : left.AgreesOn shape right) :
    Follows shape (left.step? .strict char)
      (right.step? shape.demands char) := by
  rcases left with ⟨lefts, mode⟩
  rcases right with ⟨rights, other⟩
  have plain := follows_stepPlain? char agrees
  obtain ⟨opened, modes⟩ := agrees
  simp only at opened modes
  cases modes with
  | @number token =>
      intro next stepped
      simp only [step?] at stepped ⊢
      split at stepped
      · cases stepped
        exact ⟨_, rfl, opened, .number⟩
      · split at stepped
        · rename_i finished isFinished
          obtain ⟨other, isOther, again⟩ :=
            follows_finishNumber? opened token finished isFinished
          rw [isOther]
          exact follows_stepPlain? char again next stepped
        · cases stepped
  | _ =>
      exact plain

omit opened in
/-- A whole text, for both readers. -/
theorem follows_run?
    {left right : Reader}
    (agrees : left.AgreesOn shape right)
    (chars : List Char) :
    Follows shape (left.run? .strict chars)
      (right.run? shape.demands chars) := by
  induction chars generalizing left right with
  | nil =>
      exact .some agrees
  | cons char chars inductionHypothesis =>
      intro final ran
      rw [run?] at ran ⊢
      split at ran
      · rename_i next stepped
        obtain ⟨other, otherStepped, again⟩ :=
          follows_step? char agrees next stepped
        rw [otherStepped]
        exact inductionHypothesis again final ran
      · cases ran

omit opened in
/-- What the first reader has read the second has read as well. -/
theorem agreesOn_finish
    {left right : Reader}
    (agrees : left.AgreesOn shape right)
    {document : Json}
    (finished : left.finish = .ok document) :
    ∃ other,
      right.finish = .ok other ∧ document.AgreesOn (some shape) other := by
  rcases left with ⟨lefts, mode⟩
  rcases right with ⟨rights, _⟩
  obtain ⟨opened, modes⟩ := agrees
  simp only at opened modes
  cases modes with
  | done documents =>
      cases finished
      exact ⟨_, rfl, documents⟩
  | @number token =>
      simp only [finish] at finished ⊢
      split at finished
      · rename_i mayEnd
        rw [if_pos mayEnd]
        cases named : token.tree? with
        | none =>
            simp [named] at finished
        | some part =>
            cases opened with
            | nil =>
                simp only [named] at finished
                cases finished
                exact ⟨_, rfl, .scalar (token.isScalar_of_tree? named)⟩
            | cons _ _ =>
                simp [named] at finished
      · cases finished
  | _ =>
      cases finished

end Reader

/--
A text that can be read when every part counts can be read when the parts in a
shape count, and the trees agree on these parts.
-/
theorem readShaped_of_read
    {text : String}
    {json : Json}
    (reads : read text = .ok json)
    (shape : Shape) :
    ∃ other,
      readShaped shape text = .ok other ∧ json.AgreesOn (some shape) other := by
  unfold read readWith at reads
  split at reads
  · rename_i reader ran
    have start : Reader.start.AgreesOn shape .start :=
      ⟨.nil, .value⟩
    obtain ⟨other, otherRan, agrees⟩ :=
      Reader.follows_run? start text.toList reader ran
    obtain ⟨document, finished, documents⟩ :=
      Reader.agreesOn_finish agrees reads
    refine ⟨document, ?_, documents⟩
    rw [readShaped, readWith, otherRan]
    exact finished
  · cases reads

/-- The numbers of a text are finite as doubles. -/
theorem hasFiniteNumbers_of_read
    {text : String}
    {json : Json}
    (reads : read text = .ok json) :
    json.HasFiniteNumbers := by
  obtain ⟨other, _, agrees⟩ := readShaped_of_read reads .whole
  exact agrees.eq_of_whole.2

end Json

end Mockup
