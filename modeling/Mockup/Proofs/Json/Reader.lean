import Mockup.Json.Reader

namespace Mockup

namespace Json

/-!
# What a character does to the reader

Every character moves the reader in one of a few ways, or in two of them when
it ends a number: it leaves the open containers alone, it opens or closes one,
or it completes a part.  What holds of all readings is proved from these moves.
-/

/-- A part that is no container, and no number beyond the doubles. -/
def IsPlain : Json → Prop
  | .number value =>
      value.isFinite = true
  | .array _ =>
      False
  | .object _ =>
      False
  | _ =>
      True

/-- What a number token stands for is plain. -/
theorem NumberToken.isPlain_of_tree?
    {token : NumberToken}
    {part : Json}
    (named : token.tree? = some part) :
    part.IsPlain := by
  have ofDouble :
      ∀ {literal : List Char} {double : Json},
        doubleLiteral? literal = some double → double.IsPlain := by
    intro literal double isDouble
    unfold doubleLiteral? at isDouble
    split at isDouble
    · split at isDouble
      · rename_i isFinite
        cases isDouble
        exact isFinite
      · cases isDouble
    · cases isDouble
  unfold NumberToken.tree? at named
  simp only at named
  split at named
  · split at named
    · cases named
      trivial
    · exact ofDouble named
  · exact ofDouble named

/-- The parts of an open container. -/
def Frame.parts : Frame → List Json
  | .array reversed =>
      reversed
  | .object reversed _ =>
      reversed.map Prod.snd

@[simp] theorem Frame.parts_add
    (frame : Frame)
    (part : Json) :
    (frame.add part).parts = part :: frame.parts := by
  cases frame <;> rfl

namespace Mode

/-- Whether a whole document has been read. -/
def isDone : Mode → Bool
  | .done _ =>
      true
  | _ =>
      false

/-- The parts that a mode holds outside of the open containers. -/
def held : Mode → List Json
  | .word _ result =>
      [result]
  | .done document =>
      [document]
  | _ =>
      []

/-- A part that a mode holds already, or that is plain. -/
def Knows
    (mode : Mode)
    (part : Json) :
    Prop :=
  part ∈ mode.held ∨ part.IsPlain

end Mode

namespace Reader

/-- The ways in which a character moves the reader. -/
inductive Moves : Reader → Reader → Prop where
  /-- Nothing changes. -/
  | rest
      {reader : Reader} :
      Moves reader reader
  /-- The open containers stay as they are. -/
  | within
      {stack : List Frame}
      {mode next : Mode} :
      next.isDone = false →
      (∀ part ∈ next.held, mode.Knows part) →
      Moves ⟨stack, mode⟩ ⟨stack, next⟩
  /-- One more container is open. -/
  | opened
      {stack : List Frame}
      {mode next : Mode}
      {frame : Frame} :
      frame.parts = [] →
      next.isDone = false →
      next.held = [] →
      Moves ⟨stack, mode⟩ ⟨frame :: stack, next⟩
  /-- A key is given to the next part of the innermost object. -/
  | named
      {outer : List Frame}
      {mode : Mode}
      {reversed : List (String × Json)}
      {key other : String} :
      Moves ⟨.object reversed key :: outer, mode⟩
        ⟨.object reversed other :: outer, .value⟩
  /-- A part that is no container is complete. -/
  | finished
      {stack : List Frame}
      {mode : Mode}
      {part : Json} :
      mode.Knows part →
      Moves ⟨stack, mode⟩ (finishPart stack part)
  /-- The innermost container is complete. -/
  | closed
      {outer : List Frame}
      {mode : Mode}
      {frame : Frame} :
      Moves ⟨frame :: outer, mode⟩ (finishPart outer frame.tree)

/-- The first character of a value opens a container or begins a token. -/
theorem moves_of_startValue?
    {demands : Demands}
    {stack : List Frame}
    {mode : Mode}
    {char : Char}
    {next : Reader}
    (started : startValue? demands stack char = some next) :
    Moves ⟨stack, mode⟩ next := by
  unfold startValue? enter? at started
  split at started
  · cases started
    exact .within rfl (by simp [Mode.held])
  split at started
  · split at started
    · cases started
      exact .opened rfl rfl rfl
    · cases started
  split at started
  · split at started
    · cases started
      exact .opened rfl rfl rfl
    · cases started
  repeat'
    split at started
    · cases started
      exact .within rfl (by simp [Mode.held, Mode.Knows, IsPlain])
  cases started

theorem moves_of_leave?
    {stack : List Frame}
    {mode : Mode}
    {char : Char}
    {next : Reader}
    (left : leave? stack char = some next) :
    Moves ⟨stack, mode⟩ next := by
  cases stack with
  | nil =>
      simp [leave?] at left
  | cons frame outer =>
      simp only [leave?] at left
      split at left
      · cases left
        exact .closed
      · cases left

theorem moves_of_separate?
    {stack : List Frame}
    {mode : Mode}
    {next : Reader}
    (separated : separate? stack = some next) :
    Moves ⟨stack, mode⟩ next := by
  unfold separate? at separated
  split at separated
  · cases separated
  · cases separated
    exact .within rfl (by simp [Mode.held])
  · cases separated
    exact .within rfl (by simp [Mode.held])

theorem moves_of_associate?
    {key : String}
    {stack : List Frame}
    {mode : Mode}
    {next : Reader}
    (associated : associate? key stack = some next) :
    Moves ⟨stack, mode⟩ next := by
  unfold associate? at associated
  split at associated
  · cases associated
    exact .named
  · cases associated

/-- A character outside of a number moves the reader. -/
theorem moves_of_stepPlain?
    {demands : Demands}
    {reader next : Reader}
    {char : Char}
    (stepped : reader.stepPlain? demands char = some next) :
    Moves reader next := by
  rcases reader with ⟨stack, mode⟩
  cases mode with
  | value =>
      simp only [stepPlain?] at stepped
      split at stepped
      · cases stepped
        exact .rest
      · exact moves_of_startValue? stepped
  | firstItem =>
      simp only [stepPlain?] at stepped
      split at stepped
      · cases stepped
        exact .rest
      · split at stepped
        · exact moves_of_leave? stepped
        · exact moves_of_startValue? stepped
  | firstKey =>
      simp only [stepPlain?] at stepped
      split at stepped
      · cases stepped
        exact .rest
      · split at stepped
        · cases stepped
          exact .within rfl (by simp [Mode.held])
        · exact moves_of_leave? stepped
  | nextKey =>
      simp only [stepPlain?] at stepped
      split at stepped
      · cases stepped
        exact .rest
      · split at stepped
        · cases stepped
          exact .within rfl (by simp [Mode.held])
        · cases stepped
  | colon key =>
      simp only [stepPlain?] at stepped
      split at stepped
      · cases stepped
        exact .rest
      · split at stepped
        · exact moves_of_associate? stepped
        · cases stepped
  | afterPart =>
      simp only [stepPlain?] at stepped
      split at stepped
      · cases stepped
        exact .rest
      · split at stepped
        · exact moves_of_separate? stepped
        · exact moves_of_leave? stepped
  | word letters result =>
      have known : (Mode.word letters result).Knows result :=
        Or.inl (by simp [Mode.held])
      rcases letters with _ | ⟨letter, _ | ⟨second, others⟩⟩
      · simp [stepPlain?] at stepped
      · simp only [stepPlain?] at stepped
        split at stepped
        · cases stepped
          exact .finished known
        · cases stepped
      · simp only [stepPlain?] at stepped
        split at stepped
        · cases stepped
          exact .within rfl (by simp [Mode.held, Mode.Knows])
        · cases stepped
  | number token =>
      simp [stepPlain?] at stepped
  | key token =>
      simp only [stepPlain?] at stepped
      split at stepped
      · cases stepped
        exact .within rfl (by simp [Mode.held])
      · obtain ⟨after, _, rfl⟩ := Option.map_eq_some_iff.mp stepped
        exact .within rfl (by simp [Mode.held])
  | string token =>
      simp only [stepPlain?] at stepped
      split at stepped
      · cases stepped
        exact .finished (Or.inr trivial)
      · obtain ⟨after, _, rfl⟩ := Option.map_eq_some_iff.mp stepped
        exact .within rfl (by simp [Mode.held])
  | done document =>
      simp only [stepPlain?] at stepped
      split at stepped
      · cases stepped
        exact .rest
      · cases stepped

/-- A number that ends completes a part. -/
theorem moves_of_finishNumber?
    {demands : Demands}
    {stack : List Frame}
    {mode : Mode}
    {token : NumberToken}
    {next : Reader}
    (finished : finishNumber? demands stack token = some next) :
    ∃ part,
      part.IsPlain ∧ next = finishPart stack part ∧
        Moves ⟨stack, mode⟩ next := by
  unfold finishNumber? at finished
  split at finished
  · split at finished
    · rename_i part named
      cases finished
      have isPlain := NumberToken.isPlain_of_tree? named
      exact ⟨part, isPlain, rfl, .finished (Or.inr isPlain)⟩
    · split at finished
      · cases finished
        exact ⟨.null, trivial, rfl, .finished (Or.inr trivial)⟩
      · cases finished
  · cases finished

/-- A character moves the reader once, or twice when it ends a number. -/
theorem moves_of_step?
    {demands : Demands}
    {reader next : Reader}
    {char : Char}
    (stepped : reader.step? demands char = some next) :
    Moves reader next ∨
      ∃ part,
        part.IsPlain ∧
          Moves reader (finishPart reader.stack part) ∧
          Moves (finishPart reader.stack part) next := by
  rcases reader with ⟨stack, mode⟩
  unfold step? at stepped
  simp only at stepped
  split at stepped
  · split at stepped
    · cases stepped
      exact Or.inl (.within rfl (by simp [Mode.held]))
    · split at stepped
      · rename_i finished ended
        obtain ⟨part, isPlain, rfl, moves⟩ :=
          moves_of_finishNumber? ended
        exact Or.inr
          ⟨part, isPlain, moves, moves_of_stepPlain? stepped⟩
      · cases stepped
  · exact Or.inl (moves_of_stepPlain? stepped)

/-- Reading a text reads its first part and goes on with the second. -/
theorem run?_append
    (demands : Demands)
    (reader : Reader)
    (first second : List Char) :
    reader.run? demands (first ++ second) =
      (reader.run? demands first).bind fun middle =>
        middle.run? demands second := by
  induction first generalizing reader with
  | nil =>
      rfl
  | cons char rest inductionHypothesis =>
      cases stepped : reader.step? demands char with
      | none =>
          simp [run?, stepped]
      | some next =>
          simp [run?, stepped, inductionHypothesis]

/-- What every step keeps holds at the end of every text. -/
theorem keeps_of_run?
    {demands : Demands}
    {keeps : Reader → Prop}
    (step :
      ∀ {reader next : Reader} {char : Char},
        keeps reader → reader.step? demands char = some next → keeps next)
    {reader final : Reader}
    {chars : List Char}
    (kept : keeps reader)
    (ran : reader.run? demands chars = some final) :
    keeps final := by
  induction chars generalizing reader with
  | nil =>
      cases ran
      exact kept
  | cons char rest inductionHypothesis =>
      cases stepped : reader.step? demands char with
      | none =>
          simp [run?, stepped] at ran
      | some next =>
          have restRan : next.run? demands rest = some final := by
            simpa [run?, stepped] using ran
          exact inductionHypothesis (step kept stepped) restRan

end Reader

end Json

end Mockup
