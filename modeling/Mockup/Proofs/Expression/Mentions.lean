import Mockup.Proofs.Expression.Arranged

namespace Mockup

/-!
# The paths that an expression mentions

An expression reads the state at the paths that are written in it, and nowhere
else: in two states that agree on these paths it has the same value, or is
undefined in both.
-/

/--
A path is written somewhere in a document: as the operand of a look-up, or
between the braces of a token.
-/
inductive Value.Mentions : Value → String → Prop where
  | operand
      {fields : Entries Value}
      {path : String} :
      Entries.get? fields "$state" = some (.string path) →
      Mentions (.map fields) path
  | token
      {fields : Entries Value}
      {text : String}
      {path : List Char} :
      Entries.get? fields "$template" = some (.string text) →
      .token path ∈ TemplatePiece.ofText text →
      Mentions (.map fields) (String.ofList (Text.trim path))
  | inside
      {value part : Value}
      {path : String} :
      part ∈ value.parts →
      Mentions part path →
      Mentions value path

namespace Environment

open Expression (argumentsOf argumentsOfField? evalItems evalFields
  ofFields ofItems)

/-! ## Expressions whose parts are the same -/

section

variable {first second : Environment}

/-- Items that have the same values make the same list of values. -/
theorem evalItems_congr
    {items : List Value}
    (same : ∀ item ∈ items, first.evaluate item = second.evaluate item) :
    evalItems first (ofItems items) = evalItems second (ofItems items) := by
  rw [Expression.ofItems_eq_map, Expression.evalItems_eq_map,
    Expression.evalItems_eq_map, List.map_map, List.map_map]
  refine List.map_congr_left fun item member => ?_
  exact congrArg (fun value => value.getD .null) (same item member)

/-- Fields that have the same values make the same map of values. -/
theorem evalFields_congr
    {fields : Entries Value}
    (same :
      ∀ part ∈ (Value.map fields).parts,
        first.evaluate part = second.evaluate part) :
    evalFields first (ofFields fields) =
      evalFields second (ofFields fields) := by
  rw [Expression.ofFields_eq_mapValues,
    Expression.evalFields_eq_filterMap, Expression.evalFields_eq_filterMap,
    Entries.mapValues, List.filterMap_map, List.filterMap_map]
  refine List.filterMap_congr fun field member => ?_
  have sameField :=
    same field.2 (List.mem_map.mpr ⟨field, member, rfl⟩)
  exact congrArg (Option.map (Prod.mk field.1)) sameField

/-- Arguments are the parts of a container, or else one scalar. -/
theorem evalItems_argumentsOf_congr
    {arguments : Value}
    (same :
      ∀ part ∈ arguments.parts,
        first.evaluate part = second.evaluate part) :
    evalItems first (argumentsOf arguments) =
      evalItems second (argumentsOf arguments) := by
  cases arguments with
  | list items =>
      exact evalItems_congr same
  | map fields =>
      rw [argumentsOf, Expression.valuesOf_eq_map,
        ← Expression.ofItems_eq_map]
      exact evalItems_congr same
  | null | bool _ | int _ | float _ | string _ =>
      simp only [argumentsOf, evalItems, Expression.eval]

/-- A call is given the parts of what stands under a key of its map. -/
theorem evalItems_given_congr
    {fields : Entries Value}
    (same :
      ∀ part ∈ (Value.map fields).parts,
        evalItems first (argumentsOf part) =
          evalItems second (argumentsOf part)) :
    evalItems first
        ((argumentsOfField? "$args" fields
          <|> argumentsOfField? "args" fields).getD []) =
      evalItems second
        ((argumentsOfField? "$args" fields
          <|> argumentsOfField? "args" fields).getD []) := by
  rw [Expression.argumentsOfField?_eq, Expression.argumentsOfField?_eq,
    Option.orElse_eq_orElse, Option.orElse_eq_or, ← Option.map_or]
  cases given :
      (Entries.get? fields "$args").or (Entries.get? fields "args") with
  | none =>
      rfl
  | some arguments =>
      rw [Option.or_eq_some_iff] at given
      rcases given with found | ⟨_, found⟩ <;>
        exact same arguments (Value.mem_parts_of_get? found)

/-- A template reads the state for its tokens only. -/
theorem render_congr
    {template : String}
    (same :
      ∀ path,
        .token path ∈ TemplatePiece.ofText template →
        first.resolve? (String.ofList (Text.trim path)) =
          second.resolve? (String.ofList (Text.trim path))) :
    first.render template = second.render template := by
  refine congrArg String.join (List.map_congr_left ?_)
  intro piece member
  cases piece with
  | literal text =>
      rfl
  | token path =>
      simp only [pieceText, same path member]

end

/-! ## Expressions that read the same -/

section

variable (environment : Environment) (state : Value)

/-- Each path that is mentioned leads to the same value in another state. -/
def AgreesOn
    (expression : Value) :
    Prop :=
  ∀ path,
    expression.Mentions path →
    { environment with state := state }.resolve? path =
      environment.resolve? path

variable {environment} {state}

theorem AgreesOn.part
    {expression part : Value}
    (agrees : environment.AgreesOn state expression)
    (isPart : part ∈ expression.parts) :
    environment.AgreesOn state part :=
  fun path mentions => agrees path (.inside isPart mentions)

/-- Another state calls the same functions. -/
theorem call?_state
    (name : String)
    (arguments : List Value) :
    { environment with state := state }.call? name arguments =
      environment.call? name arguments :=
  rfl

/-- A map has the same value as its parts and the parts of these have. -/
theorem evaluate_map_congr
    {fields : Entries Value}
    (agrees : environment.AgreesOn state (.map fields))
    (same :
      ∀ part ∈ (Value.map fields).parts,
        { environment with state := state }.evaluate part =
            environment.evaluate part ∧
          evalItems { environment with state := state }
              (argumentsOf part) =
            evalItems environment (argumentsOf part)) :
    { environment with state := state }.evaluate (.map fields) =
      environment.evaluate (.map fields) := by
  have under :
      ∀ key value,
        Entries.get? fields key = some value →
        { environment with state := state }.evaluate value =
          environment.evaluate value :=
    fun _ _ found => (same _ (Value.mem_parts_of_get? found)).1
  have branch :
      ∀ key,
        Expression.evalBranch { environment with state := state }
            (Expression.ofField? key fields) =
          Expression.evalBranch environment
            (Expression.ofField? key fields) := by
    intro key
    rw [Expression.ofField?_eq]
    cases found : Entries.get? fields key with
    | none =>
        simp only [Option.map_none, Expression.evalBranch]
    | some value =>
        simp only [Option.map_some, Expression.evalBranch]
        exact under key value found
  unfold evaluate Expression.ofValue
  -- The tags are looked for one after another.
  split
  · rename_i operand found
    cases operand with
    | string path =>
        simpa only [Expression.eval] using agrees path (.operand found)
    | _ =>
        simp only [Expression.eval]
  · split
    · rename_i condition found
      rw [Expression.ofField?_eq, Option.map_eq_some_iff] at found
      obtain ⟨value, isThere, rfl⟩ := found
      have subject := under "$cond" value isThere
      unfold evaluate at subject
      simp only [Expression.eval, subject, branch]
    · split
      · rename_i source found
        cases source with
        | string text =>
            have rendered :
                { environment with state := state }.render text =
                  environment.render text :=
              render_congr fun path isToken =>
                agrees _ (.token found isToken)
            simp only [Expression.eval, rendered]
        | _ =>
            simp only [Expression.eval]
      · split
        · rename_i name _
          have given :=
            evalItems_given_congr fun part isPart => (same part isPart).2
          simp only [Expression.eval, call?_state, given]
        · split
          · rename_i operand _
            cases operand <;> simp only [Expression.eval]
          · have sameFields :
                evalFields { environment with state := state }
                    (ofFields fields) =
                  evalFields environment (ofFields fields) :=
              evalFields_congr fun part isPart => (same part isPart).1
            simp only [Expression.eval, sameFields]

/--
An expression has the same value, or is undefined, in two states that agree on
the paths it mentions, whatever functions it may call.
-/
theorem evaluate_of_agreesOn
    {expression : Value}
    (agrees : environment.AgreesOn state expression) :
    { environment with state := state }.evaluate expression =
      environment.evaluate expression := by
  -- A call looks through a container to its parts, so both go together.
  suffices both :
      { environment with state := state }.evaluate expression =
          environment.evaluate expression ∧
        evalItems { environment with state := state }
            (argumentsOf expression) =
          evalItems environment (argumentsOf expression) from
    both.1
  induction expression using Value.induction_on_parts with
  | step expression inductionHypothesis =>
      have same := fun part isPart =>
        inductionHypothesis part isPart (agrees.part isPart)
      refine ⟨?_,
        evalItems_argumentsOf_congr fun part isPart =>
          (same part isPart).1⟩
      cases expression with
      | map fields =>
          exact evaluate_map_congr agrees same
      | list items =>
          have sameItems :
              evalItems { environment with state := state }
                  (ofItems items) =
                evalItems environment (ofItems items) :=
            evalItems_congr fun item member => (same item member).1
          simp only [evaluate, Expression.ofValue, Expression.eval,
            sameItems]
      | null | bool _ | int _ | float _ | string _ =>
          simp only [evaluate, Expression.ofValue, Expression.eval]

end

/-- A greeting, together with the number of visits. -/
def greeting : Value :=
  .list
    [.map [("$template", .string "Hi $\x7b /user/name \x7d")],
      .map [("$state", .string "visits.total")]]

/-- The greeting mentions the name, without blanks, and a key with a dot. -/
theorem mentions_greeting
    {path : String}
    (mentions : greeting.Mentions path) :
    path = "/user/name" ∨ path = "visits.total" := by
  have pieces :
      ∀ path,
        .token path ∈ TemplatePiece.ofText "Hi $\x7b /user/name \x7d" →
        String.ofList (Text.trim path) = "/user/name" := by
    have found :
        TemplatePiece.ofText "Hi $\x7b /user/name \x7d" =
          [.literal ['H'], .literal ['i'], .literal [' '],
            .token " /user/name ".toList] := by
      decide +kernel
    intro path member
    simp only [found, List.mem_cons, reduceCtorEq, false_or,
      TemplatePiece.token.injEq, List.not_mem_nil, or_false] at member
    subst member
    decide +kernel
  -- The texts inside the two maps mention nothing.
  have silent :
      ∀ {text other : String}, ¬ (Value.string text).Mentions other := by
    rintro text other ⟨⟩
    rename_i isPart _
    cases isPart
  cases mentions with
  | inside isPart deeper =>
      rcases List.mem_cons.mp isPart with rfl | isPart
      · cases deeper with
        | operand found =>
            simp [Entries.get?] at found
        | token found isToken =>
            simp only [Entries.get?, if_true, Option.some.injEq,
              Value.string.injEq] at found
            subst found
            exact Or.inl (pieces _ isToken)
        | inside isText deepest =>
            cases List.mem_singleton.mp isText
            exact (silent deepest).elim
      · cases List.mem_singleton.mp isPart
        cases deeper with
        | operand found =>
            simp only [Entries.get?, if_true, Option.some.injEq,
              Value.string.injEq] at found
            exact Or.inr found.symm
        | token found _ =>
            simp [Entries.get?] at found
        | inside isText deepest =>
            cases List.mem_singleton.mp isText
            exact (silent deepest).elim

/-- The greeting is the same for users of one name who differ in age. -/
theorem evaluate_of_agreesOn_greeting :
    let young : Value :=
      .map [("user", .map [("name", .string "Ada"), ("age", .int 6)])]
    let old : Value :=
      .map [("user", .map [("age", .int 66), ("name", .string "Ada")]),
        ("visits", .map [("total", .int 7)])]
    let environment : Environment := { state := young }
    environment.AgreesOn old greeting ∧
      ({ state := old } : Environment).evaluate greeting =
        environment.evaluate greeting ∧
      environment.evaluate greeting =
        some (.list [.string "Hi Ada", .null]) := by
  intro young old environment
  have agrees : environment.AgreesOn old greeting := by
    intro path mentions
    rcases mentions_greeting mentions with rfl | rfl <;> rfl
  exact ⟨agrees, evaluate_of_agreesOn agrees, rfl⟩

end Environment

end Mockup
