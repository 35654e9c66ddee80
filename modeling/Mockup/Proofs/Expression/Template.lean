import Mockup.Expression.Evaluation

namespace Mockup

/-!
# What templates render to

A template is plain text with tokens in it.  It is rendered token by token: the
plain text stays as it is, and each token gives way to the text of the state
value at its path.  What is put in its place is not looked at again, whatever
it may look like.
-/

/-- A token of a template, and the plain text up to the next one. -/
structure TemplateToken where
  path : String
  after : String
  deriving Repr, DecidableEq

namespace TemplateToken

/-- How a token is written, with the plain text after it. -/
def text
    (token : TemplateToken) :
    String :=
  "$\x7b" ++ token.path ++ "\x7d" ++ token.after

/--
There is something between the braces of a token, its first closing brace ends
it, and no other token begins in the plain text after it.
-/
structure IsProper
    (token : TemplateToken) :
    Prop where
  named :
    token.path ≠ ""
  unclosed :
    TemplatePiece.closing ∉ token.path.toList
  plain :
    '$' ∉ token.after.toList

theorem toList_text
    (token : TemplateToken) :
    token.text.toList =
      '$' :: '\x7b' ::
        (token.path.toList ++
          TemplatePiece.closing :: token.after.toList) := by
  simp [text, TemplatePiece.closing]

end TemplateToken

namespace TemplatePiece

/-! ## Finding the tokens -/

/-- Characters before which no token begins are kept one by one. -/
theorem scan_plain
    {chars : List Char}
    (plain : '$' ∉ chars)
    (rest : List Char) :
    scan none (chars ++ rest) =
      chars.map (fun char => .literal [char]) ++ scan none rest := by
  induction chars with
  | nil =>
      rfl
  | cons char chars inductionHypothesis =>
      simp only [List.mem_cons, not_or] at plain
      obtain ⟨noDollar, plainRest⟩ := plain
      have later := inductionHypothesis plainRest
      rw [List.cons_append, List.map_cons, List.cons_append, ← later]
      cases chars ++ rest with
      | nil =>
          rfl
      | cons next more =>
          have notOpening : [char, next] ≠ opening := by
            intro isOpening
            cases isOpening
            exact noDollar rfl
          simp only [scan, if_neg notOpening]

/-- An open token goes on to the first closing brace. -/
theorem scan_open
    {reversed path : List Char}
    (unclosed : closing ∉ path)
    (named : reversed.reverse ++ path ≠ [])
    (rest : List Char) :
    scan (some reversed) (path ++ closing :: rest) =
      .token (reversed.reverse ++ path) :: scan none rest := by
  induction path generalizing reversed with
  | nil =>
      have nonempty : reversed ≠ [] := by
        simpa using named
      cases rest <;> simp [scan, nonempty]
  | cons char path inductionHypothesis =>
      simp only [List.mem_cons, not_or] at unclosed
      obtain ⟨notClosing, unclosedRest⟩ := unclosed
      have stillNamed : (char :: reversed).reverse ++ path ≠ [] := by
        simp
      have later := inductionHypothesis unclosedRest stillNamed
      cases shape : path ++ closing :: rest with
      | nil =>
          simp at shape
      | cons next more =>
          rw [shape] at later
          simp only [List.cons_append, shape, scan,
            if_neg (Ne.symm notClosing), later]
          simp

/-- A proper token is found, whatever is written between its braces. -/
theorem scan_token
    {token : TemplateToken}
    (proper : token.IsProper)
    (rest : List Char) :
    scan none (token.text.toList ++ rest) =
      .token token.path.toList ::
        (token.after.toList.map fun char => .literal [char]) ++
          scan none rest := by
  have named : [].reverse ++ token.path.toList ≠ [] := by
    simpa using proper.named
  have found :=
    scan_open proper.unclosed named (token.after.toList ++ rest)
  rw [scan_plain proper.plain] at found
  rw [TemplateToken.toList_text]
  simpa [scan, opening] using found

/-- The pieces of a template are its plain text and its tokens, in order. -/
theorem ofText_template
    {first : String}
    (plain : '$' ∉ first.toList)
    {tokens : List TemplateToken}
    (proper : ∀ token ∈ tokens, token.IsProper) :
    ofText (first ++ String.join (tokens.map TemplateToken.text)) =
      (first.toList.map fun char => .literal [char]) ++
        tokens.flatMap fun token =>
          .token token.path.toList ::
            token.after.toList.map fun char => .literal [char] := by
  have inTurn :
      scan none
          (String.join (tokens.map TemplateToken.text)).toList =
        tokens.flatMap fun token =>
          .token token.path.toList ::
            token.after.toList.map fun char => .literal [char] := by
    induction tokens with
    | nil =>
        rfl
    | cons token tokens inductionHypothesis =>
        rw [List.map_cons, String.join_cons, String.toList_append,
          scan_token (proper token List.mem_cons_self),
          inductionHypothesis fun other member =>
            proper other (List.mem_cons_of_mem _ member)]
        rfl
  rw [ofText, String.toList_append, scan_plain plain, inTurn]

end TemplatePiece

namespace Environment

/-! ## Rendering -/

/--
The text that stands for a token: of the state value at the path between its
braces without the blanks around it, and nothing when there is no path or no
such value.
-/
def textAt
    (environment : Environment)
    (path : String) :
    String :=
  let trimmed := String.ofList (Text.trim path.toList)
  if trimmed = "" then
    ""
  else
    match Path.resolveSlash? environment.state trimmed with
    | some value =>
        value.display
    | none =>
        ""

theorem pieceText_token
    (environment : Environment)
    (path : String) :
    environment.pieceText (.token path.toList) =
      environment.textAt path := by
  simp only [pieceText, textAt, resolve?]
  split <;> split <;> simp_all

/-- Plain text is rendered as it is. -/
theorem join_pieceText_plain
    (environment : Environment)
    (chars : List Char) :
    String.join
        ((chars.map fun char => TemplatePiece.literal [char]).map
          environment.pieceText) =
      String.ofList chars := by
  rw [← String.toList_inj]
  simp [pieceText, List.flatMap_map]

/--
Templates are rendered token by token.  Plain text without a dollar sign is
kept, and each token gives way to the text of the state value at its path, once
and for all: the text that is put in is not looked at again, though there may
be dollar signs and braces in it, as there may be opening ones in the path.
-/
theorem render_template
    (environment : Environment)
    {first : String}
    (plain : '$' ∉ first.toList)
    {tokens : List TemplateToken}
    (proper : ∀ token ∈ tokens, token.IsProper) :
    environment.render
        (first ++ String.join (tokens.map TemplateToken.text)) =
      first ++
        String.join
          (tokens.map fun token =>
            environment.textAt token.path ++ token.after) := by
  have inTurn :
      String.join
          ((tokens.flatMap fun token =>
            .token token.path.toList ::
              token.after.toList.map fun char =>
                TemplatePiece.literal [char]).map environment.pieceText) =
        String.join
          (tokens.map fun token =>
            environment.textAt token.path ++ token.after) := by
    clear proper
    induction tokens with
    | nil =>
        rfl
    | cons token tokens inductionHypothesis =>
        rw [List.flatMap_cons, List.cons_append, List.map_cons,
          List.map_append, String.join_cons, String.join_append,
          inductionHypothesis, pieceText_token, join_pieceText_plain,
          String.ofList_toList, List.map_cons, String.join_cons,
          String.append_assoc]
  rw [render, TemplatePiece.ofText_template plain proper,
    List.map_append, String.join_append, join_pieceText_plain, inTurn,
    String.ofList_toList]

/-- A state in which a text looks like a token, and a key begins like one. -/
def lookalikes : Environment where
  state :=
    .map
      [("a", .string "$\x7bb\x7d"), ("b", .int 9), ("$\x7bb", .int 7)]

/-- A text that looks like a token is put in as it is. -/
theorem render_template_lookalikes :
    let tokens : List TemplateToken :=
      [⟨" a ", " 2 "⟩, ⟨"$\x7bb", " 3 "⟩, ⟨" ", " 4"⟩]
    (∀ token ∈ tokens, token.IsProper) ∧
      lookalikes.render
          ("1 " ++ String.join (tokens.map TemplateToken.text)) =
        "1 $\x7bb\x7d 2 7 3  4" := by
  intro tokens
  have plain : '$' ∉ "1 ".toList := by
    decide
  have proper : ∀ token ∈ tokens, token.IsProper := by
    simp only [tokens, List.forall_mem_cons, List.not_mem_nil,
      false_implies, implies_true, and_true]
    exact ⟨⟨by decide, by decide, by decide⟩,
      ⟨by decide, by decide, by decide⟩,
      ⟨by decide, by decide, by decide⟩⟩
  refine ⟨proper, ?_⟩
  rw [render_template lookalikes plain proper]
  decide +kernel

end Environment

end Mockup
