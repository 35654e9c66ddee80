import Mockup.Proofs.Action.Codec

namespace Mockup

/-!
# Nested actions

The reader of actions asks how deep they are nested at most.  The depth of
the tree is always enough: a reader that may go deeper reads the same.  So
the readers for all depths are one, and it belongs to the writer of actions.
-/

open Json (IsCodec IsPresent IsRest)

namespace Json

/-! ## Depth -/

theorem depth_lt_of_mem_items
    {items : List Json}
    {item : Json}
    (member : item ∈ items) :
    item.depth < (array items).depth := by
  have within : item.depth ≤ depthItems items := by
    induction items with
    | nil =>
        cases member
    | cons first items inductionHypothesis =>
        rw [depthItems]
        rcases List.mem_cons.mp member with rfl | inRest
        · exact Nat.le_max_left _ _
        · exact Nat.le_trans (inductionHypothesis inRest)
            (Nat.le_max_right _ _)
  exact Nat.lt_succ_of_le within

theorem depth_lt_of_mem_fields
    {fields : Entries Json}
    {field : String × Json}
    (member : field ∈ fields) :
    field.2.depth < (object fields).depth := by
  have within : field.2.depth ≤ depthFields fields := by
    induction fields with
    | nil =>
        cases member
    | cons first fields inductionHypothesis =>
        obtain ⟨name, value⟩ := first
        rw [depthFields]
        rcases List.mem_cons.mp member with rfl | inRest
        · exact Nat.le_max_left _ _
        · exact Nat.le_trans (inductionHypothesis inRest)
            (Nat.le_max_right _ _)
  exact Nat.lt_succ_of_le within

/-- The fields of a record are less deep than the record. -/
theorem depth_lt_of_record?
    {names : List String}
    {json : Json}
    {fields : Entries Json}
    (isRecord : json.record? names = some fields)
    {field : String × Json}
    (member : field ∈ fields) :
    field.2.depth < json.depth := by
  cases json with
  | array items =>
      obtain ⟨_, same⟩ := Option.ite_none_right_eq_some.mp isRecord
      cases same
      exact depth_lt_of_mem_items (List.of_mem_zip member).2
  | object sources =>
      obtain ⟨_, same⟩ := Option.ite_none_right_eq_some.mp isRecord
      cases same
      exact depth_lt_of_mem_fields member
  | _ =>
      cases isRecord

/-! ## Readers that are the same for what is not so deep -/

/-- Two readers read the same where a tree is less deep. -/
def SameBelow
    (depth : Nat)
    (left right : Json → Option α) :
    Prop :=
  ∀ json : Json, json.depth < depth → left json = right json

/-- A record reads the same when its fields do. -/
theorem sameBelow_record
    {depth : Nat}
    {names : List String}
    {readLeft? readRight? : Entries Json → Option α}
    (sameFields :
      ∀ fields : Entries Json,
        (∀ field ∈ fields, field.2.depth < depth) →
        readLeft? fields = readRight? fields) :
    SameBelow depth
      (fun json => json.record? names >>= readLeft?)
      (fun json => json.record? names >>= readRight?) := by
  intro json isLess
  cases isRecord : json.record? names with
  | none =>
      simp only [isRecord]
      rfl
  | some fields =>
      simp only [isRecord]
      refine sameFields fields fun field member => ?_
      exact Nat.lt_trans (depth_lt_of_record? isRecord member) isLess

variable
  {depth : Nat}
  {left right : Json → Option α}
  (same : SameBelow depth left right)
include same

theorem optional?_congr
    {fields : Entries Json}
    (below : ∀ field ∈ fields, field.2.depth < depth)
    (name : String) :
    optional? fields name left = optional? fields name right := by
  unfold optional?
  split
  · rfl
  · rfl
  · rename_i json _ found
    rw [same json (below _ (Entries.mem_of_get?_eq_some found))]

theorem defaulted?_congr
    {fields : Entries Json}
    (below : ∀ field ∈ fields, field.2.depth < depth)
    (name : String)
    (default : α) :
    defaulted? fields name default left =
      defaulted? fields name default right := by
  unfold defaulted?
  split
  · rfl
  · rename_i json found
    exact same json (below _ (Entries.mem_of_get?_eq_some found))

theorem asList?_congr
    {json : Json}
    (below : json.depth ≤ depth) :
    asList? left json = asList? right json := by
  cases json with
  | array items =>
      have sameItems : ∀ item ∈ items, left item = right item :=
        fun item member => same item
          (Nat.lt_of_lt_of_le (depth_lt_of_mem_items member) below)
      simp only [asList?]
      clear below
      induction items with
      | nil =>
          rfl
      | cons item items inductionHypothesis =>
          obtain ⟨sameItem, sameRest⟩ := List.forall_mem_cons.mp sameItems
          rw [List.mapM_cons, List.mapM_cons, sameItem,
            inductionHypothesis sameRest]
  | _ =>
      rfl

end Json

/-! ## Overlays -/

section

open Json (SameBelow)

variable
  {depth : Nat}
  {left right : Json → Option α}
  (same : SameBelow depth left right)
include same

theorem ModalButton.sameBelow_ofJson? :
    SameBelow depth (ofJson? left) (ofJson? right) := by
  refine Json.sameBelow_record fun fields below => ?_
  simp only [Json.optional?_congr same below]

theorem Modal.sameBelow_ofJson? :
    SameBelow depth (ofJson? left) (ofJson? right) := by
  refine Json.sameBelow_record fun fields below => ?_
  have buttons :
      SameBelow depth
        (Json.asList? (ModalButton.ofJson? left))
        (Json.asList? (ModalButton.ofJson? right)) :=
    fun json isLess =>
      Json.asList?_congr (ModalButton.sameBelow_ofJson? same)
        (Nat.le_of_lt isLess)
  simp only [Json.defaulted?_congr buttons below]

theorem SheetItem.sameBelow_ofJson? :
    SameBelow depth (ofJson? left) (ofJson? right) := by
  refine Json.sameBelow_record fun fields below => ?_
  simp only [Json.optional?_congr same below]

theorem ActionSheet.sameBelow_ofJson? :
    SameBelow depth (ofJson? left) (ofJson? right) := by
  refine Json.sameBelow_record fun fields below => ?_
  have items :
      SameBelow depth
        (Json.asList? (SheetItem.ofJson? left))
        (Json.asList? (SheetItem.ofJson? right)) :=
    fun json isLess =>
      Json.asList?_congr (SheetItem.sameBelow_ofJson? same)
        (Nat.le_of_lt isLess)
  simp only [Json.defaulted?_congr items below]

theorem ActionKind.ofFields?_congr
    {fields : Entries Json}
    (below : ∀ field ∈ fields, field.2.depth < depth)
    (name : String) :
    ofFields? left name fields = ofFields? right name fields := by
  unfold ofFields?
  split <;>
    simp only [Json.optional?_congr same below,
      Json.optional?_congr (Modal.sameBelow_ofJson? same) below,
      Json.optional?_congr (ActionSheet.sameBelow_ofJson? same) below]

end

/-! ## Actions -/

namespace Action

/-- Read the members of an action, the actions inside with `readAction?`. -/
def ofMembers?
    (readAction? : Json → Option Action)
    (fields : Entries Json) :
    Option Action := do
  let name ← Json.required? fields "type" ActionKind.writtenTag?
  let kind ← ActionKind.ofFields? readAction? name fields
  let params ← Json.defaulted? fields "params" [] Json.asMap?
  let onError ← Json.optional? fields "errorAction" readAction?
  some ⟨kind, params, onError⟩

/-- The kind of an action may as well be read by its written name. -/
theorem readNested?_succ
    (nesting : Nat)
    (json : Json) :
    readNested? (nesting + 1) json =
      json.members? ["type", "params", "errorAction"] >>=
        ofMembers? (readNested? nesting) := by
  have byWrittenName :
      ∀ {next : String → Option Action} (fields : Entries Json),
        (∀ name, next (ActionKind.writtenName name) = next name) →
        (Json.required? fields "type" ActionKind.tag?).bind next =
          (Json.required? fields "type" ActionKind.writtenTag?).bind
            next := by
    intro next fields same
    unfold Json.required? ActionKind.writtenTag?
    cases Entries.get? fields "type" with
    | none =>
        rfl
    | some tag =>
        cases isTag : ActionKind.tag? tag with
        | none =>
            simp [isTag]
        | some name =>
            simp [isTag, same]
  rw [readNested?]
  cases json.members? ["type", "params", "errorAction"] with
  | none =>
      rfl
  | some fields =>
      refine byWrittenName fields fun name => ?_
      simp only [ActionKind.ofFields?_writtenName]

/-- Readers that may go deep enough read the same. -/
theorem readNested?_eq
    {nesting other : Nat}
    {json : Json}
    (enough : json.depth ≤ nesting)
    (otherEnough : json.depth ≤ other) :
    readNested? nesting json = readNested? other json := by
  have noObject :
      ∀ {json : Json} (nesting : Nat),
        (∀ fields, json ≠ .object fields) →
        readNested? nesting json = none := by
    intro json nesting isOther
    cases nesting with
    | zero =>
        rfl
    | succ nesting =>
        cases json with
        | object fields =>
            exact absurd rfl (isOther fields)
        | _ =>
            rfl
  induction nesting generalizing other json with
  | zero =>
      have flat : ∀ fields, json ≠ .object fields := by
        rintro fields rfl
        exact absurd enough (Nat.not_succ_le_zero _)
      rw [noObject _ flat, noObject _ flat]
  | succ nesting inductionHypothesis =>
      cases json with
      | object fields =>
          obtain ⟨other, rfl⟩ :=
            Nat.exists_eq_succ_of_ne_zero
              (Nat.ne_of_gt (Nat.lt_of_lt_of_le
                (Nat.succ_pos _) otherEnough))
          have below :
              ∀ field ∈ fields,
                field.2.depth < Json.depthFields fields + 1 :=
            fun field member => Json.depth_lt_of_mem_fields member
          have same :
              Json.SameBelow (Json.depthFields fields + 1)
                (readNested? nesting) (readNested? other) := by
            intro part isLess
            rw [Json.depth] at enough otherEnough
            exact inductionHypothesis (by omega) (by omega)
          have sameOptional := Json.optional?_congr same below
          have sameKind := ActionKind.ofFields?_congr same below
          simp only [readNested?, Json.members?]
          split
          · simp only [Option.bind_eq_bind, Option.bind_some, sameOptional,
              sameKind]
          · rfl
      | _ =>
          rw [noObject _ (by simp), noObject _ (by simp)]

/-- An action is always written as an object. -/
theorem isPresent
    (readAction? : Json → Option Action) :
    IsPresent readAction? toJson := by
  refine Json.isPresent_of_object fun action => ?_
  cases action
  exact ⟨_, rfl⟩

/-- The members of an action are read as they are written. -/
theorem isRest_ofMembers?
    {readAction? : Json → Option Action}
    (codec : IsCodec readAction? toJson) :
    IsRest toJson
      ("type" :: (ActionKind.fieldNames ++ ["params", "errorAction"]))
      [] [] (ofMembers? readAction?) (ofMembers? readAction?) := by
  have paramsAre :
      ∀ params : Entries Value, ∃ members,
        Json.object (Json.ofFields params) = .object members ∧
          members.length = params.length := by
    intro params
    refine ⟨_, rfl, ?_⟩
    rw [Json.ofFields_eq_mapValues, Entries.mapValues, List.length_map]
  refine .field ActionKind.isCodec_writtenTag.required (by decide) ?_
  rintro name arranged same ⟨tag, isTag⟩
  -- The name of the kind is the same in the arranged action.
  obtain rfl : arranged = name := by
    simpa [Json.sorted] using same
  have written : ActionKind.IsWritten arranged := by
    obtain ⟨_, _, reads⟩ := Option.bind_eq_some_iff.mp isTag
    obtain ⟨given, _, rfl⟩ := Option.map_eq_some_iff.mp reads
    exact ActionKind.isWritten_writtenName given
  refine .andThen
    (ActionKind.isRest_ofFields? codec (isPresent _) written)
    (by decide) ?_
  rintro kind arrangedKind _ _ ⟨⟩ ⟨⟩
  refine .unlessEmpty Json.isCodec_map paramsAre (by decide) ?_
  intro params arrangedParams
  refine .optional codec (by decide) (isPresent _) ?_
  intro onError arrangedOnError
  refine .finish ?_ ?_ <;>
    rw [toJson, optionalMember_eq]

theorem isCodec_readNested?
    (nesting : Nat) :
    IsCodec (readNested? nesting) toJson := by
  induction nesting with
  | zero =>
      rintro json action _ ⟨⟩
  | succ nesting inductionHypothesis =>
      have codec :=
        (isRest_ofMembers? inductionHypothesis).isCodec
          (Json.takesMembers_members ["type", "params", "errorAction"])
      have same :
          readNested? (nesting + 1) = fun json =>
            json.members? ["type", "params", "errorAction"] >>=
              ofMembers? (readNested? nesting) :=
        funext (readNested?_succ nesting)
      exact same ▸ codec

/-- The reader and the writer of actions belong together. -/
theorem isCodec :
    IsCodec ofJson? toJson := by
  intro json action exact reads
  -- One bound on the nesting is enough for all the trees that are read.
  let enough :=
    max json.depth (max json.sorted.depth (toJson action).sorted.depth)
  have readsEnough :
      ∀ {tree : Json},
        tree.depth ≤ enough →
        ofJson? tree = readNested? enough tree :=
    fun isEnough => readNested?_eq (Nat.le_refl _) isEnough
  rw [readsEnough (by omega)] at reads
  obtain ⟨exactWrite, arranged, same, readsSorted, rereads⟩ :=
    isCodec_readNested? enough json action exact reads
  refine ⟨exactWrite, arranged, same, ?_, ?_⟩
  · rwa [readsEnough (by omega)]
  · rwa [readsEnough (by omega)]

end Action

end Mockup
