import Mockup.AppDocument.Reader
import Mockup.Proofs.Json.Fields
import Mockup.Proofs.Json.Lockstep

namespace Mockup

/-!
# What the reader of a document looks at

The shape of a document lists all that its reader looks at.  So what is read
from a text does not depend on whether the text is held to the grammar alone
where nobody looks, once it can be read as a whole.
-/

namespace Json

/-- The reader looks only at the parts in a shape. -/
def LooksOnlyAt
    (shape : Shape)
    (read? : Json → Option α) :
    Prop :=
  ∀ left right, left.AgreesOn (some shape) right → read? left = read? right

/-! ## Values, lists and maps -/

theorem looksOnlyAt_whole
    (read? : Json → Option α) :
    LooksOnlyAt .whole read? :=
  fun _ _ agrees => congrArg read? agrees.eq_of_whole.1

/-- What is read from the items of lists that agree. -/
theorem mapM_eq_of_agree
    {read? : α → Option β}
    {lefts rights : List α}
    (sameLength : lefts.length = rights.length)
    (each :
      ∀ (index : Nat) left right,
        lefts[index]? = some left →
        rights[index]? = some right →
        read? left = read? right) :
    lefts.mapM read? = rights.mapM read? := by
  induction lefts generalizing rights with
  | nil =>
      rw [List.eq_nil_of_length_eq_zero sameLength.symm]
  | cons left lefts inductionHypothesis =>
      cases rights with
      | nil =>
          simp at sameLength
      | cons right rights =>
          rw [List.mapM_cons, List.mapM_cons, each 0 left right rfl rfl,
            inductionHypothesis (by simpa using sameLength)
              fun index => each (index + 1)]

theorem LooksOnlyAt.list
    {part : Shape}
    {read? : Json → Option α}
    (looks : LooksOnlyAt part read?) :
    LooksOnlyAt (.each part) (asList? read?) := by
  intro left right agrees
  cases agrees with
  | scalar _ =>
      rfl
  | array sameLength items =>
      exact mapM_eq_of_agree sameLength
        fun index left right atLeft atRight =>
          looks left right (items index left right atLeft atRight)
  | object _ _ =>
      rfl

theorem LooksOnlyAt.entries
    {part : Shape}
    {read? : Json → Option α}
    (looks : LooksOnlyAt part read?) :
    LooksOnlyAt (.each part) (asEntries? read?) := by
  intro left right agrees
  cases agrees with
  | scalar _ =>
      rfl
  | array _ _ =>
      rfl
  | @object _ lefts rights sameNames members =>
      refine congrArg (Option.map Entries.ofList)
        (mapM_eq_of_agree (Entries.length_eq_of_names_eq sameNames) ?_)
      intro index left right atLeft atRight
      have sameName :=
        Entries.name_eq_of_names_eq sameNames atLeft atRight
      rw [looks left.2 right.2 (members index left right atLeft atRight),
        sameName]

/-! ## Records -/

/-- The shape of a field, the whole of it unless it is listed. -/
def Shape.field
    (listed : List (String × Shape))
    (name : String) :
    Shape :=
  (listed.lookup name).getD .whole

/-- Members that agree on every field of a record. -/
def FieldsAgree
    (names : List String)
    (listed : List (String × Shape))
    (lefts rights : Entries Json) :
    Prop :=
  ∀ name ∈ names,
    Option.Rel (AgreesOn (some (Shape.field listed name)))
      (Entries.get? lefts name) (Entries.get? rights name)

/-- What stands under a name when two lists of entries have the same names. -/
theorem get?_rel
    (related : String → Json → Json → Prop)
    {lefts rights : Entries Json}
    (sameNames : Entries.names lefts = Entries.names rights)
    (each :
      ∀ (index : Nat) left right,
        lefts[index]? = some left →
        rights[index]? = some right →
        related left.1 left.2 right.2)
    (name : String) :
    Option.Rel (related name)
      (Entries.get? lefts name) (Entries.get? rights name) := by
  induction lefts generalizing rights with
  | nil =>
      cases rights with
      | nil =>
          exact .none
      | cons right rights =>
          simp at sameNames
  | cons left lefts inductionHypothesis =>
      cases rights with
      | nil =>
          simp at sameNames
      | cons right rights =>
          rw [Entries.names_cons, Entries.names_cons,
            List.cons.injEq] at sameNames
          rw [Entries.get?, Entries.get?, ← sameNames.1]
          split
          · rename_i isName
            exact .some (isName ▸ each 0 left right rfl rfl)
          · exact inductionHypothesis sameNames.2
              fun index => each (index + 1)

theorem isUnrepeated_eq
    {lefts rights : Entries Json}
    (sameNames : Entries.names lefts = Entries.names rights)
    (name : String) :
    isUnrepeated lefts name = isUnrepeated rights name := by
  rw [Bool.eq_iff_iff, isUnrepeated_iff, isUnrepeated_iff, sameNames]

theorem Shape.item?_ofNames
    (names : List String)
    (listed : List (String × Shape))
    (index : Nat) :
    (Shape.ofNames names listed).item? index =
      names[index]?.map (Shape.field listed) := by
  rw [ofNames, item?, List.getElem?_map, Option.map_map]
  rfl

theorem Shape.member?_ofNames
    {names : List String}
    (listed : List (String × Shape))
    {name : String}
    (known : name ∈ names) :
    (Shape.ofNames names listed).member? name =
      some (Shape.field listed name) := by
  unfold ofNames member?
  simp only
  induction names with
  | nil =>
      simp at known
  | cons head names inductionHypothesis =>
      by_cases same : name = head
      · simp [same, field]
      · have inRest : name ∈ names := by
          simpa [same] using known
        have isOther : (name == head) = false := by
          simpa using same
        simpa [List.lookup_cons, isOther] using inductionHypothesis inRest

/-- A record is looked at field by field. -/
theorem LooksOnlyAt.record
    {names : List String}
    {listed : List (String × Shape)}
    {read? : Entries Json → Option α}
    (looks :
      ∀ lefts rights,
        FieldsAgree names listed lefts rights →
        read? lefts = read? rights) :
    LooksOnlyAt (.ofNames names listed)
      fun json => json.record? names >>= read? := by
  intro left right agrees
  cases agrees with
  | scalar _ =>
      rfl
  | @array _ lefts rights sameLength items =>
      simp only [record?, ← sameLength]
      split
      · rename_i few
        refine looks _ _ fun name _ => ?_
        have sameNames :
            Entries.names (names.zip lefts) =
              Entries.names (names.zip rights) :=
          List.ext_getElem (by simp [Entries.names, sameLength])
            fun index inLefts inRights => by simp [Entries.names]
        refine get?_rel
          (fun name => AgreesOn (some (Shape.field listed name)))
          sameNames (fun index left right atLeft atRight => ?_) name
        rw [List.getElem?_zip_eq_some] at atLeft atRight
        have agrees :=
          items index left.2 right.2 atLeft.2 atRight.2
        rwa [Shape.item?_ofNames, atLeft.1] at agrees
      · rfl
  | @object _ lefts rights sameNames members =>
      have sameUnrepeated :
          names.all (isUnrepeated lefts) =
            names.all (isUnrepeated rights) :=
        congrArg names.all (funext (isUnrepeated_eq sameNames))
      simp only [record?, members?, sameUnrepeated]
      split
      · refine looks _ _ fun name known => ?_
        have found :=
          get?_rel
            (fun name =>
              AgreesOn ((Shape.ofNames names listed).member? name))
            sameNames members name
        rwa [Shape.member?_ofNames listed known] at found
      · rfl

namespace FieldsAgree

variable
  {names : List String}
  {listed : List (String × Shape)}
  {lefts rights : Entries Json}
  (agree : FieldsAgree names listed lefts rights)
  (name : String)
  (known : name ∈ names)

include agree known

/-- Whatever looks at a field in its shape only sees the same. -/
theorem look
    (look? : Option Json → Option α)
    (same :
      ∀ left right,
        AgreesOn (some (Shape.field listed name)) left right →
        look? (some left) = look? (some right)) :
    look? (Entries.get? lefts name) = look? (Entries.get? rights name) := by
  have field := agree name known
  generalize Entries.get? lefts name = left at field ⊢
  generalize Entries.get? rights name = right at field ⊢
  cases field with
  | none =>
      rfl
  | some agrees =>
      exact same _ _ agrees

variable
  {read? : Json → Option α}
  (looks : LooksOnlyAt (Shape.field listed name) read?)

include looks

theorem required? :
    Json.required? lefts name read? = Json.required? rights name read? :=
  agree.look name known (·.bind read?) looks

theorem defaulted?
    (default : α) :
    Json.defaulted? lefts name default read? =
      Json.defaulted? rights name default read? :=
  agree.look name known (lookDefaulted default read?) looks

theorem optional? :
    Json.optional? lefts name read? = Json.optional? rights name read? := by
  refine agree.look name known (lookOptional read?)
    fun left right agrees => ?_
  have same := looks _ _ agrees
  cases agrees with
  | scalar _ =>
      rfl
  | array _ _ =>
      exact congrArg (Option.map some) same
  | object _ _ =>
      exact congrArg (Option.map some) same

end FieldsAgree

end Json

/-! ## The parts of a document -/

open Json (LooksOnlyAt looksOnlyAt_whole)

theorem Page.looksOnlyAt :
    LooksOnlyAt shape ofJson? := by
  refine .record fun lefts rights agree => ?_
  rw [agree.required? "id" (by decide) (looksOnlyAt_whole _),
    agree.defaulted? "name" (by decide) (looksOnlyAt_whole _),
    agree.defaulted? "componentTree" (by decide) (looksOnlyAt_whole _)]

theorem Router.looksOnlyAt :
    LooksOnlyAt shape ofJson? := by
  refine .record fun lefts rights agree => ?_
  rw [agree.defaulted? "mode" (by decide) (looksOnlyAt_whole _),
    agree.defaulted? "initialPageId" (by decide) (looksOnlyAt_whole _),
    agree.optional? "historyLimit" (by decide) (looksOnlyAt_whole _)]

theorem TabItem.looksOnlyAt :
    LooksOnlyAt shape ofJson? := by
  refine .record fun lefts rights agree => ?_
  rw [agree.defaulted? "title" (by decide) (looksOnlyAt_whole _),
    agree.required? "pageId" (by decide) (looksOnlyAt_whole _),
    agree.optional? "icon" (by decide) (looksOnlyAt_whole _),
    agree.optional? "selectedIcon" (by decide) (looksOnlyAt_whole _),
    agree.defaulted? "disabled" (by decide) (looksOnlyAt_whole _)]

theorem TabBar.looksOnlyAt :
    LooksOnlyAt shape ofJson? := by
  refine .record fun lefts rights agree => ?_
  rw [agree.defaulted? "selectedIndex" (by decide) (looksOnlyAt_whole _),
    agree.defaulted? "items" (by decide) TabItem.looksOnlyAt.list]

theorem ModalButton.looksOnlyAt
    (readAction? : Json → Option α) :
    LooksOnlyAt (.ofNames fieldNames []) (ofJson? readAction?) := by
  refine .record fun lefts rights agree => ?_
  rw [agree.required? "text" (by decide) (looksOnlyAt_whole _),
    agree.optional? "type" (by decide) (looksOnlyAt_whole _),
    agree.optional? "onClickAction" (by decide) (looksOnlyAt_whole _)]

theorem Modal.looksOnlyAt
    (readAction? : Json → Option α) :
    LooksOnlyAt shape (ofJson? readAction?) := by
  refine .record fun lefts rights agree => ?_
  rw [agree.defaulted? "title" (by decide) (looksOnlyAt_whole _),
    agree.defaulted? "content" (by decide) (looksOnlyAt_whole _),
    agree.defaulted? "closable" (by decide) (looksOnlyAt_whole _),
    agree.defaulted? "maskClosable" (by decide) (looksOnlyAt_whole _),
    agree.defaulted? "buttons" (by decide)
      (ModalButton.looksOnlyAt readAction?).list]

theorem SheetItem.looksOnlyAt
    (readAction? : Json → Option α) :
    LooksOnlyAt (.ofNames fieldNames []) (ofJson? readAction?) := by
  refine .record fun lefts rights agree => ?_
  rw [agree.required? "text" (by decide) (looksOnlyAt_whole _),
    agree.optional? "color" (by decide) (looksOnlyAt_whole _),
    agree.optional? "action" (by decide) (looksOnlyAt_whole _)]

theorem ActionSheet.looksOnlyAt
    (readAction? : Json → Option α) :
    LooksOnlyAt shape (ofJson? readAction?) := by
  refine .record fun lefts rights agree => ?_
  rw [agree.optional? "title" (by decide) (looksOnlyAt_whole _),
    agree.defaulted? "items" (by decide)
      (SheetItem.looksOnlyAt readAction?).list,
    agree.optional? "cancelText" (by decide) (looksOnlyAt_whole _)]

theorem ToastSpec.looksOnlyAt :
    LooksOnlyAt shape ofJson? := by
  refine .record fun lefts rights agree => ?_
  rw [agree.defaulted? "message" (by decide) (looksOnlyAt_whole _),
    agree.optional? "duration" (by decide) (looksOnlyAt_whole _),
    agree.optional? "type" (by decide) (looksOnlyAt_whole _),
    agree.optional? "position" (by decide) (looksOnlyAt_whole _)]

namespace AppDocument

theorem looksOnlyAt :
    LooksOnlyAt shape ofJson? := by
  refine .record fun lefts rights agree => ?_
  rw [agree.defaulted? "id" (by decide) (looksOnlyAt_whole _),
    agree.defaulted? "name" (by decide) (looksOnlyAt_whole _),
    agree.defaulted? "version" (by decide) (looksOnlyAt_whole _),
    agree.defaulted? "pages" (by decide) Page.looksOnlyAt.list,
    agree.defaulted? "router" (by decide) Router.looksOnlyAt,
    agree.optional? "tabBar" (by decide) TabBar.looksOnlyAt,
    agree.defaulted? "modals" (by decide)
      (Modal.looksOnlyAt Action.ofJson?).entries,
    agree.defaulted? "actionSheets" (by decide)
      (ActionSheet.looksOnlyAt Action.ofJson?).entries,
    agree.defaulted? "toasts" (by decide) ToastSpec.looksOnlyAt.entries,
    agree.defaulted? "state" (by decide) (looksOnlyAt_whole _)]

/-- A text that can be read as a whole is read as a document from there. -/
theorem ofText?_eq_ofJson?
    {text : String}
    {json : Json}
    (reads : Json.read text = .ok json) :
    ofText? text = ofJson? json := by
  obtain ⟨other, readsShaped, agrees⟩ :=
    Json.readShaped_of_read reads shape
  rw [ofText?, readsShaped]
  exact (looksOnlyAt json other agrees).symm

end AppDocument

end Mockup
