import Mockup.Action.Writer
import Mockup.Proofs.Json.Fields

namespace Mockup

/-!
# Overlays as they are read and written

The readers and the writers of toasts, modals and action sheets belong
together, as long as those of the actions inside them do.
-/

open Json (IsCodec IsPresent IsRest)

theorem ToastSpec.isCodec :
    IsCodec ofJson? toJson := by
  refine .record fieldNames (by decide) ?_
  refine .defaulted Json.isCodec_string (by decide) (.string _) rfl ?_
  intro message arrangedMessage
  refine .optional Json.isCodec_count (by decide) Json.isPresent_count ?_
  intro duration arrangedDuration
  refine .optional Json.isCodec_string (by decide) Json.isPresent_string ?_
  intro kind arrangedKind
  refine .optional Json.isCodec_string (by decide) Json.isPresent_string ?_
  intro position arrangedPosition
  exact .finish rfl rfl

/-! ## Writing with any writer of actions -/

/-- Write a button, its action with `write`. -/
def ModalButton.toJson
    (write : α → Json)
    (button : ModalButton α) :
    Json :=
  .object
    ([("text", .string button.text)] ++
      Json.optionalMember "type" Json.string button.kind ++
      Json.optionalMember "onClickAction" write button.onClick)

/-- Write a modal, the actions of its buttons with `write`. -/
def Modal.toJson
    (write : α → Json)
    (modal : Modal α) :
    Json :=
  .object
    [("title", .string modal.title), ("content", .string modal.content),
      ("closable", .bool modal.closable),
      ("maskClosable", .bool modal.maskClosable),
      ("buttons", .array (modal.buttons.map (ModalButton.toJson write)))]

/-- Write an item, its action with `write`. -/
def SheetItem.toJson
    (write : α → Json)
    (item : SheetItem α) :
    Json :=
  .object
    ([("text", .string item.text)] ++
      Json.optionalMember "color" Json.string item.color ++
      Json.optionalMember "action" write item.action)

/-- Write an action sheet, the actions of its items with `write`. -/
def ActionSheet.toJson
    (write : α → Json)
    (sheet : ActionSheet α) :
    Json :=
  .object
    (Json.optionalMember "title" Json.string sheet.title ++
      [("items", .array (sheet.items.map (SheetItem.toJson write)))] ++
      Json.optionalMember "cancelText" Json.string sheet.cancelText)

namespace Action

theorem optionalMember_eq
    (name : String)
    (action : Option Action) :
    optionalMember name action =
      Json.optionalMember name toJson action := by
  cases action <;> rfl

theorem modalJson_eq :
    modalJson = Modal.toJson toJson := by
  funext modal
  have buttons :
      ∀ buttons,
        buttonsJson buttons = buttons.map (ModalButton.toJson toJson) := by
    intro buttons
    induction buttons with
    | nil =>
        rfl
    | cons button buttons inductionHypothesis =>
        rw [buttonsJson, inductionHypothesis, optionalMember_eq]
        rfl
  rw [modalJson, buttons]
  rfl

theorem sheetJson_eq :
    sheetJson = ActionSheet.toJson toJson := by
  funext sheet
  have items :
      ∀ items,
        itemsJson items = items.map (SheetItem.toJson toJson) := by
    intro items
    induction items with
    | nil =>
        rfl
    | cons item items inductionHypothesis =>
        rw [itemsJson, inductionHypothesis, optionalMember_eq]
        rfl
  rw [sheetJson, items]
  rfl

end Action

/-! ## Overlays with actions -/

section

variable
  {readAction? : Json → Option α}
  {writeAction : α → Json}
  (codec : IsCodec readAction? writeAction)
  (present : IsPresent readAction? writeAction)
include codec present

theorem ModalButton.isCodec :
    IsCodec (ofJson? readAction?) (toJson writeAction) := by
  refine .record fieldNames (by decide) ?_
  refine .required Json.isCodec_string (by decide) ?_
  intro text arrangedText
  refine .optional Json.isCodec_string (by decide) Json.isPresent_string ?_
  intro kind arrangedKind
  refine .optional codec (by decide) present ?_
  intro onClick arrangedOnClick
  exact .finish rfl rfl

theorem Modal.isCodec :
    IsCodec (ofJson? readAction?) (toJson writeAction) := by
  have buttons := (ModalButton.isCodec codec present).list
  refine .record fieldNames (by decide) ?_
  refine .defaulted Json.isCodec_string (by decide) (.string _) rfl ?_
  intro title arrangedTitle
  refine .defaulted Json.isCodec_string (by decide) (.string _) rfl ?_
  intro content arrangedContent
  refine .defaulted Json.isCodec_bool (by decide) (.bool _) rfl ?_
  intro closable arrangedClosable
  refine .defaulted Json.isCodec_bool (by decide) (.bool _) rfl ?_
  intro maskClosable arrangedMaskClosable
  refine .defaulted buttons (by decide) (.array (by simp)) rfl ?_
  intro buttons arrangedButtons
  exact .finish rfl rfl

theorem SheetItem.isCodec :
    IsCodec (ofJson? readAction?) (toJson writeAction) := by
  refine .record fieldNames (by decide) ?_
  refine .required Json.isCodec_string (by decide) ?_
  intro text arrangedText
  refine .optional Json.isCodec_string (by decide) Json.isPresent_string ?_
  intro color arrangedColor
  refine .optional codec (by decide) present ?_
  intro action arrangedAction
  exact .finish rfl rfl

theorem ActionSheet.isCodec :
    IsCodec (ofJson? readAction?) (toJson writeAction) := by
  have items := (SheetItem.isCodec codec present).list
  refine .record fieldNames (by decide) ?_
  refine .optional Json.isCodec_string (by decide) Json.isPresent_string ?_
  intro title arrangedTitle
  refine .defaulted items (by decide) (.array (by simp)) rfl ?_
  intro items arrangedItems
  refine .optional Json.isCodec_string (by decide) Json.isPresent_string ?_
  intro cancelText arrangedCancelText
  exact .finish rfl rfl

end

end Mockup
