import Mockup.Action.Reader
import Mockup.Proofs.Action.Overlay

namespace Mockup

/-!
# Actions as they are read and written

The reader and the writer of actions belong together.  Each kind is read
field by field, the kind itself by the name that it is written with, and
actions inside actions by induction on how deep they are nested.
-/

open Json (IsCodec IsPresent IsRest)

/-! ## Names of kinds -/

namespace ActionKind

/-- The names that kinds are written with. -/
inductive IsWritten : String → Prop where
  | unknown :
      IsWritten "unknown"
  | navigateTo :
      IsWritten "navigateTo"
  | redirectTo :
      IsWritten "redirectTo"
  | reLaunch :
      IsWritten "reLaunch"
  | navigateBack :
      IsWritten "navigateBack"
  | switchTab :
      IsWritten "switchTab"
  | showModal :
      IsWritten "showModal"
  | hideModal :
      IsWritten "hideModal"
  | showToast :
      IsWritten "showToast"
  | hideToast :
      IsWritten "hideToast"
  | showActionSheet :
      IsWritten "showActionSheet"
  | hideActionSheet :
      IsWritten "hideActionSheet"
  | request :
      IsWritten "request"
  | updateState :
      IsWritten "updateState"
  | delay :
      IsWritten "delay"

/-- The name that the kind with a name is written with. -/
def writtenName
    (name : String) :
    String :=
  if name ∈ knownNames then name else "unknown"

theorem IsWritten.of_mem
    {name : String}
    (known : name ∈ knownNames) :
    IsWritten name := by
  simp only [knownNames, List.mem_cons, List.not_mem_nil, or_false] at known
  rcases known with rfl | rfl | rfl | rfl | rfl | rfl | rfl | rfl | rfl |
    rfl | rfl | rfl | rfl | rfl <;>
    constructor

theorem isWritten_writtenName
    (name : String) :
    IsWritten (writtenName name) := by
  unfold writtenName
  split
  · rename_i known
    exact .of_mem known
  · exact .unknown

theorem IsWritten.writtenName_eq
    {name : String}
    (written : IsWritten name) :
    writtenName name = name := by
  cases written <;> decide

/-- A kind is read in the same way by the name that it is written with. -/
theorem ofFields?_writtenName
    (readAction? : Json → Option α)
    (name : String)
    (fields : Entries Json) :
    ofFields? readAction? (writtenName name) fields =
      ofFields? readAction? name fields := by
  unfold writtenName
  split
  · rfl
  · rename_i unknown
    unfold ofFields?
    split <;> simp_all [knownNames]

/-- The name that a tag gives to a kind, as it is written. -/
def writtenTag?
    (json : Json) :
    Option String :=
  (tag? json).map writtenName

theorem isCodec_writtenTag :
    IsCodec writtenTag? Json.string := by
  intro json name exact reads
  obtain ⟨given, isTag, rfl⟩ := Option.map_eq_some_iff.mp reads
  have again :
      writtenTag? (.string (writtenName given)) =
        some (writtenName given) :=
    congrArg some (isWritten_writtenName given).writtenName_eq
  refine ⟨.string _, writtenName given, rfl, ?_, again⟩
  cases json with
  | string value =>
      exact reads
  | integer value =>
      exact reads
  | _ =>
      cases isTag

/-! ## Kinds -/

/-- Write the kind of an action with its name and its fields. -/
def toJson
    (kind : ActionKind Action) :
    Json :=
  .object (("type", .string kind.name) :: Action.kindMembers kind)

theorem toJson_showModal
    (modal : Option (Modal Action))
    (modalId : Option String) :
    toJson (.showModal modal modalId) =
      .object
        ([("type", .string "showModal")] ++
          Json.optionalMember "modal" (Modal.toJson Action.toJson) modal ++
          Json.optionalMember "modalId" Json.string modalId) := by
  rw [← Action.modalJson_eq]
  cases modal <;> rfl

theorem toJson_showActionSheet
    (sheet : Option (ActionSheet Action))
    (sheetId : Option String) :
    toJson (.showActionSheet sheet sheetId) =
      .object
        ([("type", .string "showActionSheet")] ++
          Json.optionalMember "actionSheet"
            (ActionSheet.toJson Action.toJson) sheet ++
          Json.optionalMember "actionSheetId" Json.string sheetId) := by
  rw [← Action.sheetJson_eq]
  cases sheet <;> rfl

theorem toJson_request
    (url method : String)
    (data : Option Value)
    (headers : Entries String)
    (onSuccess : Option Action)
    (responsePath : Option String) :
    toJson (.request url method data headers onSuccess responsePath) =
      .object
        ([("type", .string "request")] ++ [("url", .string url)] ++
          [("method", .string method)] ++
          Json.optionalMember "data" Json.ofValue data ++
          (if headers.isEmpty then
            []
          else
            [("headers",
              .object (Entries.mapValues Json.string headers))]) ++
          Json.optionalMember "successAction" Action.toJson onSuccess ++
          Json.optionalMember "responsePath" Json.string responsePath) := by
  rw [← Action.optionalMember_eq]
  rfl

theorem toJson_delay
    (duration : Option Nat)
    (next : Option Action) :
    toJson (.delay duration next) =
      .object
        ([("type", .string "delay")] ++
          Json.optionalMember "duration" Json.ofCount duration ++
          Json.optionalMember "nextAction" Action.toJson next) := by
  rw [← Action.optionalMember_eq]
  rfl

/-- The fields that belong to one kind or another. -/
def fieldNames : List String :=
  ["pageId", "tabIndex", "modal", "modalId", "toast", "toastId",
    "actionSheet", "actionSheetId", "url", "method", "data", "headers",
    "successAction", "responsePath", "statePath", "stateValue",
    "duration", "nextAction"]

section

variable
  {readAction? : Json → Option Action}
  (codec : IsCodec readAction? Action.toJson)
  (present : IsPresent readAction? Action.toJson)
include codec present

/-- The fields of a request are read as they are written. -/
theorem isRest_request :
    IsRest toJson fieldNames [("type", .string "request")]
      [("type", .string "request")]
      (fun fields => ofFields? readAction? "request" fields)
      (fun fields => ofFields? readAction? "request" fields) := by
  have headersAre :
      ∀ headers : Entries String, ∃ members,
        Json.object (Entries.mapValues Json.string headers) =
            .object members ∧
          members.length = headers.length :=
    fun headers => ⟨_, rfl, List.length_map _⟩
  simp only [ofFields?]
  refine .checked (by decide) ?_
  refine .required Json.isCodec_string (by decide) ?_
  intro url arrangedUrl
  refine .defaulted Json.isCodec_string (by decide) (by exact .string _)
    rfl ?_
  intro method arrangedMethod
  refine .optional Json.isCodec_value (by decide) Json.isPresent_value ?_
  intro data arrangedData
  refine .unlessEmpty Json.isCodec_string.entries headersAre
    (by decide) ?_
  intro headers arrangedHeaders
  refine .optional codec (by decide) present ?_
  intro onSuccess arrangedOnSuccess
  refine .optional Json.isCodec_string (by decide) Json.isPresent_string ?_
  intro responsePath arrangedResponsePath
  exact .finish (toJson_request ..) (toJson_request ..)

/-- The fields of each kind are read as they are written. -/
theorem isRest_ofFields?
    {name : String}
    (written : IsWritten name) :
    IsRest toJson fieldNames [("type", .string name)]
      [("type", .string name)]
      (fun fields => ofFields? readAction? name fields)
      (fun fields => ofFields? readAction? name fields) := by
  cases written with
  | request =>
      exact isRest_request codec present
  | unknown | navigateBack | hideModal | hideToast | hideActionSheet =>
      simp only [ofFields?]
      exact .finish rfl rfl
  | navigateTo | redirectTo =>
      simp only [ofFields?]
      refine .checked (by decide) ?_
      refine .required Json.isCodec_string (by decide) ?_
      intro pageId arrangedPageId
      exact .finish rfl rfl
  | reLaunch =>
      simp only [ofFields?]
      refine .checked (by decide) ?_
      refine .optional Json.isCodec_string (by decide)
        Json.isPresent_string ?_
      intro pageId arrangedPageId
      exact .finish rfl rfl
  | switchTab =>
      simp only [ofFields?]
      refine .checked (by decide) ?_
      refine .optional Json.isCodec_count (by decide)
        Json.isPresent_count ?_
      intro tabIndex arrangedTabIndex
      refine .optional Json.isCodec_string (by decide)
        Json.isPresent_string ?_
      intro pageId arrangedPageId
      exact .finish rfl rfl
  | showModal =>
      simp only [ofFields?]
      refine .checked (by decide) ?_
      refine .optional (Modal.isCodec codec present) (by decide)
        (Json.isPresent_of_object fun modal => ⟨_, rfl⟩) ?_
      intro modal arrangedModal
      refine .optional Json.isCodec_string (by decide)
        Json.isPresent_string ?_
      intro modalId arrangedModalId
      exact .finish (toJson_showModal ..) (toJson_showModal ..)
  | showToast =>
      simp only [ofFields?]
      refine .checked (by decide) ?_
      refine .optional ToastSpec.isCodec (by decide)
        (Json.isPresent_of_object fun toast => ⟨_, rfl⟩) ?_
      intro toast arrangedToast
      refine .optional Json.isCodec_string (by decide)
        Json.isPresent_string ?_
      intro toastId arrangedToastId
      exact .finish rfl rfl
  | showActionSheet =>
      simp only [ofFields?]
      refine .checked (by decide) ?_
      refine .optional (ActionSheet.isCodec codec present) (by decide)
        (Json.isPresent_of_object fun sheet => ⟨_, rfl⟩) ?_
      intro sheet arrangedSheet
      refine .optional Json.isCodec_string (by decide)
        Json.isPresent_string ?_
      intro sheetId arrangedSheetId
      exact .finish (toJson_showActionSheet ..)
        (toJson_showActionSheet ..)
  | updateState =>
      simp only [ofFields?]
      refine .checked (by decide) ?_
      refine .required Json.isCodec_string (by decide) ?_
      intro path arrangedPath
      refine .defaulted Json.isCodec_value (by decide) (by exact .null)
        rfl ?_
      intro value arrangedValue
      exact .finish rfl rfl
  | delay =>
      simp only [ofFields?]
      refine .checked (by decide) ?_
      refine .optional Json.isCodec_count (by decide)
        Json.isPresent_count ?_
      intro duration arrangedDuration
      refine .optional codec (by decide) present ?_
      intro next arrangedNext
      exact .finish (toJson_delay ..) (toJson_delay ..)

end

end ActionKind

end Mockup
