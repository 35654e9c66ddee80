import Mockup.AppDocument.Reader
import Mockup.AppDocument.Writer
import Mockup.Proofs.Action.Nesting
import Mockup.Watch.Config

namespace Mockup

/-!
# Typed documents as they are read and written

Actions, registrations of watchers and documents of applications are read
from document values and written to them.  Whatever has been read is written
as a value that reads as the very same.
-/

open Json (IsCodec IsPresent IsRest)

/-! ## The parts of a document -/

theorem Page.isCodec :
    IsCodec ofJson? toJson := by
  refine .record fieldNames (by decide) ?_
  refine .required Json.isCodec_string (by decide) ?_
  intro id arrangedId
  refine .defaulted Json.isCodec_string (by decide) (.string _) rfl ?_
  intro name arrangedName
  refine .defaulted Json.isCodec_value (by decide) (by exact .null) rfl ?_
  intro componentTree arrangedComponentTree
  exact .finish rfl rfl

theorem Router.isCodec :
    IsCodec ofJson? toJson := by
  refine .record fieldNames (by decide) ?_
  refine .defaulted Json.isCodec_string (by decide) (.string _) rfl ?_
  intro mode arrangedMode
  refine .defaulted Json.isCodec_string (by decide) (.string _) rfl ?_
  intro initialPageId arrangedInitialPageId
  refine .optional Json.isCodec_count (by decide) Json.isPresent_count ?_
  intro historyLimit arrangedHistoryLimit
  exact .finish rfl rfl

theorem TabItem.isCodec :
    IsCodec ofJson? toJson := by
  refine .record fieldNames (by decide) ?_
  refine .defaulted Json.isCodec_string (by decide) (.string _) rfl ?_
  intro title arrangedTitle
  refine .required Json.isCodec_string (by decide) ?_
  intro pageId arrangedPageId
  refine .optional Json.isCodec_string (by decide) Json.isPresent_string ?_
  intro icon arrangedIcon
  refine .optional Json.isCodec_string (by decide) Json.isPresent_string ?_
  intro selectedIcon arrangedSelectedIcon
  refine .defaulted Json.isCodec_bool (by decide) (.bool _) rfl ?_
  intro disabled arrangedDisabled
  exact .finish rfl rfl

theorem TabBar.isCodec :
    IsCodec ofJson? toJson := by
  refine .record fieldNames (by decide) ?_
  refine .defaulted Json.isCodec_count (by decide)
    (.integer (by decide) (by decide)) rfl ?_
  intro selectedIndex arrangedSelectedIndex
  refine .defaulted TabItem.isCodec.list (by decide) (.array (by simp))
    rfl ?_
  intro items arrangedItems
  exact .finish rfl rfl

theorem WatchConfig.isCodec :
    IsCodec ofJson? toJson := by
  refine .record fieldNames (by decide) ?_
  refine .required Json.isCodec_value (by decide) ?_
  intro action arrangedAction
  refine .optional Json.isCodec_value (by decide) Json.isPresent_value ?_
  intro condition arrangedCondition
  refine .optional Json.isCodec_count (by decide) Json.isPresent_count ?_
  intro debounce arrangedDebounce
  refine .optional Json.isCodec_count (by decide) Json.isPresent_count ?_
  intro throttle arrangedThrottle
  refine .defaulted Json.isCodec_bool (by decide) (.bool _) rfl ?_
  intro immediate arrangedImmediate
  refine .defaulted Json.isCodec_bool (by decide) (.bool _) rfl ?_
  intro once arrangedOnce
  refine .finish ?_ ?_ <;>
    simp [toJson]

/-! ## Documents -/

namespace AppDocument

theorem isCodec :
    IsCodec ofJson? toJson := by
  have router :=
    Router.isCodec (.object []) {} (.object (by simp) (by simp)) rfl
  have modals :=
    (Modal.isCodec Action.isCodec (Action.isPresent _)).entries
  have sheets :=
    (ActionSheet.isCodec Action.isCodec (Action.isPresent _)).entries
  refine .record fieldNames (by decide) ?_
  refine .defaulted Json.isCodec_string (by decide) (.string _) rfl ?_
  intro id arrangedId
  refine .defaulted Json.isCodec_string (by decide) (.string _) rfl ?_
  intro name arrangedName
  refine .defaulted Json.isCodec_string (by decide) (.string _) rfl ?_
  intro version arrangedVersion
  refine .defaulted Page.isCodec.list (by decide) (.array (by simp)) rfl ?_
  intro pages arrangedPages
  refine .defaulted Router.isCodec (by decide) router.1 rfl ?_
  intro router arrangedRouter
  refine .optional TabBar.isCodec (by decide)
    (Json.isPresent_of_object fun bar => ⟨_, rfl⟩) ?_
  intro tabBar arrangedTabBar
  refine .defaulted modals (by decide) (.object (by simp) (by simp)) rfl ?_
  intro modals arrangedModals
  refine .defaulted sheets (by decide) (.object (by simp) (by simp)) rfl ?_
  intro sheets arrangedSheets
  refine .defaulted ToastSpec.isCodec.entries (by decide)
    (.object (by simp) (by simp)) rfl ?_
  intro toasts arrangedToasts
  refine .defaulted Json.isCodec_value (by decide) (by exact .null) rfl ?_
  intro state arrangedState
  refine .finish ?_ ?_ <;>
    simp [toJson, entriesJson, Action.modalJson_eq, Action.sheetJson_eq,
      Entries.mapValues]

end AppDocument

/-! ## Document values -/

/-- What has been read from a sound value reads again when it is written. -/
theorem Json.IsCodec.read_toValue
    {read? : Json → Option α}
    {write : α → Json}
    (codec : IsCodec read? write)
    {value : Value}
    (sound : value.Sound)
    {result : α}
    (reads : read? (ofValue value).sorted = some result) :
    read? (ofValue (.ofJson (write result).sorted)).sorted =
      some result := by
  obtain ⟨exactWrite, rereads⟩ :=
    codec.read_write (exact_ofValue sound) reads
  rwa [ofValue_ofJson exactWrite.sorted, sorted_sorted exactWrite]

theorem ActionKind.name_ne_empty
    (kind : ActionKind α) :
    kind.name ≠ "" := by
  cases kind <;> simp [name]

/-- A written action names its kind. -/
theorem Action.field?_toValue
    {action : Action}
    (exact : action.toJson.IsExact) :
    action.toValue.field? "type" = some (.string action.kind.name) := by
  obtain ⟨kind, params, onError⟩ := action
  obtain ⟨members, written⟩ :
      ∃ members,
        toJson ⟨kind, params, onError⟩ =
          .object (("type", .string kind.name) :: members) := by
    rw [toJson]
    exact ⟨_, rfl⟩
  rw [written] at exact
  have exactSorted := exact.sorted
  rw [toValue, written]
  rw [Json.sorted_object] at exactSorted ⊢
  rw [Value.ofJson, Value.ofJsonFields_eq_mapValues,
    Entries.ofList_of_nodup (by simpa using exactSorted.distinct),
    Value.field?, Entries.get?_mapValues,
    Entries.get?_sorted (by simpa using exact.distinct),
    Entries.get?_mapValues, Entries.get?, if_pos rfl]
  rfl

/-- An action is read from a value that names its kind. -/
theorem Action.ofValue_eq_ok_iff
    {value : Value}
    {action : Action} :
    ofValue value = .ok action ↔
      ofJson? (Json.ofValue value).sorted = some action ∧
        ∃ type, value.field? "type" = some (.string type) ∧ type ≠ "" := by
  unfold ofValue
  constructor
  · intro reads
    split at reads
    · rename_i type isType
      split at reads
      · cases reads
      · rename_i notEmpty
        split at reads
        · rename_i found isAction
          cases reads
          exact ⟨isAction, type, isType, notEmpty⟩
        · cases reads
    · cases reads
  · rintro ⟨reads, type, isType, notEmpty⟩
    simp only [isType, notEmpty, if_false, reads]

/--
Typed documents are stable.  Whatever has been read from a document value as
an action, as a registration of a watcher or as the document of an
application, reads as the very same once it has been written as a value.  So
it is written again as the identical value.
-/
theorem ofValue_toValue
    {value : Value}
    (sound : value.Sound) :
    (∀ action, Action.ofValue value = .ok action →
      Action.ofValue action.toValue = .ok action) ∧
    (∀ config, WatchConfig.ofValue? value = some config →
      WatchConfig.ofValue? config.toValue = some config) ∧
    (∀ app, AppDocument.ofValue? value = some app →
      AppDocument.ofValue? app.toValue = some app) := by
  refine ⟨?_, ?_, ?_⟩
  · intro action reads
    obtain ⟨readsTree, _⟩ := Action.ofValue_eq_ok_iff.mp reads
    obtain ⟨exactWrite, _⟩ :=
      Action.isCodec.read_write (Json.exact_ofValue sound) readsTree
    exact Action.ofValue_eq_ok_iff.mpr
      ⟨Action.isCodec.read_toValue sound readsTree, _,
        Action.field?_toValue exactWrite, action.kind.name_ne_empty⟩
  · intro config reads
    exact WatchConfig.isCodec.read_toValue sound reads
  · intro app reads
    exact AppDocument.isCodec.read_toValue sound reads

/-- A request that goes on to a modal whose button has an unknown action. -/
def questionValue : Value :=
  let button : Value :=
    .map
      [("text", .string "Yes"), ("type", .null),
        ("onClickAction", .map [("type", .string "dance")])]
  let modal : Value :=
    .map
      [("type", .string "showModal"),
        ("modal", .map [("buttons", .list [button])])]
  .map
    [("url", .string "/ask"), ("type", .string "request"),
      ("successAction", modal), ("data", .null)]

/-- A registration of a watcher for that action. -/
def questionWatch : Value :=
  .map [("debounce", .int 5), ("action", questionValue)]

/-- A document of one page. -/
def questionApp : Value :=
  .map
    [("pages", .list [.map [("id", .string "home")]]),
      ("toasts", .map [("b", .map []), ("a", .map [])]),
      ("tabBar", .null)]

/-- Documents with nested parts and defaults are read again as they are. -/
theorem ofValue_toValue_question :
    (∃ action,
      Action.ofValue questionValue = .ok action ∧
        Action.ofValue action.toValue = .ok action) ∧
    (∃ config,
      WatchConfig.ofValue? questionWatch = some config ∧
        WatchConfig.ofValue? config.toValue = some config) ∧
    (∃ app,
      AppDocument.ofValue? questionApp = some app ∧
        AppDocument.ofValue? app.toValue = some app) := by
  have soundValue : questionValue.Sound := by
    simp [questionValue, Value.IsShaped, Value.positionLimit]
  have soundWatch : questionWatch.Sound := by
    simpa [questionWatch, Value.IsShaped] using soundValue
  have soundApp : questionApp.Sound := by
    simp [questionApp, Value.IsShaped, Value.positionLimit]
  refine ⟨?_, ?_, ?_⟩
  · have isRead : (Action.ofValue questionValue).isOk = true := by
      decide +kernel
    cases reads : Action.ofValue questionValue with
    | error failure =>
        rw [reads] at isRead
        cases isRead
    | ok action =>
        exact ⟨action, rfl, (ofValue_toValue soundValue).1 action reads⟩
  · obtain ⟨config, reads⟩ :=
      Option.isSome_iff_exists.mp
        (show (WatchConfig.ofValue? questionWatch).isSome = true by
          decide +kernel)
    exact ⟨config, reads, (ofValue_toValue soundWatch).2.1 config reads⟩
  · obtain ⟨app, reads⟩ :=
      Option.isSome_iff_exists.mp
        (show (AppDocument.ofValue? questionApp).isSome = true by
          decide +kernel)
    exact ⟨app, reads, (ofValue_toValue soundApp).2.2 app reads⟩

end Mockup
