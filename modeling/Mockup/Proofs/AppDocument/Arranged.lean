import Mockup.Proofs.AppDocument.Codec
import Mockup.Proofs.AppDocument.Shape
import Mockup.Proofs.Expression.Arranged
import Mockup.Proofs.Json.Narrowed

namespace Mockup

/-!
# Documents loaded from values

A document may be loaded from its text or from the value that the text has.
Loading from the value puts keys in ascending order, so the pages have the
same component trees only up to the order of keys: watchers may be declared
in another order, and a call may find its named arguments in another order.
-/

open Json (HasFiniteNumbers ReadsArranged TakesNarrowed)
open Value (Alike IsSteady Throughout)

/-- The page with its component tree arranged. -/
def Page.arranged
    (page : Page) :
    Page :=
  { page with componentTree := page.componentTree.arranged }

/-- The declaration with its registration arranged. -/
def WatchDeclaration.arranged
    (declaration : WatchDeclaration) :
    WatchDeclaration :=
  { declaration with config := declaration.config.arranged }

/-! ## Pages -/

namespace Page

theorem ofJson?_eq_some
    {json : Json}
    {page : Page}
    (reads : ofJson? json = some page) :
    ∃ fields,
      json.record? fieldNames = some fields ∧
        Json.required? fields "id" Json.asString? = some page.id ∧
        Json.defaulted? fields "name" "" Json.asString? = some page.name ∧
        Json.defaulted? fields "componentTree" .null Json.asValue? =
          some page.componentTree := by
  simp only [ofJson?, Option.bind_eq_bind, Option.bind_eq_some_iff,
    Option.some.injEq] at reads
  obtain ⟨fields, isRecord, id, readsId, name, readsName, tree, readsTree,
    rfl⟩ := reads
  exact ⟨fields, isRecord, readsId, readsName, readsTree⟩

theorem readsArranged :
    ReadsArranged ofJson? arranged := by
  intro json page finite reads
  obtain ⟨fields, isRecord, readsId, readsName, readsTree⟩ :=
    ofJson?_eq_some reads
  obtain ⟨again, isAgain, found⟩ := Json.record?_rewritten isRecord
  have finiteFields := finite.record? isRecord
  have id :=
    Json.readsArranged_string.required finiteFields
      (found "id" (by decide)) readsId
  have name :=
    Json.readsArranged_string.defaulted finiteFields
      (found "name" (by decide)) rfl readsName
  have tree :=
    Json.readsArranged_value.defaulted finiteFields
      (found "componentTree" (by decide))
      (Value.arranged_of_scalar rfl) readsTree
  simp only [ofJson?, Option.bind_eq_bind, isAgain, id, name, tree,
    Option.bind_some]
  rfl

/-- Nothing in a page needs an integer beyond 64 bits. -/
theorem takesNarrowed :
    TakesNarrowed ofJson? := by
  intro json finite
  rw [ofJson?, ofJson?, Json.record?_narrowed]
  cases isRecord : json.record? fieldNames with
  | none =>
      rfl
  | some fields =>
      have finiteFields := finite.record? isRecord
      have string := Json.takesNarrowed_string.field finiteFields
      have value := Json.takesNarrowed_value.field finiteFields
      simp only [Option.map_some, Option.bind_eq_bind, Option.bind_some,
        Json.required?_narrowed (string _),
        Json.defaulted?_narrowed (string _),
        Json.defaulted?_narrowed (value _)]

/-- The component tree of a page is portable. -/
theorem portable_of_ofJson?
    {json : Json}
    (finite : json.HasFiniteNumbers)
    {page : Page}
    (reads : ofJson? json = some page) :
    page.componentTree.Portable := by
  obtain ⟨fields, isRecord, _, _, readsTree⟩ := ofJson?_eq_some reads
  unfold Json.defaulted? at readsTree
  split at readsTree
  · rw [← Option.some.inj readsTree]
    simp [Value.IsPortable]
  · rename_i tree found
    rw [← Option.some.inj readsTree]
    exact (finite.record? isRecord _
      (Entries.mem_of_get?_eq_some found)).portable

end Page

namespace AppDocument

theorem pages_of_ofJson?
    {json : Json}
    {app : AppDocument}
    (reads : ofJson? json = some app) :
    ∃ fields,
      json.record? fieldNames = some fields ∧
        Json.defaulted? fields "pages" [] (Json.asList? Page.ofJson?) =
          some app.pages := by
  simp only [ofJson?, Option.bind_eq_bind, Option.bind_eq_some_iff,
    Option.some.injEq] at reads
  obtain ⟨fields, isRecord, _, _, _, _, _, _, pages, readsPages, rest⟩ :=
    reads
  obtain ⟨_, _, _, _, _, _, _, _, _, _, _, _, rfl⟩ := rest
  exact ⟨fields, isRecord, readsPages⟩

/-- The parts of a document in which there are counts. -/
def countedParts : List String :=
  ["router", "tabBar", "modals", "actionSheets", "toasts"]

/-- Elsewhere in a document integers beyond 64 bits may as well be doubles. -/
theorem ofJson?_narrowed
    {json : Json}
    (finite : json.HasFiniteNumbers)
    (narrow :
      ∀ fields,
        json.record? fieldNames = some fields →
        ∀ name ∈ countedParts,
          ∀ part,
            Entries.get? fields name = some part →
            part.narrowed = part) :
    ofJson? json.narrowed = ofJson? json := by
  rw [ofJson?, ofJson?, Json.record?_narrowed]
  cases isRecord : json.record? fieldNames with
  | none =>
      rfl
  | some fields =>
      have finiteFields := finite.record? isRecord
      have string := Json.takesNarrowed_string.field finiteFields
      have value := Json.takesNarrowed_value.field finiteFields
      have pages := Page.takesNarrowed.list.field finiteFields
      have narrowParts := narrow fields isRecord
      have counted
          {α : Type}
          (name : String)
          (isCounted : name ∈ countedParts)
          (read? : Json → Option α) :
          ∀ part,
            Entries.get? fields name = some part →
            read? part.narrowed = read? part :=
        fun part found =>
          congrArg read? (narrowParts name isCounted part found)
      simp only [Option.map_some, Option.bind_eq_bind, Option.bind_some,
        Json.defaulted?_narrowed (string _),
        Json.defaulted?_narrowed (pages _),
        Json.defaulted?_narrowed (counted "router" (by decide) _),
        Json.optional?_narrowed (narrowParts "tabBar" (by decide)),
        Json.defaulted?_narrowed (counted "modals" (by decide) _),
        Json.defaulted?_narrowed (counted "actionSheets" (by decide) _),
        Json.defaulted?_narrowed (counted "toasts" (by decide) _),
        Json.defaulted?_narrowed (value _)]

/-- From the value of a tree the same pages are loaded, arranged. -/
theorem pages_rewritten
    {json : Json}
    (finite : json.HasFiniteNumbers)
    {app arranged : AppDocument}
    (reads : ofJson? json = some app)
    (rereads : ofJson? json.rewritten = some arranged) :
    arranged.pages = app.pages.map Page.arranged := by
  obtain ⟨fields, isRecord, readsPages⟩ := pages_of_ofJson? reads
  obtain ⟨again, isAgain, rereadsPages⟩ := pages_of_ofJson? rereads
  obtain ⟨other, isOther, found⟩ := Json.record?_rewritten isRecord
  rw [isAgain] at isOther
  cases isOther
  have pages :=
    Page.readsArranged.list.defaulted (finite.record? isRecord)
      (found "pages" (by decide)) rfl readsPages
  rw [rereadsPages] at pages
  exact Option.some.inj pages

/-- The component trees of a document are portable. -/
theorem portable_of_ofJson?
    {json : Json}
    (finite : json.HasFiniteNumbers)
    {app : AppDocument}
    (reads : ofJson? json = some app) :
    ∀ page ∈ app.pages, page.componentTree.Portable := by
  obtain ⟨fields, isRecord, readsPages⟩ := pages_of_ofJson? reads
  unfold Json.defaulted? at readsPages
  split at readsPages
  · rw [← Option.some.inj readsPages]
    simp
  · rename_i pages found
    have finitePages :=
      finite.record? isRecord _ (Entries.mem_of_get?_eq_some found)
    cases pages with
    | array items =>
        intro page member
        obtain ⟨item, isItem, readsPage⟩ :=
          Json.exists_item_of_mem readsPages member
        exact Page.portable_of_ofJson? (finitePages.items item isItem)
          readsPage
    | _ =>
        cases readsPages

end AppDocument

/-! ## Declarations of watchers -/

namespace WatchDeclaration

theorem ofNodes_eq_flatMap
    (pageId : String)
    (nodes : List Value) :
    ofNodes pageId nodes = nodes.flatMap (ofNode pageId) := by
  induction nodes with
  | nil =>
      rfl
  | cons node nodes inductionHypothesis =>
      rw [ofNodes, List.flatMap_cons, inductionHypothesis]

/-- The declarations of what stands under one key of a node. -/
def ofFound
    (pageId : String) :
    Option Value → List WatchDeclaration
  | some (.list nodes) =>
      nodes.flatMap (ofNode pageId)
  | some node =>
      ofNode pageId node
  | none =>
      []

theorem ofField_eq_ofFound
    (pageId key : String)
    (fields : Entries Value) :
    ofField pageId key fields =
      ofFound pageId (Entries.get? fields key) := by
  induction fields with
  | nil =>
      rfl
  | cons field fields inductionHypothesis =>
      rcases field with ⟨name, value⟩
      by_cases same : name = key
      · rw [Entries.get?, if_pos same]
        cases value <;>
          simp only [ofField, if_pos same, ofFound, ofNodes_eq_flatMap]
      · rw [Entries.get?, if_neg same, ← inductionHypothesis]
        cases value <;>
          simp only [ofField, if_neg same]

theorem ofNode_map
    (pageId : String)
    (fields : Entries Value) :
    ofNode pageId (.map fields) =
      ofBlock pageId (Entries.get? fields "watch") ++
        ofFound pageId (Entries.get? fields "children") ++
        ofFound pageId (Entries.get? fields "items") := by
  rw [ofNode, ofField_eq_ofFound, ofField_eq_ofFound]

/-- How the declarations of a block are found after it has been arranged. -/
def BlockKeeps
    (related : List WatchDeclaration → List WatchDeclaration → Prop)
    (pageId : String)
    (node : Value) :
    Prop :=
  related (ofBlock pageId ((node.field? "watch").map Value.arranged))
    ((ofBlock pageId (node.field? "watch")).map arranged)

section

variable
  {related : List WatchDeclaration → List WatchDeclaration → Prop}
  (empty : related [] [])
  (append :
    ∀ {first second third fourth},
      related first second →
      related third fourth →
      related (first ++ third) (second ++ fourth))

include empty append

theorem flatMap_arranged
    {items : List α}
    {left right : α → List WatchDeclaration}
    (each :
      ∀ item ∈ items, related (left item) ((right item).map arranged)) :
    related (items.flatMap left) ((items.flatMap right).map arranged) := by
  induction items with
  | nil =>
      exact empty
  | cons item items inductionHypothesis =>
      obtain ⟨head, rest⟩ := List.forall_mem_cons.mp each
      rw [List.flatMap_cons, List.flatMap_cons, List.map_append]
      exact append head (inductionHypothesis rest)

/-- Declarations are related where a node stands, or a list of nodes. -/
theorem ofFound_arranged
    (pageId : String)
    {node : Value}
    (portable : node.Portable)
    (blocks : Throughout (BlockKeeps related pageId) node) :
    related (ofNode pageId node.arranged)
        ((ofNode pageId node).map arranged) ∧
      related (ofFound pageId (some node.arranged))
        ((ofFound pageId (some node)).map arranged) := by
  -- A list declares nothing where a node is wanted, but its items do where it
  -- stands under a key: the two readings need one induction.
  induction blocks with
  | @intro node here _ inductionHypothesis =>
      cases node with
      | map fields =>
          have found :
              ∀ key,
                related
                  (ofFound pageId
                    ((Entries.get? fields key).map Value.arranged))
                  ((ofFound pageId (Entries.get? fields key)).map
                    arranged) := by
            intro key
            cases isFound : Entries.get? fields key with
            | none =>
                exact empty
            | some part =>
                have isPart := Value.mem_parts_of_get? isFound
                exact (inductionHypothesis part isPart
                  (portable.part isPart)).2
          have declared :
              related (ofNode pageId (Value.map fields).arranged)
                ((ofNode pageId (.map fields)).map arranged) := by
            rw [Value.arranged_map, ofNode_map, ofNode_map,
              Value.get?_arranged portable, Value.get?_arranged portable,
              Value.get?_arranged portable, List.map_append,
              List.map_append]
            exact append (append here (found "children")) (found "items")
          refine ⟨declared, ?_⟩
          rw [Value.arranged_map] at declared ⊢
          exact declared
      | list nodes =>
          rw [Value.arranged_list]
          refine ⟨empty, ?_⟩
          rw [ofFound, ofFound, List.flatMap_map]
          exact flatMap_arranged empty append fun item member =>
            (inductionHypothesis item member (portable.part member)).1
      | null | bool _ | int _ | float _ | string _ =>
          rw [Value.arranged_of_scalar rfl]
          exact ⟨empty, empty⟩

end

/-- The keys of the `watch` block of a node are in ascending order. -/
def HasOrderedBlock
    (node : Value) :
    Prop :=
  ∀ watches,
    node.field? "watch" = some (.map watches) →
    watches.Pairwise fun left right => left.1 ≤ right.1

/-- What an arranged block declares, as the block declares it. -/
theorem ofBlock_arranged
    (pageId : String)
    (watches : Entries Value) :
    (ofBlock pageId (some (.map watches))).map arranged =
      (Entries.mapValues Value.arranged watches).map
        fun watch => ⟨pageId, watch.1, watch.2⟩ := by
  unfold Entries.mapValues
  rw [ofBlock, List.map_map, List.map_map]
  rfl

/-- An arranged block declares the same watchers. -/
theorem blockKeeps_perm
    (pageId : String)
    (node : Value) :
    BlockKeeps List.Perm pageId node := by
  unfold BlockKeeps
  cases node.field? "watch" with
  | none =>
      exact .refl _
  | some block =>
      cases block with
      | map watches =>
          rw [Option.map_some, Value.arranged_map, ofBlock_arranged]
          exact (Entries.sorted_perm _).map _
      | null | bool _ | int _ | float _ | string _ | list _ =>
          simp only [Option.map_some, Value.arranged, ofBlock,
            List.map_nil]
          exact .nil

/-- An arranged block with ascending keys declares them in the same order. -/
theorem blockKeeps_eq
    (pageId : String)
    {node : Value}
    (portable : node.Portable)
    (ordered : HasOrderedBlock node) :
    BlockKeeps Eq pageId node := by
  unfold BlockKeeps
  cases found : node.field? "watch" with
  | none =>
      rfl
  | some block =>
      cases block with
      | map watches =>
          have portableBlock : Value.Portable (.map watches) := by
            cases node with
            | map fields =>
                exact portable.field found
            | null | bool _ | int _ | float _ | string _ | list _ =>
                cases found
          have distinct : (Entries.names watches).Nodup :=
            portableBlock.here
          rw [Option.map_some, Value.arranged_map, ofBlock_arranged,
            Entries.sorted_mapValues,
            Entries.sorted_of_pairwise distinct (ordered watches found)]
          rfl
      | null | bool _ | int _ | float _ | string _ | list _ =>
          simp only [Option.map_some, Value.arranged, ofBlock,
            List.map_nil]

/-- An arranged node declares the same watchers, maybe in another order. -/
theorem ofNode_arranged_perm
    (pageId : String)
    {node : Value}
    (portable : node.Portable) :
    (ofNode pageId node.arranged).Perm
      ((ofNode pageId node).map arranged) := by
  refine (ofFound_arranged (.refl _) List.Perm.append pageId portable ?_).1
  exact portable.weaken fun part _ => blockKeeps_perm pageId part

/-- While blocks have ascending keys the order is the same as well. -/
theorem ofNode_arranged_eq
    (pageId : String)
    {node : Value}
    (portable : node.Portable)
    (ordered : Throughout HasOrderedBlock node) :
    ofNode pageId node.arranged = (ofNode pageId node).map arranged := by
  have blocks : Throughout (BlockKeeps Eq pageId) node := by
    induction portable with
    | intro here inside inductionHypothesis =>
        exact .intro
          (blockKeeps_eq pageId (.intro here inside) ordered.here)
          fun part member =>
            inductionHypothesis part member (ordered.part member)
  refine (ofFound_arranged rfl ?_ pageId portable blocks).1
  rintro _ _ _ _ rfl rfl
  rfl

end WatchDeclaration

/-! ## Documents -/

namespace AppDocument

/-- What loading from the value makes of a document that a text has. -/
structure IsArranged (app arranged : AppDocument) : Prop where
  /-- The pages are the same, but for the order of keys in their trees. -/
  pages :
    arranged.pages = app.pages.map Page.arranged
  /-- The same watchers are declared. -/
  watches :
    arranged.watchDeclarations.Perm
      (app.watchDeclarations.map WatchDeclaration.arranged)
  /-- They are declared in the same order where blocks are in order. -/
  orderedWatches :
    (∀ page ∈ app.pages,
      Throughout WatchDeclaration.HasOrderedBlock page.componentTree) →
    arranged.watchDeclarations =
      app.watchDeclarations.map WatchDeclaration.arranged
  /-- At every place stands the same expression, with the same value. -/
  expressions :
    ∀ (index : Nat) page,
      app.pages[index]? = some page →
      ∃ other,
        arranged.pages[index]? = some other ∧
          ∀ place expression,
            Path.resolve? page.componentTree place = some expression →
            ∃ found,
              Path.resolve? other.componentTree place = some found ∧
                Value.Agrees Eq found expression ∧
                ∀ inOrder,
                  expression.IsSteady inOrder →
                  ∀ environment : Environment,
                    Option.Rel (Alike inOrder)
                      (environment.evaluate found)
                      (environment.evaluate expression)

theorem isArranged_of_pages
    {app arranged : AppDocument}
    (portable : ∀ page ∈ app.pages, page.componentTree.Portable)
    (pages : arranged.pages = app.pages.map Page.arranged) :
    app.IsArranged arranged where
  pages := pages
  watches := by
    rw [watchDeclarations, watchDeclarations, pages, List.flatMap_map]
    refine WatchDeclaration.flatMap_arranged (.refl _) List.Perm.append ?_
    exact fun page member =>
      WatchDeclaration.ofNode_arranged_perm page.id (portable page member)
  orderedWatches := by
    intro ordered
    rw [watchDeclarations, watchDeclarations, pages, List.flatMap_map]
    refine WatchDeclaration.flatMap_arranged rfl ?_ ?_
    · rintro _ _ _ _ rfl rfl
      rfl
    · exact fun page member =>
        WatchDeclaration.ofNode_arranged_eq page.id (portable page member)
          (ordered page member)
  expressions := by
    intro index page isPage
    have portablePage := portable page (List.mem_of_getElem? isPage)
    refine ⟨page.arranged, by rw [pages, List.getElem?_map, isPage]; rfl, ?_⟩
    intro place expression found
    have portableFound := portablePage.resolve? found
    refine ⟨expression.arranged, ?_, portableFound.agrees_arranged, ?_⟩
    · exact (Value.resolve?_arranged portablePage place).trans
        (congrArg (Option.map Value.arranged) found)
    · exact fun inOrder steady environment =>
        environment.evaluate_arranged steady portableFound

end AppDocument

namespace WatchConfig

/-- The action that stands in a document for a watcher. -/
def ownAction? : Value → Option Value
  | .map fields =>
      Entries.get? fields "action"
  | .list (action :: _) =>
      some action
  | _ =>
      none

theorem action_of_ofJson?
    {json : Json}
    {config : WatchConfig}
    (reads : ofJson? json = some config) :
    ∃ fields tree,
      json.record? fieldNames = some fields ∧
        Entries.get? fields "action" = some tree ∧
        config.action = .ofJson tree := by
  simp only [ofJson?, Option.bind_eq_bind, Option.bind_eq_some_iff,
    Option.some.injEq] at reads
  obtain ⟨fields, isRecord, action, readsAction, _, _, _, _, _, _, _, _, _,
    _, rfl⟩ := reads
  obtain ⟨tree, found, isAction⟩ := Option.bind_eq_some_iff.mp readsAction
  exact ⟨fields, tree, isRecord, found, (Option.some.inj isAction).symm⟩

/-- A registration that is read from a value has the value's own action. -/
theorem action_of_ofValue?
    {value : Value}
    (portable : value.Portable)
    {config : WatchConfig}
    (reads : ofValue? value = some config) :
    ∃ action,
      ownAction? value = some action ∧
        action.Portable ∧ config.action = action.arranged := by
  obtain ⟨members, tree, isRecord, found, isAction⟩ :=
    action_of_ofJson? reads
  cases value with
  | map fields =>
      have distinct : (Entries.names fields).Nodup :=
        portable.here
      rw [Json.ofValue, Json.ofFields_eq_mapValues,
        Json.sorted_object] at isRecord
      obtain ⟨_, same⟩ := Option.ite_none_right_eq_some.mp isRecord
      cases same
      rw [Entries.get?_sorted (by simpa using distinct),
        Entries.get?_mapValues, Entries.get?_mapValues,
        Option.map_map] at found
      obtain ⟨action, isOwn, rfl⟩ := Option.map_eq_some_iff.mp found
      have portableAction := portable.field isOwn
      exact ⟨action, isOwn, portableAction,
        isAction.trans (Value.ofJson_sorted_ofValue portableAction)⟩
  | list items =>
      rw [Json.ofValue, Json.ofItems_eq_map, Json.sorted_array] at isRecord
      obtain ⟨_, same⟩ := Option.ite_none_right_eq_some.mp isRecord
      cases same
      cases items with
      | nil =>
          cases found
      | cons action items =>
          have isPart : action ∈ (Value.list (action :: items)).parts :=
            List.mem_cons_self
          have portableAction := portable.part isPart
          cases found
          exact ⟨action, rfl, portableAction,
            isAction.trans (Value.ofJson_sorted_ofValue portableAction)⟩
  | float number =>
      rw [Json.ofValue] at isRecord
      split at isRecord <;> cases isRecord
  | null | bool _ | int _ | string _ =>
      cases isRecord

end WatchConfig

/--
Loading a document from the value of its text keeps all but the order of keys.
It is accepted when no key is repeated and the document stays the same with
doubles in place of integers beyond 64 bits, so none of these stands where an
integer is needed.  Then it is the same document if the keys are in order
already.  Once accepted, it has the same pages with arranged trees, declares
the same watchers, and its steady expressions have the same values.  So has
the action of a watcher that is read from a value.
-/
theorem AppDocument.ofValue?_of_ofText?
    {text : String}
    {json : Json}
    {app : AppDocument}
    (reads : Json.read text = .ok json)
    (loads : ofText? text = some app) :
    (json.HasDistinctKeys →
      ofJson? json.narrowed = some app →
      ∃ arranged,
        ofValue? (.ofJson json) = some arranged ∧
          arranged.toValue = app.toValue ∧
          (json.sorted = json → arranged = app)) ∧
    (∀ arranged,
      ofValue? (.ofJson json) = some arranged →
      app.IsArranged arranged) ∧
    (∀ value config,
      value.Portable →
      WatchConfig.ofValue? value = some config →
      ∃ action,
        WatchConfig.ownAction? value = some action ∧
          config.action = action.arranged ∧
          ∀ inOrder,
            action.IsSteady inOrder →
            ∀ environment : Environment,
              Option.Rel (Alike inOrder)
                (environment.evaluate config.action)
                (environment.evaluate action)) := by
  rw [ofText?_eq_ofJson? reads] at loads
  have finite := Json.hasFiniteNumbers_of_read reads
  refine ⟨?_, ?_, ?_⟩
  · intro distinct loadsNarrowed
    have exact := Json.exact_narrowed finite distinct
    obtain ⟨_, arranged, same, rereads, _⟩ :=
      isCodec json.narrowed app exact loadsNarrowed
    refine ⟨arranged, ?_, ?_, ?_⟩
    · rwa [ofValue?, ← Json.ofJson_narrowed finite,
        Json.ofValue_ofJson exact]
    · rw [toValue, toValue, same]
    · intro inOrder
      rw [Json.sorted_narrowed finite, inOrder, loadsNarrowed] at rereads
      exact (Option.some.inj rereads).symm
  · intro arranged loadsValue
    exact isArranged_of_pages (portable_of_ofJson? finite loads)
      (pages_rewritten finite loads loadsValue)
  · intro value config portable readsConfig
    obtain ⟨action, isOwn, portableAction, isAction⟩ :=
      WatchConfig.action_of_ofValue? portable readsConfig
    refine ⟨action, isOwn, isAction, fun inOrder steady environment => ?_⟩
    rw [isAction]
    exact environment.evaluate_arranged steady portableAction

/-- A document whose page declares two watchers, the later key first. -/
def twoWatchesText : String :=
  let hide (kind : String) : String :=
    "\x7b\"action\":\x7b\"type\":\"" ++ kind ++ "\"\x7d\x7d"
  let watch : String :=
    "\x7b\"/b\":" ++ hide "hideToast" ++ ",\"/a\":" ++ hide "hideModal" ++
      "\x7d"
  let node : String :=
    "\x7b\"type\":\"view\",\"watch\":" ++ watch ++ "\x7d"
  "\x7b\"pages\":[\x7b\"id\":\"home\",\"componentTree\":" ++ node ++
    "\x7d]\x7d"

/-- The value that the text has. -/
def twoWatchesValue : Value :=
  let hide (kind : String) : Value :=
    .map [("action", .map [("type", .string kind)])]
  let node : Value :=
    .map
      [("type", .string "view"),
        ("watch", .map [("/b", hide "hideToast"), ("/a", hide "hideModal")])]
  .map
    [("pages",
      .list [.map [("id", .string "home"), ("componentTree", node)]])]

theorem exact_twoWatches :
    (Json.ofValue twoWatchesValue).IsExact := by
  refine Json.exact_ofValue ?_
  simp [twoWatchesValue, Value.IsShaped, Value.positionLimit]

set_option maxRecDepth 20000 in
theorem read_twoWatches :
    Json.read twoWatchesText = .ok (Json.ofValue twoWatchesValue) := by
  rfl

/-- A document whose state is an integer beyond 64 bits. -/
def wideStateText : String :=
  "\x7b\"state\":18446744073709551615\x7d"

/-- The tree that the text has. -/
def wideState : Json :=
  .object [("state", .integer 18446744073709551615)]

theorem read_wideState :
    Json.read wideStateText = .ok wideState := by
  rfl

/-- A call that joins a list, with the list and the separator by name. -/
def joinCall : Value :=
  .map
    [("$computed", .string "join"),
      ("$args",
        .map
          [("list", .list [.string "a", .string "b"]),
            ("by", .string "-")])]

/--
Loaded from its value the document declares the later watcher first, and the
named arguments of a call change places when a watcher is read for it.
-/
theorem AppDocument.ofValue?_reorders :
    (∃ json app arranged,
      Json.read twoWatchesText = .ok json ∧
        json.IsExact ∧
        ofText? twoWatchesText = some app ∧
        ofValue? (.ofJson json) = some arranged ∧
        app.watchDeclarations.map WatchDeclaration.path = ["/b", "/a"] ∧
        arranged.watchDeclarations.map WatchDeclaration.path =
          ["/a", "/b"]) ∧
    (∃ config,
      WatchConfig.ofValue? (.map [("action", joinCall)]) = some config ∧
        Environment.evaluate ⟨.null, [], .defaults⟩ joinCall =
          some (.string "a-b") ∧
        Environment.evaluate ⟨.null, [], .defaults⟩ config.action =
          some (.string "-")) := by
  constructor
  · obtain ⟨app, loads, paths⟩ :=
      Option.map_eq_some_iff.mp
        (show
          (ofText? twoWatchesText).map
              (fun app =>
                app.watchDeclarations.map WatchDeclaration.path) =
            some ["/b", "/a"] by
          decide +kernel)
    obtain ⟨arranged, loadsValue, arrangedPaths⟩ :=
      Option.map_eq_some_iff.mp
        (show
          (ofValue? (.ofJson (Json.ofValue twoWatchesValue))).map
              (fun app =>
                app.watchDeclarations.map WatchDeclaration.path) =
            some ["/a", "/b"] by
          decide +kernel)
    exact ⟨_, app, arranged, read_twoWatches, exact_twoWatches, loads,
      loadsValue, paths, arrangedPaths⟩
  · exact ⟨_, rfl, rfl, rfl⟩

/--
The document is accepted as a value too, and so is a document with a great
integer for its state, and a plain watcher.
-/
theorem AppDocument.ofValue?_of_ofText?_twoWatches :
    (∃ app arranged,
      ofText? twoWatchesText = some app ∧
        ofValue? (.ofJson (Json.ofValue twoWatchesValue)) = some arranged ∧
        app.IsArranged arranged) ∧
    (∃ app arranged,
      ofText? wideStateText = some app ∧
        ofValue? (.ofJson wideState) = some arranged ∧
        arranged = app) ∧
    ∃ config,
      WatchConfig.ofValue? (.map [("action", .string "hideToast")]) =
          some config ∧
        config.action = .string "hideToast" := by
  obtain ⟨app, loads⟩ :=
    Option.isSome_iff_exists.mp
      (show (ofText? twoWatchesText).isSome = true by
        decide +kernel)
  obtain ⟨accepted, keeps, watcher⟩ :=
    ofValue?_of_ofText? read_twoWatches loads
  refine ⟨?_, ?_, ?_⟩
  · have loadsNarrowed :
        ofJson? (Json.ofValue twoWatchesValue).narrowed = some app := by
      rwa [exact_twoWatches.narrowed_eq, ← ofText?_eq_ofJson? read_twoWatches]
    obtain ⟨arranged, loadsValue, _, _⟩ :=
      accepted exact_twoWatches.hasDistinctKeys loadsNarrowed
    exact ⟨app, arranged, loads, loadsValue, keeps arranged loadsValue⟩
  · obtain ⟨app, loads⟩ :=
      Option.isSome_iff_exists.mp
        (show (ofText? wideStateText).isSome = true by
          decide +kernel)
    have distinct : wideState.HasDistinctKeys := by
      refine .object (by simp) ?_
      simpa using .integer _
    have loadsNarrowed : ofJson? wideState.narrowed = some app := by
      rw [ofJson?_narrowed (Json.hasFiniteNumbers_of_read read_wideState),
        ← ofText?_eq_ofJson? read_wideState, loads]
      rintro fields ⟨⟩ name isCounted part found
      have noState : "state" ≠ name := by
        rintro rfl
        exact absurd isCounted (by decide)
      rw [Entries.get?, if_neg noState] at found
      cases found
    obtain ⟨arranged, loadsValue, _, same⟩ :=
      (ofValue?_of_ofText? read_wideState loads).1 distinct loadsNarrowed
    exact ⟨app, arranged, loads, loadsValue, same rfl⟩
  · have portable :
        Value.Portable (.map [("action", .string "hideToast")]) := by
      simp [Value.IsPortable]
    obtain ⟨action, isOwn, isAction, _⟩ := watcher _ _ portable rfl
    cases isOwn
    exact ⟨_, rfl, isAction⟩

end Mockup
