import Mockup.Proofs.Json.Fields
import Mockup.Proofs.Json.Shape
import Mockup.Proofs.Value.Arranged

namespace Mockup

/-!
# Trees written again

A tree becomes a document value, which is written as a tree again with its
keys in ascending order.  Of what has been read from the tree itself, strings
are read again as they are and values arranged; counts may be lost, since the
value of an integer beyond 64 bits is a double.
-/

namespace Entries

/-- Under a name that stands once a list of entries keeps what it had. -/
theorem get?_ofList
    {entries : List (String × α)}
    {name : String}
    (once : (names entries).count name ≤ 1) :
    get? (ofList entries) name = get? entries name := by
  have extended :
      ∀ (later earlier : Entries α),
        (names later).count name ≤ 1 →
        get? (extend earlier later) name =
          (get? later name).or (get? earlier name) := by
    intro later
    induction later with
    | nil =>
        intro earlier _
        rfl
    | cons entry later inductionHypothesis =>
        intro earlier once
        rcases entry with ⟨key, value⟩
        rw [names_cons, List.count_cons] at once
        have rest :=
          inductionHypothesis (insert earlier key value) (by omega)
        rw [extend, List.foldl_cons, ← extend, rest]
        by_cases same : key = name
        · have absent : get? later name = none := by
            rw [get?_eq_none_iff, ← List.count_eq_zero]
            simp only [same, beq_self_eq_true, if_true] at once
            omega
          subst same
          simp [get?, absent]
        · rw [get?_insert_other earlier value (Ne.symm same)]
          simp [get?, same]
  have read := extended entries [] once
  rwa [get?, Option.or_none] at read

end Entries

namespace Json

/-- The tree of the value of a tree, with its keys in ascending order. -/
def rewritten
    (json : Json) :
    Json :=
  (ofValue (.ofJson json)).sorted

theorem rewritten_array
    (items : List Json) :
    (array items).rewritten = .array (items.map rewritten) := by
  rw [rewritten, Value.ofJson, ofValue, ofItems_eq_map, sorted_array,
    Value.ofJsonItems_eq_map, List.map_map, List.map_map]
  rfl

theorem rewritten_object
    (fields : Entries Json) :
    (object fields).rewritten =
      .object
        (Entries.sorted
          (Entries.mapValues (sorted ∘ ofValue)
            (Entries.ofList (Entries.mapValues Value.ofJson fields)))) := by
  rw [rewritten, Value.ofJson, ofValue, ofFields_eq_mapValues, sorted_object,
    Value.ofJsonFields_eq_mapValues, Entries.mapValues_mapValues]

/-- The same fields are found in a record that is written again. -/
theorem record?_rewritten
    {known : List String}
    {json : Json}
    {fields : Entries Json}
    (isRecord : record? known json = some fields) :
    ∃ again,
      record? known json.rewritten = some again ∧
        ∀ name ∈ known,
          Entries.get? again name =
            (Entries.get? fields name).map rewritten := by
  cases json with
  | array items =>
      obtain ⟨fits, same⟩ := Option.ite_none_right_eq_some.mp isRecord
      cases same
      have zipped :
          known.zip (items.map rewritten) =
            Entries.mapValues rewritten (known.zip items) :=
        List.zip_map_right
      rw [rewritten_array]
      refine ⟨_, if_pos (by simpa using fits), fun name _ => ?_⟩
      rw [zipped, Entries.get?_mapValues]
  | object sources =>
      obtain ⟨unrepeated, same⟩ :=
        Option.ite_none_right_eq_some.mp isRecord
      cases same
      have distinct :
          (Entries.names
            (Entries.mapValues (sorted ∘ ofValue)
              (Entries.ofList
                (Entries.mapValues Value.ofJson fields)))).Nodup := by
        simpa using Entries.nodup_names_ofList _
      rw [rewritten_object]
      refine ⟨_, if_pos (List.all_eq_true.mpr fun name _ =>
        isUnrepeated_of_nodup (Entries.nodup_names_sorted distinct) name),
        fun name isKnown => ?_⟩
      have once :
          (Entries.names
            (Entries.mapValues Value.ofJson fields)).count name ≤ 1 := by
        rw [Entries.names_mapValues]
        exact isUnrepeated_iff.mp
          (List.all_eq_true.mp unrepeated name isKnown)
      rw [Entries.get?_sorted distinct, Entries.get?_mapValues,
        Entries.get?_ofList once, Entries.get?_mapValues, Option.map_map]
      rfl
  | _ =>
      cases isRecord

/-! ## Finite numbers -/

namespace HasFiniteNumbers

theorem items
    {items : List Json}
    (finite : HasFiniteNumbers (.array items)) :
    ∀ item ∈ items, item.HasFiniteNumbers := by
  cases finite with
  | scalar isScalar =>
      cases isScalar
  | array finiteItems =>
      exact finiteItems

theorem fields
    {fields : Entries Json}
    (finite : HasFiniteNumbers (.object fields)) :
    ∀ field ∈ fields, field.2.HasFiniteNumbers := by
  cases finite with
  | scalar isScalar =>
      cases isScalar
  | object finiteFields =>
      exact finiteFields

theorem record?
    {json : Json}
    (finite : json.HasFiniteNumbers)
    {known : List String}
    {fields : Entries Json}
    (isRecord : json.record? known = some fields) :
    ∀ field ∈ fields, field.2.HasFiniteNumbers := by
  cases json with
  | array items =>
      obtain ⟨_, same⟩ := Option.ite_none_right_eq_some.mp isRecord
      cases same
      exact fun field member =>
        finite.items field.2 (List.of_mem_zip member).2
  | object sources =>
      obtain ⟨_, same⟩ := Option.ite_none_right_eq_some.mp isRecord
      cases same
      exact finite.fields
  | _ =>
      cases isRecord

/-- The value of a tree with finite numbers is portable. -/
theorem portable
    {json : Json}
    (finite : json.HasFiniteNumbers) :
    (Value.ofJson json).Portable := by
  induction finite with
  | @scalar part isScalar =>
      cases part with
      | null | bool _ | string _ =>
          simp [Value.ofJson, Value.IsPortable]
      | integer number =>
          have isFinite : (Double.ofInt number).isFinite = true :=
            isScalar
          rw [Value.ofJson, Value.ofInteger]
          split <;> simp [Value.IsPortable, isFinite]
      | number double =>
          have isFinite : double.isFinite = true :=
            isScalar
          simp [Value.ofJson, Value.IsPortable, isFinite]
      | array _ | object _ =>
          cases isScalar
  | @array items _ inductionHypothesis =>
      rw [Value.ofJson, Value.ofJsonItems_eq_map]
      exact Value.Throughout.list_iff.mpr
        ⟨trivial, List.forall_mem_map.mpr inductionHypothesis⟩
  | @object fields _ inductionHypothesis =>
      rw [Value.ofJson, Value.ofJsonFields_eq_mapValues]
      refine Value.Throughout.map_iff.mpr
        ⟨Entries.nodup_names_ofList _, fun entry member => ?_⟩
      obtain ⟨field, isField, rfl⟩ :=
        List.mem_map.mp (Entries.mem_of_mem_ofList member)
      exact inductionHypothesis field isField

end HasFiniteNumbers

/-! ## Reading again -/

/-- What is read from a rewritten tree is the arranged form of what was. -/
def ReadsArranged
    (read? : Json → Option α)
    (arranged : α → α) :
    Prop :=
  ∀ json value,
    json.HasFiniteNumbers →
    read? json = some value →
    read? json.rewritten = some (arranged value)

theorem readsArranged_string :
    ReadsArranged asString? id := by
  rintro (_ | _ | _ | _ | value | _ | _) result _ ⟨⟩
  simp only [rewritten, Value.ofJson, ofValue, sorted, asString?, id]

theorem readsArranged_value :
    ReadsArranged asValue? Value.arranged := by
  rintro json value finite ⟨⟩
  rw [asValue?, rewritten, Value.ofJson_sorted_ofValue finite.portable]

theorem ReadsArranged.list
    {read? : Json → Option α}
    {arranged : α → α}
    (reads : ReadsArranged read? arranged) :
    ReadsArranged (asList? read?) (List.map arranged) := by
  intro json values finite readsList
  cases json with
  | array items =>
      rw [rewritten_array]
      rw [asList?, mapM_eq_some_iff] at readsList ⊢
      rw [List.forall₂_map_left_iff, List.forall₂_map_right_iff]
      have each := finite.items
      clear finite
      induction readsList with
      | nil =>
          exact .nil
      | @cons item value items values head _ inductionHypothesis =>
          obtain ⟨finiteItem, finiteItems⟩ := List.forall_mem_cons.mp each
          exact .cons (reads item value finiteItem head)
            (inductionHypothesis finiteItems)
  | _ =>
      cases readsList

/-- What stands in a list that has been read has been read from an item. -/
theorem exists_item_of_mem
    {read? : Json → Option α}
    {items : List Json}
    {values : List α}
    (readsList : asList? read? (.array items) = some values)
    {value : α}
    (member : value ∈ values) :
    ∃ item ∈ items, read? item = some value := by
  rw [asList?, mapM_eq_some_iff] at readsList
  induction readsList with
  | nil =>
      cases member
  | cons head _ inductionHypothesis =>
      rcases List.mem_cons.mp member with rfl | inRest
      · exact ⟨_, List.mem_cons_self, head⟩
      · obtain ⟨item, isItem, reads⟩ := inductionHypothesis inRest
        exact ⟨item, List.mem_cons_of_mem _ isItem, reads⟩

section

variable
  {read? : Json → Option α}
  {arranged : α → α}
  (reads : ReadsArranged read? arranged)
  {fields again : Entries Json}
  (finite : ∀ field ∈ fields, field.2.HasFiniteNumbers)
  {name : String}
  (found :
    Entries.get? again name = (Entries.get? fields name).map rewritten)
  {value : α}

include reads finite found

theorem ReadsArranged.required
    (readsField : required? fields name read? = some value) :
    required? again name read? = some (arranged value) := by
  obtain ⟨json, isJson, readsJson⟩ := Option.bind_eq_some_iff.mp readsField
  rw [required?, found, isJson]
  exact reads json value
    (finite _ (Entries.mem_of_get?_eq_some isJson)) readsJson

theorem ReadsArranged.defaulted
    {default : α}
    (keeps : arranged default = default)
    (readsField : defaulted? fields name default read? = some value) :
    defaulted? again name default read? = some (arranged value) := by
  unfold defaulted? at readsField ⊢
  rw [found]
  cases isJson : Entries.get? fields name with
  | none =>
      rw [isJson] at readsField
      cases readsField
      rw [keeps]
      rfl
  | some json =>
      rw [isJson] at readsField
      exact reads json value
        (finite _ (Entries.mem_of_get?_eq_some isJson)) readsField

end

end Json

end Mockup
