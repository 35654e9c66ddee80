import Mockup.Json.Record
import Mockup.Proofs.Json.Exact

namespace Mockup

/-!
# Reading and writing the same

A reader and a writer belong together when what is read from an exact tree is
read again after it has been written, be it with the keys in ascending order
on either side.  A record has this property when its fields have it, and the
proof for a record goes through its fields in the order in which the reader
takes them.
-/

namespace Json

/--
A reader and a writer that belong together.  What is read from a tree with
sorted keys is the *arranged* form of what is read from the tree itself; both
are written alike up to the order of keys, and the writing reads as the
arranged form.
-/
def IsCodec
    (read? : Json → Option α)
    (write : α → Json) :
    Prop :=
  ∀ json value,
    json.IsExact →
    read? json = some value →
    (write value).IsExact ∧
      ∃ arranged,
        (write arranged).sorted = (write value).sorted ∧
          read? json.sorted = some arranged ∧
          read? (write value).sorted = some arranged

/-- The same for a part that may be absent, on either side. -/
def IsField
    (look? : Option Json → Option α)
    (write : α → Option Json) :
    Prop :=
  ∀ source value,
    (∀ json, source = some json → json.IsExact) →
    look? source = some value →
    (∀ json, write value = some json → json.IsExact) ∧
      ∃ arranged,
        (write arranged).map sorted = (write value).map sorted ∧
          look? (source.map sorted) = some arranged ∧
          look? ((write value).map sorted) = some arranged

/-- What is read from sorted keys is read from its own writing. -/
theorem IsCodec.read_write
    {read? : Json → Option α}
    {write : α → Json}
    (codec : IsCodec read? write)
    {json : Json}
    (exact : json.IsExact)
    {value : α}
    (reads : read? json.sorted = some value) :
    (write value).IsExact ∧ read? (write value).sorted = some value := by
  obtain ⟨exactWrite, arranged, _, readsSorted, rereads⟩ :=
    codec _ _ exact.sorted reads
  rw [sorted_sorted exact, reads] at readsSorted
  cases readsSorted
  exact ⟨exactWrite, rereads⟩

/-! ## Scalars and values -/

theorem isCodec_string :
    IsCodec asString? string := by
  rintro (_ | _ | _ | _ | value | _ | _) result exact ⟨⟩
  exact ⟨exact, value, by simp only [sorted, asString?, and_self]⟩

theorem isCodec_bool :
    IsCodec asBool? bool := by
  rintro (_ | value | _ | _ | _ | _ | _) result exact ⟨⟩
  exact ⟨exact, value, by simp only [sorted, asBool?, and_self]⟩

theorem isCodec_count :
    IsCodec asCount? ofCount := by
  intro json count exact reads
  have written : json = ofCount count := by
    cases json with
    | integer value =>
        obtain ⟨natural, same⟩ := Option.ite_none_right_eq_some.mp reads
        cases same
        rw [ofCount, Int.toNat_of_nonneg natural]
    | _ =>
        cases reads
  subst written
  have isSorted : (ofCount count).sorted = ofCount count :=
    rfl
  exact ⟨exact, count, rfl, by rwa [isSorted], by rwa [isSorted]⟩

theorem isCodec_value :
    IsCodec asValue? ofValue := by
  rintro json value exact ⟨⟩
  refine ⟨?_, Value.ofJson json.sorted, ?_⟩
  · rwa [ofValue_ofJson exact]
  · rw [ofValue_ofJson exact, ofValue_ofJson exact.sorted,
      sorted_sorted exact]
    exact ⟨rfl, rfl, rfl⟩

/-! ## Lists and maps -/

theorem mapM_eq_some_iff
    {read? : α → Option β}
    {items : List α}
    {values : List β} :
    items.mapM read? = some values ↔
      List.Forall₂ (fun item value => read? item = some value)
        items values := by
  induction items generalizing values with
  | nil =>
      simp [eq_comm]
  | cons item items inductionHypothesis =>
      simp only [List.mapM_cons, Option.bind_eq_bind,
        Option.bind_eq_some_iff, inductionHypothesis, Option.pure_def,
        Option.some.injEq, List.forall₂_cons_left_iff, eq_comm (b := values)]
      simp only [exists_and_left]

/-- What a codec says of every item of a list. -/
theorem IsCodec.forall₂
    {read? : Json → Option α}
    {write : α → Json}
    (codec : IsCodec read? write)
    {items : List Json}
    {values : List α}
    (exact : ∀ item ∈ items, item.IsExact)
    (reads :
      List.Forall₂ (fun item value => read? item = some value)
        items values) :
    (∀ value ∈ values, (write value).IsExact) ∧
      ∃ arranged : List α,
        (arranged.map write).map sorted = (values.map write).map sorted ∧
          List.Forall₂ (fun item value => read? item = some value)
            (items.map sorted) arranged ∧
          List.Forall₂ (fun item value => read? item = some value)
            ((values.map write).map sorted) arranged := by
  induction reads with
  | nil =>
      exact ⟨by simp, [], rfl, .nil, .nil⟩
  | @cons item value items values head _ inductionHypothesis =>
      obtain ⟨exactItem, exactItems⟩ := List.forall_mem_cons.mp exact
      obtain ⟨exactHead, first, sameHead, readsHead, rereadsHead⟩ :=
        codec item value exactItem head
      obtain ⟨exactTail, rest, sameTail, readsTail, rereadsTail⟩ :=
        inductionHypothesis exactItems
      refine ⟨List.forall_mem_cons.mpr ⟨exactHead, exactTail⟩,
        first :: rest, ?_, .cons readsHead readsTail,
        .cons rereadsHead rereadsTail⟩
      simp only [List.map_cons, sameHead, sameTail]

/-- Lists are read and written item by item. -/
theorem IsCodec.list
    {read? : Json → Option α}
    {write : α → Json}
    (codec : IsCodec read? write) :
    IsCodec (asList? read?) fun values => .array (values.map write) := by
  intro json values exact reads
  cases json with
  | array items =>
      obtain ⟨exactValues, arranged, same, readsSorted, rereads⟩ :=
        codec.forall₂ exact.items (mapM_eq_some_iff.mp reads)
      refine ⟨.array ?_, arranged, ?_⟩
      · rwa [List.forall_mem_map]
      · simp only [sorted_array, asList?]
        exact ⟨congrArg array same, mapM_eq_some_iff.mpr readsSorted,
          mapM_eq_some_iff.mpr rereads⟩
  | _ =>
      cases reads

/-- A map of values is read and written as a value. -/
theorem isCodec_map :
    IsCodec asMap? fun entries => .object (ofFields entries) := by
  intro json entries exact reads
  have asValue :
      ∀ {tree : Json} {read : Entries Value},
        asMap? tree = some read ↔
          asValue? tree = some (.map read) := by
    intro tree read
    cases tree with
    | integer value =>
        simp only [asMap?, asValue?, Value.ofJson, Value.ofInteger]
        split <;> simp
    | _ =>
        simp [asMap?, asValue?, Value.ofJson]
  obtain ⟨exactWrite, arranged, same, readsSorted, rereads⟩ :=
    isCodec_value json (.map entries) exact (asValue.mp reads)
  obtain ⟨sortedEntries, rfl⟩ : ∃ read, arranged = .map read := by
    cases json with
    | object fields =>
        rw [sorted_object, asValue?, Value.ofJson] at readsSorted
        exact ⟨_, (Option.some.inj readsSorted).symm⟩
    | _ =>
        cases reads
  rw [ofValue, ofValue] at same
  rw [ofValue] at exactWrite rereads
  exact ⟨exactWrite, sortedEntries, same, asValue.mpr readsSorted,
    asValue.mpr rereads⟩

/-- How the entries of a map are read, one by one. -/
def ReadsEntry
    (read? : Json → Option α)
    (field : String × Json)
    (entry : String × α) :
    Prop :=
  field.1 = entry.1 ∧ read? field.2 = some entry.2

theorem ReadsEntry.names_eq
    {read? : Json → Option α}
    {fields : Entries Json}
    {entries : Entries α}
    (reads : List.Forall₂ (ReadsEntry read?) fields entries) :
    Entries.names fields = Entries.names entries := by
  induction reads with
  | nil =>
      rfl
  | cons head _ inductionHypothesis =>
      rw [Entries.names_cons, Entries.names_cons, head.1,
        inductionHypothesis]

/-- An object without repeated keys is read entry by entry. -/
theorem asEntries?_eq_some_iff
    {read? : Json → Option α}
    {fields : Entries Json}
    {entries : Entries α}
    (distinct : (Entries.names fields).Nodup) :
    asEntries? read? (.object fields) = some entries ↔
      List.Forall₂ (ReadsEntry read?) fields entries := by
  have readsEntry :
      ∀ (field : String × Json) (entry : String × α),
        (read? field.2).map (fun value => (field.1, value)) =
            some entry ↔
          ReadsEntry read? field entry := by
    rintro field ⟨name, value⟩
    simp [ReadsEntry, and_comm]
  simp only [asEntries?, Option.map_eq_some_iff, mapM_eq_some_iff,
    readsEntry]
  constructor
  · rintro ⟨read, reads, rfl⟩
    rwa [Entries.ofList_of_nodup (ReadsEntry.names_eq reads ▸ distinct)]
  · intro reads
    exact ⟨entries, reads,
      Entries.ofList_of_nodup (ReadsEntry.names_eq reads ▸ distinct)⟩

/-- What a codec says of every entry of a map. -/
theorem IsCodec.entries_forall₂
    {read? : Json → Option α}
    {write : α → Json}
    (codec : IsCodec read? write)
    {fields : Entries Json}
    {entries : Entries α}
    (exact : ∀ field ∈ fields, field.2.IsExact)
    (reads : List.Forall₂ (ReadsEntry read?) fields entries) :
    (∀ entry ∈ entries, (write entry.2).IsExact) ∧
      ∃ arranged : Entries α,
        Entries.mapValues sorted (Entries.mapValues write arranged) =
            Entries.mapValues sorted (Entries.mapValues write entries) ∧
          List.Forall₂ (ReadsEntry read?)
            (Entries.mapValues sorted fields) arranged ∧
          List.Forall₂ (ReadsEntry read?)
            (Entries.mapValues sorted (Entries.mapValues write entries))
            arranged := by
  induction reads with
  | nil =>
      exact ⟨by simp, [], rfl, .nil, .nil⟩
  | @cons field entry fields entries head _ inductionHypothesis =>
      obtain ⟨name, json⟩ := field
      obtain ⟨_, value⟩ := entry
      obtain ⟨rfl, readsValue⟩ := head
      obtain ⟨exactField, exactFields⟩ := List.forall_mem_cons.mp exact
      obtain ⟨exactHead, first, sameHead, readsHead, rereadsHead⟩ :=
        codec json value exactField readsValue
      obtain ⟨exactTail, rest, sameTail, readsTail, rereadsTail⟩ :=
        inductionHypothesis exactFields
      refine ⟨List.forall_mem_cons.mpr ⟨exactHead, exactTail⟩,
        (name, first) :: rest, ?_, .cons ⟨rfl, readsHead⟩ readsTail,
        .cons ⟨rfl, rereadsHead⟩ rereadsTail⟩
      unfold Entries.mapValues at sameTail ⊢
      simp only [List.map_cons, sameHead, sameTail]

/-- Maps are read and written entry by entry. -/
theorem IsCodec.entries
    {read? : Json → Option α}
    {write : α → Json}
    (codec : IsCodec read? write) :
    IsCodec (asEntries? read?)
      fun entries => .object (Entries.mapValues write entries) := by
  intro json entries exact reads
  cases json with
  | object fields =>
      have each := (asEntries?_eq_some_iff exact.distinct).mp reads
      have distinct : (Entries.names entries).Nodup :=
        ReadsEntry.names_eq each ▸ exact.distinct
      have readsSorted :
          ∀ {sources : Entries Json} {read : Entries α},
            (Entries.names sources).Nodup →
            List.Forall₂ (ReadsEntry read?) sources read →
            asEntries? read? (.object (Entries.sorted sources)) =
              some (Entries.sorted read) :=
        fun distinctSources inTurn =>
          (asEntries?_eq_some_iff
              (Entries.nodup_names_sorted distinctSources)).mpr
            (Entries.forall₂_sorted (fun _ _ head => head.1) inTurn)
      obtain ⟨exactEntries, arranged, same, readsArranged, rereads⟩ :=
        codec.entries_forall₂ exact.fields each
      refine ⟨.object (by simpa using distinct) ?_,
        Entries.sorted arranged, ?_, ?_, ?_⟩
      · unfold Entries.mapValues
        rwa [List.forall_mem_map]
      · have written :
            Entries.mapValues sorted
                (Entries.mapValues write (Entries.sorted arranged)) =
              Entries.sorted
                (Entries.mapValues sorted
                  (Entries.mapValues write entries)) := by
          rw [← Entries.sorted_mapValues, ← Entries.sorted_mapValues, same]
        rw [sorted_object, sorted_object, written,
          Entries.sorted_sorted (by simpa using distinct)]
      · rw [sorted_object]
        exact readsSorted (by simpa using exact.distinct) readsArranged
      · rw [sorted_object]
        exact readsSorted (by simpa using distinct) rereads
  | _ =>
      cases reads

end Json

end Mockup
