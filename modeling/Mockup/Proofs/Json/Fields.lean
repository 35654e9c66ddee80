import Mathlib.Data.List.Nodup
import Mockup.Proofs.Entries
import Mockup.Proofs.Json.Codec

namespace Mockup

/-!
# Records field by field

The reader of a record takes one field after the other, and its writer writes
them in the same order.  So the proof that the two belong together follows
the reader: while some members have been accounted for, the rest of the
reader yields the rest of the members.
-/

namespace Entries

theorem mapValues_append
    (change : α → β)
    (earlier later : Entries α) :
    mapValues change (earlier ++ later) =
      mapValues change earlier ++ mapValues change later :=
  List.map_append

end Entries

namespace Json

/-! ## Single members -/

section

variable (name : String)

@[simp] theorem optionalMember_none
    (write : α → Json) :
    optionalMember name write none = [] :=
  rfl

@[simp] theorem optionalMember_some
    (write : α → Json)
    (value : α) :
    optionalMember name write (some value) = [(name, write value)] :=
  rfl

theorem optionalMember_map
    (write : α → Json)
    (value : Option α) :
    optionalMember name id (value.map write) =
      optionalMember name write value := by
  cases value <;> rfl

theorem mapValues_optionalMember
    (member : Option Json) :
    Entries.mapValues sorted (optionalMember name id member) =
      optionalMember name id (member.map sorted) := by
  cases member <;> rfl

variable {name}

theorem get?_optionalMember_same
    (member : Option Json) :
    Entries.get? (optionalMember name id member) name = member := by
  cases member <;> simp [Entries.get?]

theorem get?_optionalMember_other
    {other : String}
    (different : other ≠ name)
    (member : Option Json) :
    Entries.get? (optionalMember name id member) other = none := by
  cases member <;> simp [Entries.get?, Ne.symm different]

end

/-! ## Fields -/

/-- What is read of a member with a default, given what stands there. -/
def lookDefaulted
    (default : α)
    (read? : Json → Option α) :
    Option Json → Option α
  | none =>
      some default
  | some json =>
      read? json

/-- What is read of an optional member, given what stands there. -/
def lookOptional
    (read? : Json → Option α) :
    Option Json → Option (Option α)
  | none =>
      some none
  | some .null =>
      some none
  | some json =>
      (read? json).map some

theorem lookOptional_of_present
    (read? : Json → Option α)
    {json : Json}
    (present : json ≠ .null) :
    lookOptional read? (some json) = (read? json).map some := by
  cases json <;> first | rfl | exact absurd rfl present

theorem sorted_ne_null
    {json : Json}
    (present : json ≠ .null) :
    json.sorted ≠ .null := by
  cases json <;> simp_all [sorted]

/-- What is written for a present value is not read as its absence. -/
def IsPresent
    (read? : Json → Option α)
    (write : α → Json) :
    Prop :=
  ∀ json value,
    json ≠ .null →
    json.IsExact →
    read? json = some value →
    write value ≠ .null

/-- What is written as an object is never read as absent. -/
theorem isPresent_of_object
    {read? : Json → Option α}
    {write : α → Json}
    (isObject : ∀ value, ∃ members, write value = .object members) :
    IsPresent read? write := by
  intro _ value _ _ _ isNull
  obtain ⟨members, written⟩ := isObject value
  rw [written] at isNull
  cases isNull

theorem isPresent_string :
    IsPresent asString? string := by
  rintro _ _ _ _ _ ⟨⟩

theorem isPresent_count :
    IsPresent asCount? ofCount := by
  rintro _ _ _ _ _ ⟨⟩

/-- Only null is a tree whose value is written as null. -/
theorem isPresent_value :
    IsPresent asValue? ofValue := by
  rintro json _ present exact ⟨⟩
  rwa [ofValue_ofJson exact]

section

variable
  {read? : Json → Option α}
  {write : α → Json}
  (codec : IsCodec read? write)
include codec

/-- A field that must be present. -/
theorem IsCodec.required :
    IsField (fun source => source.bind read?)
      (fun value => some (write value)) := by
  intro source value exact reads
  obtain ⟨json, rfl, readsJson⟩ := Option.bind_eq_some_iff.mp reads
  obtain ⟨exactWrite, arranged, same, readsSorted, rereads⟩ :=
    codec json value (exact json rfl) readsJson
  refine ⟨?_, arranged, congrArg some same, readsSorted, rereads⟩
  rintro _ ⟨⟩
  exact exactWrite

/-- A field with a default for its absence, which is always written. -/
theorem IsCodec.defaulted
    {default : α}
    (exactDefault : (write default).IsExact)
    (readsDefault : read? (write default).sorted = some default) :
    IsField (lookDefaulted default read?)
      (fun value => some (write value)) := by
  intro source value exact reads
  cases source with
  | none =>
      cases reads
      refine ⟨?_, default, rfl, rfl, readsDefault⟩
      rintro _ ⟨⟩
      exact exactDefault
  | some json =>
      exact codec.required (some json) value exact reads

/-- A field that may be absent, and is written unless it is. -/
theorem IsCodec.optional
    (staysPresent : IsPresent read? write) :
    IsField (lookOptional read?) (fun value => value.map write) := by
  intro source value exact reads
  by_cases isPresent : ∃ json, source = some json ∧ json ≠ .null
  · obtain ⟨json, rfl, notNull⟩ := isPresent
    rw [lookOptional_of_present read? notNull] at reads
    obtain ⟨part, readsPart, rfl⟩ := Option.map_eq_some_iff.mp reads
    obtain ⟨exactWrite, arranged, same, readsSorted, rereads⟩ :=
      codec json part (exact json rfl) readsPart
    have writtenNotNull :=
      staysPresent json part notNull (exact json rfl) readsPart
    refine ⟨?_, some arranged, congrArg some same, ?_, ?_⟩
    · rintro _ ⟨⟩
      exact exactWrite
    · have looks := lookOptional_of_present read?
        (sorted_ne_null notNull)
      rwa [readsSorted] at looks
    · have looks := lookOptional_of_present read?
        (sorted_ne_null writtenNotNull)
      rwa [rereads] at looks
  · have isAbsent : source = none ∨ source = some .null := by
      cases source with
      | none =>
          exact Or.inl rfl
      | some json =>
          refine Or.inr (congrArg some ?_)
          by_contra notNull
          exact isPresent ⟨json, rfl, notNull⟩
    rcases isAbsent with rfl | rfl <;>
    · cases reads
      exact ⟨by simp, none, rfl, rfl, rfl⟩

end

/-- Objects that are alike when they are sorted have as many members. -/
theorem length_eq_of_sorted_eq
    {left right : Entries Json}
    (same : (object left).sorted = (object right).sorted) :
    left.length = right.length := by
  rw [sorted_object, sorted_object] at same
  have lengths := congrArg List.length (object.inj same)
  simpa [(Entries.sorted_perm _).length_eq, Entries.mapValues] using
    lengths

/-- A map that is empty in its absence, which is not written while empty. -/
theorem IsCodec.unlessEmpty
    {read? : Json → Option (Entries α)}
    {write : Entries α → Json}
    (codec : IsCodec read? write)
    (eachMember :
      ∀ entries, ∃ members,
        write entries = .object members ∧
          members.length = entries.length) :
    IsField (lookDefaulted [] read?)
      (fun entries =>
        if entries.isEmpty then none else some (write entries)) := by
  intro source entries exact reads
  cases source with
  | none =>
      cases reads
      exact ⟨by simp, [], rfl, rfl, rfl⟩
  | some json =>
      obtain ⟨exactWrite, arranged, same, readsSorted, rereads⟩ :=
        codec json entries (exact json rfl) reads
      have alike : arranged.isEmpty = entries.isEmpty := by
        obtain ⟨members, written, each⟩ := eachMember entries
        obtain ⟨arrangedMembers, arrangedWritten, arrangedEach⟩ :=
          eachMember arranged
        rw [written, arrangedWritten] at same
        have sameLength := length_eq_of_sorted_eq same
        rw [each, arrangedEach] at sameLength
        rw [Bool.eq_iff_iff, List.isEmpty_iff_length_eq_zero,
          List.isEmpty_iff_length_eq_zero, sameLength]
      cases isEmpty : entries.isEmpty with
      | true =>
          rw [isEmpty, List.isEmpty_iff] at alike
          subst alike
          refine ⟨by simp [isEmpty], [], by simp [isEmpty], readsSorted, ?_⟩
          simp only [isEmpty, if_true]
          rfl
      | false =>
          rw [isEmpty] at alike
          simp only [isEmpty, Bool.false_eq_true, if_false,
            Option.some.injEq]
          refine ⟨?_, arranged, ?_, readsSorted, rereads⟩
          · rintro _ rfl
            exact exactWrite
          · simp only [alike, Bool.false_eq_true, if_false,
              Option.map_some, same]

/-! ## The rest of a record -/

/-- Under some names stands what stands in other members, arranged. -/
structure Mirrors
    (names : List String)
    (fields source : Entries Json) :
    Prop where
  unrepeated :
    ∀ name, isUnrepeated fields name = true
  found :
    ∀ name ∈ names,
      Entries.get? fields name = (Entries.get? source name).map sorted

theorem Mirrors.weaken
    {names fewer : List String}
    {fields source : Entries Json}
    (mirrors : Mirrors names fields source)
    (subset : fewer ⊆ names) :
    Mirrors fewer fields source :=
  ⟨mirrors.unrepeated, fun name member =>
    mirrors.found name (subset member)⟩

/--
The rest of a record.  When some members have been accounted for, and in the
arranged record others, what is read yields the members that are left, under
names that are left; and what is arranged is read from the arranged members
of the source and of the writing.
-/
def IsRest
    (toJson : α → Json)
    (names : List String)
    (members arrangedMembers : Entries Json)
    (read? arrangedRead? : Entries Json → Option α) :
    Prop :=
  ∀ fields value,
    (∀ field ∈ fields, field.2.IsExact) →
    read? fields = some value →
    ∃ rest arrangedRest arranged,
      toJson value = .object (members ++ rest) ∧
        toJson arranged = .object (arrangedMembers ++ arrangedRest) ∧
        Entries.mapValues sorted arrangedRest =
          Entries.mapValues sorted rest ∧
        (∀ field ∈ rest, field.2.IsExact) ∧
        (Entries.names rest).Nodup ∧
        Entries.names rest ⊆ names ∧
        ∀ again,
          Mirrors names again fields ∨ Mirrors names again rest →
          arrangedRead? again = some arranged

namespace IsRest

variable
  {toJson : α → Json}
  {names : List String}
  {members arrangedMembers : Entries Json}

/-- The end of a record: all members have been accounted for. -/
theorem finish
    {value arranged : α}
    (written : toJson value = .object members)
    (arrangedWritten : toJson arranged = .object arrangedMembers) :
    IsRest toJson names members arrangedMembers
      (fun _ => some value) (fun _ => some arranged) := by
  rintro fields _ _ ⟨⟩
  exact ⟨[], [], arranged, by simp [written], by simp [arrangedWritten],
    rfl, by simp, by simp, by simp, fun _ _ => rfl⟩

/-- More names may be left than are needed. -/
theorem weaken
    {fewer : List String}
    {read? arrangedRead? : Entries Json → Option α}
    (rest :
      IsRest toJson fewer members arrangedMembers read? arrangedRead?)
    (subset : fewer ⊆ names) :
    IsRest toJson names members arrangedMembers read? arrangedRead? := by
  intro fields value exact reads
  obtain ⟨news, arrangedNews, arranged, written, arrangedWritten, same,
    exactNews, distinct, named, rereads⟩ := rest fields value exact reads
  refine ⟨news, arrangedNews, arranged, written, arrangedWritten, same,
    exactNews, distinct, List.Subset.trans named subset, ?_⟩
  intro again mirrors
  exact rereads again
    (mirrors.imp (fun source => source.weaken subset)
      fun writing => writing.weaken subset)

/-- A check that no name is repeated always succeeds again. -/
theorem checked
    {fewer : List String}
    (subset : fewer ⊆ names)
    {read? arrangedRead? : Entries Json → Option α}
    (rest :
      IsRest toJson fewer members arrangedMembers read? arrangedRead?) :
    IsRest toJson names members arrangedMembers
      (fun fields =>
        (if fewer.all (isUnrepeated fields) then some () else none).bind
          fun _ => read? fields)
      (fun fields =>
        (if fewer.all (isUnrepeated fields) then some () else none).bind
          fun _ => arrangedRead? fields) := by
  refine weaken ?_ subset
  intro fields value exact reads
  obtain ⟨_, _, readsOn⟩ := Option.bind_eq_some_iff.mp reads
  obtain ⟨news, arrangedNews, arranged, written, arrangedWritten, same,
    exactNews, distinct, named, rereads⟩ :=
      rest fields value exact readsOn
  refine ⟨news, arrangedNews, arranged, written, arrangedWritten, same,
    exactNews, distinct, named, ?_⟩
  intro again mirrors
  have unrepeated : fewer.all (isUnrepeated again) = true := by
    refine List.all_eq_true.mpr fun name _ => ?_
    exact mirrors.elim (fun source => source.unrepeated name)
      fun writing => writing.unrepeated name
  simp only [unrepeated, if_true, Option.bind_some]
  exact rereads again mirrors

/-- One field, and then what is left without it. -/
theorem field
    {look? : Option Json → Option β}
    {write : β → Option Json}
    (isField : IsField look? write)
    {name : String}
    (fresh : name ∉ names)
    {next arrangedNext : β → Entries Json → Option α}
    (rest :
      ∀ value arranged,
        (write arranged).map sorted = (write value).map sorted →
        (∃ source, look? source = some value) →
        IsRest toJson names
          (members ++ optionalMember name id (write value))
          (arrangedMembers ++ optionalMember name id (write arranged))
          (next value) (arrangedNext arranged)) :
    IsRest toJson (name :: names) members arrangedMembers
      (fun fields =>
        (look? (Entries.get? fields name)).bind fun value =>
          next value fields)
      (fun fields =>
        (look? (Entries.get? fields name)).bind fun value =>
          arrangedNext value fields) := by
  intro fields value exact reads
  obtain ⟨first, readsFirst, readsOn⟩ := Option.bind_eq_some_iff.mp reads
  obtain ⟨exactFirst, arrangedFirst, sameFirst, looksSource,
    looksWriting⟩ :=
      isField _ first
        (fun json found =>
          exact (name, json) (Entries.mem_of_get?_eq_some found))
        readsFirst
  obtain ⟨news, arrangedNews, arranged, written, arrangedWritten, same,
    exactNews, distinct, named, rereads⟩ :=
      rest first arrangedFirst sameFirst ⟨_, readsFirst⟩ fields value exact
        readsOn
  have absent : name ∉ Entries.names news :=
    fun member => fresh (named member)
  refine ⟨optionalMember name id (write first) ++ news,
    optionalMember name id (write arrangedFirst) ++ arrangedNews,
    arranged, ?_, ?_, ?_, ?_, ?_, ?_, ?_⟩
  · rw [written, List.append_assoc]
  · rw [arrangedWritten, List.append_assoc]
  · rw [Entries.mapValues_append, Entries.mapValues_append, same,
      mapValues_optionalMember, mapValues_optionalMember, sameFirst]
  · intro member isMember
    rcases List.mem_append.mp isMember with isFirst | isNews
    · cases isWritten : write first with
      | none =>
          simp [isWritten] at isFirst
      | some json =>
          rw [isWritten, optionalMember_some, List.mem_singleton] at isFirst
          rw [isFirst]
          exact exactFirst json isWritten
    · exact exactNews member isNews
  · cases write first with
    | none =>
        exact distinct
    | some json =>
        exact List.nodup_cons.mpr ⟨absent, distinct⟩
  · cases write first with
    | none =>
        exact List.subset_cons_of_subset _ named
    | some json =>
        exact List.cons_subset_cons name named
  · intro again mirrors
    have looks : look? (Entries.get? again name) = some arrangedFirst := by
      rcases mirrors with source | writing
      · rwa [source.found name List.mem_cons_self]
      · rwa [writing.found name List.mem_cons_self, Entries.get?_append,
          get?_optionalMember_same, Entries.get?_eq_none_iff.mpr absent,
          Option.or_none]
    simp only [looks, Option.bind_some]
    refine rereads again (mirrors.imp ?_ ?_)
    · exact fun source => source.weaken (List.subset_cons_self _ _)
    · intro writing
      refine ⟨writing.unrepeated, fun other member => ?_⟩
      have different : other ≠ name := by
        rintro rfl
        exact fresh member
      rw [writing.found other (List.mem_cons_of_mem _ member),
        Entries.get?_append, get?_optionalMember_other different,
        Option.none_or]

/-- A group of fields that is written by itself, and then what is left. -/
theorem andThen
    {groupJson : β → Json}
    {groupNames : List String}
    {read? arrangedRead? : Entries Json → Option β}
    (group :
      IsRest groupJson groupNames members arrangedMembers
        read? arrangedRead?)
    (apart : ∀ name ∈ groupNames, name ∉ names)
    {next arrangedNext : β → Entries Json → Option α}
    (rest :
      ∀ value arranged fields arrangedFields,
        groupJson value = .object fields →
        groupJson arranged = .object arrangedFields →
        IsRest toJson names fields arrangedFields
          (next value) (arrangedNext arranged)) :
    IsRest toJson (groupNames ++ names) members arrangedMembers
      (fun fields => (read? fields).bind fun value => next value fields)
      (fun fields =>
        (arrangedRead? fields).bind fun value =>
          arrangedNext value fields) := by
  intro fields value exact reads
  obtain ⟨first, readsFirst, readsOn⟩ := Option.bind_eq_some_iff.mp reads
  obtain ⟨earlier, arrangedEarlier, arrangedFirst, writtenFirst,
    arrangedWrittenFirst, sameFirst, exactFirst, distinctFirst, namedFirst,
    rereadsFirst⟩ := group fields first exact readsFirst
  obtain ⟨later, arrangedLater, arranged, written, arrangedWritten, same,
    exactLater, distinct, named, rereads⟩ :=
      rest first arrangedFirst _ _ writtenFirst arrangedWrittenFirst fields
        value exact readsOn
  have foreign :
      ∀ name ∈ Entries.names earlier, name ∉ Entries.names later :=
    fun name isEarlier isLater =>
      apart name (namedFirst isEarlier) (named isLater)
  refine ⟨earlier ++ later, arrangedEarlier ++ arrangedLater, arranged,
    ?_, ?_, ?_, ?_, ?_, ?_, ?_⟩
  · rw [written, List.append_assoc]
  · rw [arrangedWritten, List.append_assoc]
  · rw [Entries.mapValues_append, Entries.mapValues_append, same, sameFirst]
  · intro member isMember
    exact (List.mem_append.mp isMember).elim (exactFirst member)
      (exactLater member)
  · rw [Entries.names, List.map_append]
    refine List.nodup_append.mpr ⟨distinctFirst, distinct, ?_⟩
    rintro name isEarlier _ isLater rfl
    exact foreign name isEarlier isLater
  · rw [Entries.names, List.map_append]
    exact List.append_subset.mpr
      ⟨List.subset_append_of_subset_left _ namedFirst,
        List.subset_append_of_subset_right _ named⟩
  · intro again mirrors
    have readsGroup : arrangedRead? again = some arrangedFirst := by
      refine rereadsFirst again (mirrors.imp ?_ ?_)
      · exact fun source =>
          source.weaken (List.subset_append_left _ _)
      · intro writing
        refine ⟨writing.unrepeated, fun name member => ?_⟩
        rw [writing.found name (List.mem_append_left _ member),
          Entries.get?_append,
          Entries.get?_eq_none_iff.mpr fun isLater =>
            apart name member (named isLater),
          Option.or_none]
    simp only [readsGroup, Option.bind_some]
    refine rereads again (mirrors.imp ?_ ?_)
    · exact fun source => source.weaken (List.subset_append_right _ _)
    · intro writing
      refine ⟨writing.unrepeated, fun name member => ?_⟩
      rw [writing.found name (List.mem_append_right _ member),
        Entries.get?_append,
        Entries.get?_eq_none_iff.mpr fun isEarlier =>
          apart name (namedFirst isEarlier) member,
        Option.none_or]

/-! ## The kinds of fields -/

section

variable
  {read? : Json → Option β}
  {write : β → Json}
  (codec : IsCodec read? write)
  {name : String}
  (fresh : name ∉ names)

include codec fresh

theorem required
    {next arrangedNext : β → Entries Json → Option α}
    (rest :
      ∀ value arranged,
        IsRest toJson names (members ++ [(name, write value)])
          (arrangedMembers ++ [(name, write arranged)])
          (next value) (arrangedNext arranged)) :
    IsRest toJson (name :: names) members arrangedMembers
      (fun fields => required? fields name read? >>= (next · fields))
      (fun fields =>
        required? fields name read? >>= (arrangedNext · fields)) :=
  field codec.required fresh fun value arranged _ _ => rest value arranged

theorem defaulted
    {default : β}
    (exactDefault : (write default).IsExact)
    (readsDefault : read? (write default).sorted = some default)
    {next arrangedNext : β → Entries Json → Option α}
    (rest :
      ∀ value arranged,
        IsRest toJson names (members ++ [(name, write value)])
          (arrangedMembers ++ [(name, write arranged)])
          (next value) (arrangedNext arranged)) :
    IsRest toJson (name :: names) members arrangedMembers
      (fun fields =>
        defaulted? fields name default read? >>= (next · fields))
      (fun fields =>
        defaulted? fields name default read? >>=
          (arrangedNext · fields)) :=
  field (codec.defaulted exactDefault readsDefault) fresh
    fun value arranged _ _ => rest value arranged

theorem optional
    (staysPresent : IsPresent read? write)
    {next arrangedNext : Option β → Entries Json → Option α}
    (rest :
      ∀ value arranged,
        IsRest toJson names (members ++ optionalMember name write value)
          (arrangedMembers ++ optionalMember name write arranged)
          (next value) (arrangedNext arranged)) :
    IsRest toJson (name :: names) members arrangedMembers
      (fun fields => optional? fields name read? >>= (next · fields))
      (fun fields =>
        optional? fields name read? >>= (arrangedNext · fields)) := by
  refine field (codec.optional staysPresent) fresh ?_
  intro value arranged _ _
  rw [optionalMember_map, optionalMember_map]
  exact rest value arranged

end

theorem unlessEmpty
    {read? : Json → Option (Entries β)}
    {write : Entries β → Json}
    (codec : IsCodec read? write)
    (eachMember :
      ∀ entries, ∃ members,
        write entries = .object members ∧
          members.length = entries.length)
    {name : String}
    (fresh : name ∉ names)
    {next arrangedNext : Entries β → Entries Json → Option α}
    (rest :
      ∀ entries arranged,
        IsRest toJson names
          (members ++
            if entries.isEmpty then [] else [(name, write entries)])
          (arrangedMembers ++
            if arranged.isEmpty then [] else [(name, write arranged)])
          (next entries) (arrangedNext arranged)) :
    IsRest toJson (name :: names) members arrangedMembers
      (fun fields =>
        defaulted? fields name [] read? >>= (next · fields))
      (fun fields =>
        defaulted? fields name [] read? >>=
          (arrangedNext · fields)) := by
  have memberUnlessEmpty :
      ∀ entries : Entries β,
        optionalMember name id
            (if entries.isEmpty then none else some (write entries)) =
          if entries.isEmpty then [] else [(name, write entries)] := by
    intro entries
    split <;> rfl
  refine field (codec.unlessEmpty eachMember) fresh ?_
  intro entries arranged _ _
  rw [memberUnlessEmpty, memberUnlessEmpty]
  exact rest entries arranged

end IsRest

/-! ## Records -/

theorem isUnrepeated_iff
    {fields : Entries Json}
    {name : String} :
    isUnrepeated fields name = true ↔
      (Entries.names fields).count name ≤ 1 := by
  unfold isUnrepeated
  rw [decide_eq_true_eq, Entries.names, List.count, List.countP_map,
    List.countP_eq_length_filter]
  rfl

/-- Of members without repeated names, no name stands twice. -/
theorem isUnrepeated_of_nodup
    {fields : Entries Json}
    (distinct : (Entries.names fields).Nodup)
    (name : String) :
    isUnrepeated fields name = true :=
  isUnrepeated_iff.mpr (List.nodup_iff_count_le_one.mp distinct name)

/--
A way to take a record apart that finds the same members when the keys are
sorted, and that takes every exact object apart.
-/
structure TakesMembers
    (take? : Json → Option (Entries Json)) :
    Prop where
  exact :
    ∀ {json fields},
      json.IsExact →
      take? json = some fields →
      ∀ field ∈ fields, field.2.IsExact
  again :
    ∀ {json fields},
      json.IsExact →
      take? json = some fields →
      ∃ again,
        take? json.sorted = some again ∧
          ∀ names, Mirrors names again fields
  object :
    ∀ {fields},
      (object fields).IsExact →
      take? (.object fields) = some fields

/-- Members of an object are taken as they stand. -/
theorem takesMembers_members
    (known : List String) :
    TakesMembers (members? known) := by
  have object :
      ∀ {fields},
        (Json.object fields).IsExact →
        members? known (.object fields) = some fields := by
    intro fields exact
    refine if_pos (List.all_eq_true.mpr fun name _ => ?_)
    exact isUnrepeated_of_nodup exact.distinct name
  refine ⟨?_, ?_, object⟩ <;> intro json fields exact isObject
  · cases json with
    | object sources =>
        rw [object exact] at isObject
        cases isObject
        exact exact.fields
    | _ =>
        cases isObject
  · cases json with
    | object sources =>
        rw [object exact] at isObject
        cases isObject
        have distinct :
            (Entries.names (Entries.mapValues sorted fields)).Nodup := by
          simpa using exact.distinct
        have exactSorted := exact.sorted
        rw [sorted_object] at exactSorted ⊢
        refine ⟨_, object exactSorted, fun names =>
          ⟨isUnrepeated_of_nodup exactSorted.distinct, fun name _ => ?_⟩⟩
        rw [Entries.get?_sorted distinct, Entries.get?_mapValues]
    | _ =>
        cases isObject

theorem names_zip_sublist
    (names : List String)
    (items : List Json) :
    (Entries.names (names.zip items)).Sublist names := by
  induction names generalizing items with
  | nil =>
      simp
  | cons name names inductionHypothesis =>
      cases items with
      | nil =>
          simp
      | cons item items =>
          exact (inductionHypothesis items).cons_cons name

/-- The items of an array are taken as members, or else those of an object. -/
theorem takesMembers_record
    {known : List String}
    (distinct : known.Nodup) :
    TakesMembers (record? known) := by
  have members := takesMembers_members known
  refine ⟨?_, ?_, members.object⟩ <;> intro json fields exact isRecord
  · cases json with
    | array items =>
        obtain ⟨_, same⟩ := Option.ite_none_right_eq_some.mp isRecord
        cases same
        exact fun field member =>
          exact.items field.2 (List.of_mem_zip member).2
    | object sources =>
        exact members.exact exact isRecord
    | _ =>
        cases isRecord
  · cases json with
    | array items =>
        obtain ⟨fits, same⟩ := Option.ite_none_right_eq_some.mp isRecord
        cases same
        have zipped :
            known.zip (items.map sorted) =
              Entries.mapValues sorted (known.zip items) :=
          List.zip_map_right
        have unrepeated :
            (Entries.names (known.zip (items.map sorted))).Nodup :=
          (names_zip_sublist known _).nodup distinct
        rw [sorted_array]
        refine ⟨_, if_pos (by simpa using fits), fun names =>
          ⟨isUnrepeated_of_nodup unrepeated, fun name _ => ?_⟩⟩
        rw [zipped, Entries.get?_mapValues]
    | object sources =>
        obtain ⟨again, found, mirrors⟩ := members.again exact isRecord
        rw [sorted_object] at found ⊢
        exact ⟨again, found, mirrors⟩
    | _ =>
        cases isRecord

/-- What is read field by field is read as it is written. -/
theorem IsRest.isCodec
    {toJson : α → Json}
    {names : List String}
    {read? : Entries Json → Option α}
    (rest : IsRest toJson names [] [] read? read?)
    {take? : Json → Option (Entries Json)}
    (takes : TakesMembers take?) :
    IsCodec (fun json => take? json >>= read?) toJson := by
  intro json value exact reads
  obtain ⟨fields, isRecord, readsFields⟩ := Option.bind_eq_some_iff.mp reads
  obtain ⟨news, arrangedNews, arranged, written, arrangedWritten, same,
    exactNews, distinct, _, rereads⟩ :=
      rest fields value (takes.exact exact isRecord) readsFields
  have exactWritten : (toJson value).IsExact :=
    written ▸ .object distinct exactNews
  obtain ⟨again, found, mirrors⟩ := takes.again exact isRecord
  obtain ⟨againWritten, foundWritten, mirrorsWritten⟩ :=
    takes.again exactWritten
      (written ▸ takes.object (written ▸ exactWritten))
  refine ⟨exactWritten, arranged, ?_, ?_, ?_⟩
  · rw [written, arrangedWritten, sorted_object, sorted_object]
    exact congrArg (object ∘ Entries.sorted) same
  · simp only [found, Option.bind_eq_bind, Option.bind_some]
    exact rereads again (Or.inl (mirrors names))
  · simp only [foundWritten, Option.bind_eq_bind, Option.bind_some]
    exact rereads againWritten (Or.inr (mirrorsWritten names))

/-- A record that is read field by field is read as it is written. -/
theorem IsCodec.record
    {toJson : α → Json}
    (names : List String)
    (distinct : names.Nodup)
    {read? : Entries Json → Option α}
    (rest : IsRest toJson names [] [] read? read?) :
    IsCodec (fun json => json.record? names >>= read?) toJson :=
  rest.isCodec (takesMembers_record distinct)

end Json

end Mockup
