import Mathlib.Data.List.Nodup
import Mathlib.Data.List.Perm.Subperm
import Mockup.Entries

namespace Mockup

namespace Entries

/-!
# Looking up entries

What writing and removing an entry does to the look-up of every name.  A
removal is undone by a later entry of the same name, so its law asks for names
without repetition, which writing and removing preserve.
-/

/-! ## Names -/

@[simp] theorem names_nil :
    names ([] : Entries α) = [] :=
  rfl

@[simp] theorem names_cons
    (entry : String × α)
    (rest : Entries α) :
    names (entry :: rest) = entry.1 :: names rest :=
  rfl

theorem get?_isSome_iff
    {entries : Entries α}
    {name : String} :
    (get? entries name).isSome ↔ name ∈ names entries := by
  induction entries with
  | nil =>
      simp [get?]
  | cons entry rest inductionHypothesis =>
      rcases entry with ⟨key, value⟩
      by_cases same : key = name
      · simp [get?, same]
      · have other : name ≠ key := Ne.symm same
        simpa [get?, same, other] using inductionHypothesis

theorem get?_eq_none_iff
    {entries : Entries α}
    {name : String} :
    get? entries name = none ↔ name ∉ names entries := by
  rw [← get?_isSome_iff]
  simp

theorem contains_iff
    {entries : Entries α}
    {name : String} :
    contains entries name = true ↔ name ∈ names entries :=
  get?_isSome_iff

theorem mem_of_get?_eq_some
    {entries : Entries α}
    {name : String}
    {value : α}
    (found : get? entries name = some value) :
    (name, value) ∈ entries := by
  induction entries with
  | nil =>
      simp [get?] at found
  | cons entry rest inductionHypothesis =>
      rcases entry with ⟨key, first⟩
      by_cases same : key = name
      · have isFirst : first = value := by
          simpa [get?, same] using found
        simp [same, isFirst]
      · have inRest : get? rest name = some value := by
          simpa [get?, same] using found
        exact List.mem_cons_of_mem _ (inductionHypothesis inRest)

/-- Without repeated names every entry is found. -/
theorem get?_eq_some_of_mem
    {entries : Entries α}
    {name : String}
    {value : α}
    (distinct : (names entries).Nodup)
    (member : (name, value) ∈ entries) :
    get? entries name = some value := by
  induction entries with
  | nil =>
      simp at member
  | cons entry rest inductionHypothesis =>
      rcases entry with ⟨key, first⟩
      have distinctRest := List.nodup_cons.mp distinct
      rcases List.mem_cons.mp member with isFirst | inRest
      · cases isFirst
        simp [get?]
      · have nameInRest : name ∈ names rest :=
          List.mem_map.mpr ⟨(name, value), inRest, rfl⟩
        have different : key ≠ name := by
          intro same
          exact distinctRest.1 (same ▸ nameInRest)
        simpa [get?, different] using
          inductionHypothesis distinctRest.2 inRest

/-- Two collections with the same names, none repeated, are equally long. -/
theorem length_eq_of_same_names
    {left : Entries α}
    {right : Entries β}
    (leftDistinct : (names left).Nodup)
    (rightDistinct : (names right).Nodup)
    (same : ∀ name, name ∈ names left ↔ name ∈ names right) :
    left.length = right.length := by
  have permutation :
      (names left).Perm (names right) :=
    (List.perm_ext_iff_of_nodup leftDistinct rightDistinct).mpr same
  simpa [names] using permutation.length_eq

/--
When each of some entries with distinct names is matched among equally many
others, no other is left over, and every look-up is matched.
-/
theorem rel_get?_of_matched
    {related : α → β → Prop}
    {lefts : Entries α}
    {rights : Entries β}
    (distinct : (names lefts).Nodup)
    (sameLength : lefts.length = rights.length)
    (matched :
      ∀ name left,
        (name, left) ∈ lefts →
        ∃ right, get? rights name = some right ∧ related left right)
    (name : String) :
    Option.Rel related (get? lefts name) (get? rights name) := by
  have found : names lefts ⊆ names rights := by
    intro name member
    obtain ⟨⟨_, left⟩, inLefts, rfl⟩ := List.mem_map.mp member
    obtain ⟨right, atRight, _⟩ := matched _ left inLefts
    exact get?_isSome_iff.mp (by simp [atRight])
  have sameNames : (names lefts).Perm (names rights) :=
    (distinct.subperm found).perm_of_length_le
      (by simp [names, sameLength])
  cases atLeft : get? lefts name with
  | some left =>
      obtain ⟨right, atRight, isRelated⟩ :=
        matched name left (mem_of_get?_eq_some atLeft)
      rw [atRight]
      exact .some isRelated
  | none =>
      have missing : name ∉ names rights :=
        sameNames.mem_iff.not.mp (get?_eq_none_iff.mp atLeft)
      rw [get?_eq_none_iff.mpr missing]
      exact .none

section

variable
  {lefts : Entries α}
  {rights : Entries β}
  (sameNames : names lefts = names rights)

include sameNames

theorem length_eq_of_names_eq :
    lefts.length = rights.length := by
  simpa [names] using congrArg List.length sameNames

/-- Entries with the same names have the same name at every place. -/
theorem name_eq_of_names_eq
    {index : Nat}
    {left : String × α}
    {right : String × β}
    (atLeft : lefts[index]? = some left)
    (atRight : rights[index]? = some right) :
    left.1 = right.1 := by
  have atIndex := congrArg (fun names => names[index]?) sameNames
  simpa [names, atLeft, atRight] using atIndex

end

/-! ## Appending -/

/-- What comes first is found first. -/
theorem get?_append
    (earlier later : Entries α)
    (name : String) :
    get? (earlier ++ later) name =
      (get? earlier name).or (get? later name) := by
  induction earlier with
  | nil =>
      rfl
  | cons entry earlier inductionHypothesis =>
      rcases entry with ⟨key, value⟩
      by_cases same : key = name
      · simp [get?, same]
      · simpa [get?, same] using inductionHypothesis

/-! ## Choosing by name -/

/-- Among the entries with some names, a name is found when it is chosen. -/
theorem get?_filter
    (chosen : String → Bool)
    (entries : Entries α)
    (name : String) :
    get? (entries.filter fun entry => chosen entry.1) name =
      if chosen name then get? entries name else none := by
  induction entries with
  | nil =>
      simp [get?]
  | cons entry rest inductionHypothesis =>
      rcases entry with ⟨key, value⟩
      by_cases same : key = name
      · subst same
        by_cases isChosen : chosen key = true <;>
          simp [get?, isChosen, inductionHypothesis]
      · by_cases isChosen : chosen key = true <;>
          simp [get?, isChosen, same, inductionHypothesis]

/-- What only one name contributes is contributed by its entry. -/
theorem flatMap_eq_of_name
    {entries : Entries α}
    (distinct : (names entries).Nodup)
    {name : String}
    {contributed : String × α → List β}
    (others : ∀ entry, entry.1 ≠ name → contributed entry = []) :
    entries.flatMap contributed =
      match get? entries name with
      | some value =>
          contributed (name, value)
      | none =>
          [] := by
  induction entries with
  | nil =>
      rfl
  | cons entry rest inductionHypothesis =>
      rcases entry with ⟨key, value⟩
      have distinctRest := List.nodup_cons.mp distinct
      have inRest := inductionHypothesis distinctRest.2
      by_cases same : key = name
      · subst same
        rw [get?_eq_none_iff.mpr distinctRest.1] at inRest
        simp [get?, inRest]
      · simp [get?, same, others (key, value) same, inRest]

/-! ## Writing -/

@[simp] theorem get?_insert_same
    (entries : Entries α)
    (name : String)
    (value : α) :
    get? (insert entries name value) name = some value := by
  induction entries with
  | nil =>
      simp [insert, get?]
  | cons entry rest inductionHypothesis =>
      rcases entry with ⟨key, first⟩
      by_cases same : key = name <;>
        simp [insert, get?, same, inductionHypothesis]

theorem get?_insert_other
    (entries : Entries α)
    {name other : String}
    (value : α)
    (different : other ≠ name) :
    get? (insert entries name value) other = get? entries other := by
  induction entries with
  | nil =>
      simp [insert, get?, different.symm]
  | cons entry rest inductionHypothesis =>
      rcases entry with ⟨key, first⟩
      by_cases same : key = name
      · subst key
        simp [insert, get?, different.symm]
      · simp [insert, get?, same, inductionHypothesis]

/-- Writing a name twice keeps the second value alone. -/
@[simp] theorem insert_insert
    (entries : Entries α)
    (name : String)
    (first second : α) :
    insert (insert entries name first) name second =
      insert entries name second := by
  induction entries with
  | nil =>
      simp [insert]
  | cons entry rest inductionHypothesis =>
      rcases entry with ⟨key, old⟩
      by_cases same : key = name <;>
        simp [insert, same, inductionHypothesis]

/-- Writing what is there already changes nothing. -/
theorem insert_found
    {entries : Entries α}
    {name : String}
    {value : α}
    (found : get? entries name = some value) :
    insert entries name value = entries := by
  induction entries with
  | nil =>
      simp [get?] at found
  | cons entry rest inductionHypothesis =>
      rcases entry with ⟨key, first⟩
      by_cases same : key = name
      · have isFirst : first = value := by
          simpa [get?, same] using found
        simp [insert, same, isFirst]
      · have inRest : get? rest name = some value := by
          simpa [get?, same] using found
        simp [insert, same, inductionHypothesis inRest]

/-- A name that is missing is written at the end. -/
theorem insert_of_absent
    {entries : Entries α}
    {name : String}
    (absent : name ∉ names entries)
    (value : α) :
    insert entries name value = entries ++ [(name, value)] := by
  induction entries with
  | nil =>
      rfl
  | cons entry rest inductionHypothesis =>
      rcases entry with ⟨key, first⟩
      rw [names_cons, List.mem_cons, not_or] at absent
      simp [insert, Ne.symm absent.1, inductionHypothesis absent.2]

theorem mem_names_insert
    {entries : Entries α}
    {name other : String}
    {value : α} :
    other ∈ names (insert entries name value) ↔
      other = name ∨ other ∈ names entries := by
  by_cases same : other = name
  · subst other
    simp [← get?_isSome_iff]
  · simp [← get?_isSome_iff, get?_insert_other entries value same, same]

/-- Writing repeats no name. -/
theorem nodup_names_insert
    {entries : Entries α}
    (distinct : (names entries).Nodup)
    (name : String)
    (value : α) :
    (names (insert entries name value)).Nodup := by
  induction entries with
  | nil =>
      simp [insert]
  | cons entry rest inductionHypothesis =>
      rcases entry with ⟨key, first⟩
      have distinctRest := List.nodup_cons.mp distinct
      by_cases same : key = name
      · simpa [insert, same] using distinct
      · have absent : key ∉ names (insert rest name value) := by
          rw [mem_names_insert]
          exact not_or.mpr ⟨same, distinctRest.1⟩
        simpa [insert, same] using
          And.intro absent (inductionHypothesis distinctRest.2)

/-- Every entry after writing is the written one or was there before. -/
theorem mem_insert
    {entries : Entries α}
    {name : String}
    {value : α}
    {entry : String × α}
    (member : entry ∈ insert entries name value) :
    entry = (name, value) ∨ entry ∈ entries := by
  induction entries with
  | nil =>
      simpa [insert] using member
  | cons first rest inductionHypothesis =>
      rcases first with ⟨key, old⟩
      by_cases same : key = name
      · subst key
        rw [insert, if_pos rfl] at member
        rcases List.mem_cons.mp member with isWritten | inRest
        · exact Or.inl isWritten
        · exact Or.inr (List.mem_cons_of_mem _ inRest)
      · rw [insert, if_neg same] at member
        rcases List.mem_cons.mp member with isFirst | inRest
        · exact Or.inr (isFirst ▸ List.mem_cons_self)
        · rcases inductionHypothesis inRest with isWritten | wasThere
          · exact Or.inl isWritten
          · exact Or.inr (List.mem_cons_of_mem _ wasThere)

/-! ## Writing many entries -/

theorem nodup_names_extend
    {earlier : Entries α}
    (distinct : (names earlier).Nodup)
    (later : Entries α) :
    (names (extend earlier later)).Nodup := by
  induction later generalizing earlier with
  | nil =>
      exact distinct
  | cons entry rest inductionHypothesis =>
      exact inductionHypothesis
        (nodup_names_insert distinct entry.1 entry.2)

theorem mem_extend
    {earlier later : Entries α}
    {entry : String × α}
    (member : entry ∈ extend earlier later) :
    entry ∈ later ∨ entry ∈ earlier := by
  induction later generalizing earlier with
  | nil =>
      exact Or.inr member
  | cons first rest inductionHypothesis =>
      rcases inductionHypothesis member with inRest | afterFirst
      · exact Or.inl (List.mem_cons_of_mem _ inRest)
      · rcases mem_insert afterFirst with isFirst | wasThere
        · exact Or.inl (isFirst ▸ List.mem_cons_self)
        · exact Or.inr wasThere

/-- Entries read from a list have distinct names. -/
theorem nodup_names_ofList
    (items : List (String × α)) :
    (names (ofList items)).Nodup := by
  have none : (names ([] : Entries α)).Nodup := by
    simp
  exact nodup_names_extend none items

theorem mem_of_mem_ofList
    {items : List (String × α)}
    {entry : String × α}
    (member : entry ∈ ofList items) :
    entry ∈ items := by
  rcases mem_extend member with inItems | inEmpty
  · exact inItems
  · simp at inEmpty

/-! ## Removing -/

theorem get?_erase_other
    (entries : Entries α)
    {name other : String}
    (different : other ≠ name) :
    get? (erase entries name) other = get? entries other := by
  induction entries with
  | nil =>
      rfl
  | cons entry rest inductionHypothesis =>
      rcases entry with ⟨key, value⟩
      by_cases same : key = name
      · subst key
        simp [erase, get?, different.symm]
      · simp [erase, get?, same, inductionHypothesis]

theorem erase_sublist
    (entries : Entries α)
    (name : String) :
    (erase entries name).Sublist entries := by
  induction entries with
  | nil =>
      exact List.Sublist.refl _
  | cons entry rest inductionHypothesis =>
      rcases entry with ⟨key, value⟩
      by_cases same : key = name
      · simp [erase, same]
      · simpa [erase, same] using inductionHypothesis

theorem nodup_names_erase
    {entries : Entries α}
    (distinct : (names entries).Nodup)
    (name : String) :
    (names (erase entries name)).Nodup :=
  ((erase_sublist entries name).map Prod.fst).nodup distinct

/-- A removed name is missing when it was there once. -/
theorem get?_erase_same
    {entries : Entries α}
    (distinct : (names entries).Nodup)
    (name : String) :
    get? (erase entries name) name = none := by
  induction entries with
  | nil =>
      rfl
  | cons entry rest inductionHypothesis =>
      rcases entry with ⟨key, value⟩
      have distinctRest := List.nodup_cons.mp distinct
      by_cases same : key = name
      · subst key
        simpa [erase] using get?_eq_none_iff.mpr distinctRest.1
      · simpa [erase, get?, same] using
          inductionHypothesis distinctRest.2

end Entries

end Mockup
