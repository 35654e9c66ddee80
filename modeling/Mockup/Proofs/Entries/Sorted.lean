import Mathlib.Data.List.Forall2
import Mockup.Proofs.Entries

namespace Mockup

/-!
# Entries with sorted names

Sorting puts entries in ascending order of their names and keeps them as they
are.  While no name is repeated, nothing that is looked up changes, and
sorting once more changes nothing at all.
-/

namespace Entries

/-! ## Sorting -/

theorem sorted_cons
    (entry : String × α)
    (rest : Entries α) :
    sorted (entry :: rest) = insertSorted entry (sorted rest) :=
  rfl

theorem insertSorted_perm
    (entry : String × α)
    (entries : Entries α) :
    (insertSorted entry entries).Perm (entry :: entries) := by
  induction entries with
  | nil =>
      exact .refl _
  | cons head rest inductionHypothesis =>
      unfold insertSorted
      split
      · exact .refl _
      · exact (inductionHypothesis.cons head).trans (.swap entry head rest)

/-- Sorting keeps the entries. -/
theorem sorted_perm
    (entries : Entries α) :
    (sorted entries).Perm entries := by
  induction entries with
  | nil =>
      exact .refl _
  | cons entry rest inductionHypothesis =>
      exact (insertSorted_perm entry _).trans
        (inductionHypothesis.cons entry)

theorem nodup_names_sorted
    {entries : Entries α}
    (distinct : (names entries).Nodup) :
    (names (sorted entries)).Nodup :=
  ((sorted_perm entries).map Prod.fst).nodup_iff.mpr distinct

/-- Sorting distinct names changes nothing that is looked up. -/
theorem get?_sorted
    {entries : Entries α}
    (distinct : (names entries).Nodup)
    (name : String) :
    get? (sorted entries) name = get? entries name := by
  have perm := sorted_perm entries
  cases found : get? entries name with
  | none =>
      rw [get?_eq_none_iff] at found ⊢
      exact fun member => found ((perm.map Prod.fst).mem_iff.mp member)
  | some value =>
      exact get?_eq_some_of_mem (nodup_names_sorted distinct)
        (perm.mem_iff.mpr (mem_of_get?_eq_some found))

theorem pairwise_insertSorted
    {entry : String × α}
    {entries : Entries α}
    (ascending : entries.Pairwise fun left right => left.1 ≤ right.1) :
    (insertSorted entry entries).Pairwise
      fun left right => left.1 ≤ right.1 := by
  induction entries with
  | nil =>
      simp [insertSorted]
  | cons head rest inductionHypothesis =>
      rw [List.pairwise_cons] at ascending
      unfold insertSorted
      split
      · rename_i smaller
        refine .cons ?_ (.cons ascending.1 ascending.2)
        intro other member
        have headFirst : entry.1 ≤ head.1 :=
          Std.le_of_lt smaller
        rcases List.mem_cons.mp member with rfl | inRest
        · exact headFirst
        · exact String.le_trans headFirst (ascending.1 other inRest)
      · rename_i notSmaller
        refine .cons ?_ (inductionHypothesis ascending.2)
        intro other member
        have isEntryOrRest :=
          (insertSorted_perm entry rest).mem_iff.mp member
        rcases List.mem_cons.mp isEntryOrRest with rfl | inRest
        · exact String.not_lt.mp notSmaller
        · exact ascending.1 other inRest

/-- Sorted entries are in ascending order. -/
theorem pairwise_sorted
    (entries : Entries α) :
    (sorted entries).Pairwise fun left right => left.1 ≤ right.1 := by
  induction entries with
  | nil =>
      exact .nil
  | cons entry rest inductionHypothesis =>
      exact pairwise_insertSorted inductionHypothesis

/-- Entries with distinct names in ascending order are sorted already. -/
theorem sorted_of_pairwise
    {entries : Entries α}
    (distinct : (names entries).Nodup)
    (ascending : entries.Pairwise fun left right => left.1 ≤ right.1) :
    sorted entries = entries := by
  induction entries with
  | nil =>
      rfl
  | cons entry rest inductionHypothesis =>
      rw [names_cons, List.nodup_cons] at distinct
      rw [List.pairwise_cons] at ascending
      rw [sorted_cons, inductionHypothesis distinct.2 ascending.2]
      cases rest with
      | nil =>
          rfl
      | cons head rest =>
          have different : head.1 ≠ entry.1 := by
            intro same
            exact distinct.1 (by simp [same])
          have smaller : entry.1 < head.1 := by
            refine String.not_le.mp fun notSmaller => different ?_
            exact String.le_antisymm notSmaller
              (ascending.1 head List.mem_cons_self)
          rw [insertSorted, if_pos smaller]

theorem sorted_sorted
    {entries : Entries α}
    (distinct : (names entries).Nodup) :
    sorted (sorted entries) = sorted entries :=
  sorted_of_pairwise (nodup_names_sorted distinct)
    (pairwise_sorted entries)

/-- Entries that correspond with equal names correspond when sorted. -/
theorem forall₂_sorted
    {related : String × α → String × β → Prop}
    (named : ∀ left right, related left right → left.1 = right.1)
    {lefts : Entries α}
    {rights : Entries β}
    (correspond : List.Forall₂ related lefts rights) :
    List.Forall₂ related (sorted lefts) (sorted rights) := by
  have inserted :
      ∀ {left right} {lefts : Entries α} {rights : Entries β},
        related left right →
        List.Forall₂ related lefts rights →
        List.Forall₂ related
          (insertSorted left lefts) (insertSorted right rights) := by
    intro left right lefts rights corresponds others
    induction others with
    | nil =>
        exact .cons corresponds .nil
    | @cons first second firsts seconds heads tails inductionHypothesis =>
        rw [insertSorted, insertSorted, named left right corresponds,
          named first second heads]
        split
        · exact .cons corresponds (.cons heads tails)
        · exact .cons heads inductionHypothesis
  induction correspond with
  | nil =>
      exact .nil
  | cons heads _ inductionHypothesis =>
      exact inserted heads inductionHypothesis

/-! ## Entries with other values -/

/-- The same names with other values. -/
def mapValues
    (change : α → β)
    (entries : Entries α) :
    Entries β :=
  entries.map fun entry => (entry.1, change entry.2)

@[simp] theorem mapValues_nil
    (change : α → β) :
    mapValues change [] = [] :=
  rfl

@[simp] theorem names_mapValues
    (change : α → β)
    (entries : Entries α) :
    names (mapValues change entries) = names entries := by
  simp [names, mapValues]

/-- Changes that agree on every value make the same entries. -/
theorem mapValues_congr
    {left right : α → β}
    {entries : Entries α}
    (same : ∀ entry ∈ entries, left entry.2 = right entry.2) :
    mapValues left entries = mapValues right entries :=
  List.map_congr_left fun entry member =>
    congrArg (Prod.mk entry.1) (same entry member)

theorem mapValues_id
    (entries : Entries α) :
    mapValues id entries = entries :=
  List.map_id entries

theorem mapValues_mapValues
    (first : α → β)
    (second : β → γ)
    (entries : Entries α) :
    mapValues second (mapValues first entries) =
      mapValues (second ∘ first) entries :=
  List.map_map

theorem get?_mapValues
    (change : α → β)
    (entries : Entries α)
    (name : String) :
    get? (mapValues change entries) name =
      (get? entries name).map change := by
  induction entries with
  | nil =>
      rfl
  | cons entry rest inductionHypothesis =>
      rcases entry with ⟨key, value⟩
      by_cases same : key = name
      · simp [mapValues, get?, same]
      · simpa [mapValues, get?, same] using inductionHypothesis

theorem insertSorted_mapValues
    (change : α → β)
    (entry : String × α)
    (entries : Entries α) :
    insertSorted (entry.1, change entry.2) (mapValues change entries) =
      mapValues change (insertSorted entry entries) := by
  induction entries with
  | nil =>
      rfl
  | cons head rest inductionHypothesis =>
      unfold mapValues at inductionHypothesis ⊢
      simp only [List.map_cons, insertSorted]
      split
      · rfl
      · rw [inductionHypothesis, List.map_cons]

theorem sorted_mapValues
    (change : α → β)
    (entries : Entries α) :
    sorted (mapValues change entries) =
      mapValues change (sorted entries) := by
  induction entries with
  | nil =>
      rfl
  | cons entry rest inductionHypothesis =>
      rw [sorted_cons, ← insertSorted_mapValues, ← inductionHypothesis]
      rfl

/-- Reading a list of distinct names as entries takes it as it is. -/
theorem ofList_of_nodup
    {entries : Entries α}
    (distinct : (names entries).Nodup) :
    ofList entries = entries := by
  have appended :
      ∀ (later earlier : Entries α),
        (names (earlier ++ later)).Nodup →
        extend earlier later = earlier ++ later := by
    intro later
    induction later with
    | nil =>
        intro earlier _
        simp [extend]
    | cons entry later inductionHypothesis =>
        intro earlier distinct
        have absent : entry.1 ∉ names earlier := by
          simp only [names, List.map_append, List.map_cons,
            List.nodup_append] at distinct
          intro member
          exact distinct.2.2 _ member _ List.mem_cons_self rfl
        have atEnd :
            insert earlier entry.1 entry.2 = earlier ++ [entry] :=
          insert_of_absent absent entry.2
        have shape :
            earlier ++ entry :: later = (earlier ++ [entry]) ++ later := by
          simp
        rw [shape] at distinct ⊢
        rw [← inductionHypothesis _ distinct, ← atEnd]
        rfl
  exact appended entries [] distinct

end Entries

end Mockup
