import Mockup.Path.Basic
import Mockup.Proofs.Text.Pieces

namespace Mockup

namespace Path

/-!
# Segments of state paths

Which places a state path can name.  The canonical text of a state path names
the same place as the path itself, however the path was written, and two paths
have one canonical text only if they name one place.
-/

theorem segments_eq_nil_iff
    (path : String) :
    segments path = [] ↔ Text.dropLeading '/' path.toList = [] := by
  unfold segments
  simp only
  split
  · rename_i isEmpty
    simpa using isEmpty
  · rename_i nonempty
    have pieces := Text.splitAt_ne_nil '/' (Text.dropLeading '/' path.toList)
    simpa [pieces] using nonempty

/-- The state paths that name no key are the empty path and the root. -/
theorem stateSegments_eq_nil_iff
    (path : String) :
    stateSegments path = [] ↔ path = "" ∨ path = "/" := by
  have asChars :
      path = "/" ↔ path.toList = ['/'] := by
    rw [← String.toList_inj]
    rfl
  unfold stateSegments
  split
  · rename_i slashed
    rw [segments_eq_nil_iff, asChars]
    cases shape : path.toList with
    | nil =>
        simp [shape] at slashed
    | cons head rest =>
        have nonempty : path ≠ "" := by
          rintro rfl
          simp at shape
        by_cases isSlash : head = '/'
        · simp [Text.dropLeading, isSlash, nonempty]
        · simp [Text.dropLeading, isSlash, nonempty]
  · rename_i slashless
    have notRoot : path ≠ "/" := by
      rintro rfl
      exact slashless rfl
    split
    · rename_i isEmpty
      simpa [notRoot] using isEmpty
    · rename_i nonempty
      have pieces := Text.splitAt_ne_nil '.' path.toList
      simpa [Text.pieces, pieces, notRoot] using nonempty

/-! ## Canonical paths -/

/-- No segment of a state path holds a slash. -/
theorem slash_not_mem_of_mem_stateSegments
    {path segment : String}
    (member : segment ∈ stateSegments path) :
    '/' ∉ segment.toList := by
  intro slash
  unfold stateSegments at member
  split at member
  · unfold segments at member
    simp only at member
    split at member
    · cases member
    · obtain ⟨piece, isPiece, rfl⟩ := List.mem_map.mp member
      rw [String.toList_ofList] at slash
      exact (Text.mem_of_mem_splitAt isPiece slash).2 rfl
  · rename_i slashless
    split at member
    · cases member
    · obtain ⟨piece, isPiece, rfl⟩ := List.mem_map.mp member
      rw [String.toList_ofList] at slash
      exact slashless
        (by simpa using (Text.mem_of_mem_splitAt isPiece slash).1)

/-- A segment holds nothing that the path does not hold. -/
theorem mem_of_mem_segments
    {path segment : String}
    (member : segment ∈ segments path)
    {char : Char}
    (inSegment : char ∈ segment.toList) :
    char ∈ path.toList := by
  unfold segments at member
  simp only at member
  split at member
  · cases member
  · obtain ⟨piece, isPiece, rfl⟩ := List.mem_map.mp member
    rw [String.toList_ofList] at inSegment
    have inBody := (Text.mem_of_mem_splitAt isPiece inSegment).1
    unfold Text.dropLeading at inBody
    split at inBody
    · cases inBody
    · rename_i head rest shape
      rw [shape]
      split at inBody
      · exact List.mem_cons_of_mem _ inBody
      · exact inBody

/-- A text that is cut into one empty piece is empty. -/
theorem eq_nil_of_pieces_eq
    {separator : Char}
    {chars : List Char}
    (pieces :
      (Text.splitAt separator chars).map String.ofList = [""]) :
    chars = [] := by
  cases chars with
  | nil =>
      rfl
  | cons first rest =>
      by_cases same : first = separator
      · have others := Text.splitAt_ne_nil separator rest
        simp [Text.splitAt, same, others] at pieces
      · obtain ⟨piece, later, -, longer⟩ := Text.exists_splitAt_cons same rest
        simp [longer, String.ofList_eq_empty_iff] at pieces

/-- No state path names the one empty key. -/
theorem stateSegments_ne_empty_key
    (path : String) :
    stateSegments path ≠ [""] := by
  intro isEmptyKey
  unfold stateSegments at isEmptyKey
  split at isEmptyKey
  · unfold segments at isEmptyKey
    simp only at isEmptyKey
    split at isEmptyKey
    · cases isEmptyKey
    · rename_i nonempty
      rw [eq_nil_of_pieces_eq isEmptyKey] at nonempty
      exact nonempty rfl
  · split at isEmptyKey
    · cases isEmptyKey
    · rename_i nonempty
      rw [eq_nil_of_pieces_eq isEmptyKey] at nonempty
      exact nonempty rfl

theorem toList_canonical_cons
    (segment : String)
    (rest : List String) :
    (canonical (segment :: rest)).toList =
      '/' :: (segment.toList ++ (canonical rest).toList) := by
  simp [canonical]

/-- The canonical text of a place is cut back into its segments. -/
theorem splitAt_canonical
    {segment : String}
    {rest : List String}
    (slashless : ∀ part ∈ segment :: rest, '/' ∉ part.toList) :
    Text.splitAt '/' (segment.toList ++ (canonical rest).toList) =
      (segment :: rest).map String.toList := by
  induction rest generalizing segment with
  | nil =>
      simpa [canonical] using
        Text.splitAt_of_not_mem (slashless segment (by simp))
  | cons next rest inductionHypothesis =>
      have own := Text.splitAt_of_not_mem (slashless segment (by simp))
      have later :=
        inductionHypothesis fun part member =>
          slashless part (List.mem_cons_of_mem _ member)
      rw [toList_canonical_cons, Text.splitAt_append, own, later]
      rfl

/-- A place without slashes is read back from its canonical text. -/
theorem stateSegments_canonical
    {place : List String}
    (slashless : ∀ segment ∈ place, '/' ∉ segment.toList)
    (named : place ≠ [""]) :
    stateSegments (canonical place) = place := by
  cases place with
  | nil =>
      rfl
  | cons segment rest =>
      have chars := toList_canonical_cons segment rest
      have slashed :
          (canonical (segment :: rest)).toList.contains '/' = true := by
        simp [chars]
      have body :
          Text.dropLeading '/' (canonical (segment :: rest)).toList =
            segment.toList ++ (canonical rest).toList := by
        simp [chars, Text.dropLeading]
      have nonempty :
          segment.toList ++ (canonical rest).toList ≠ [] := by
        intro isEmpty
        obtain ⟨noSegment, noRest⟩ := List.append_eq_nil_iff.mp isEmpty
        cases rest with
        | nil =>
            rw [String.toList_eq_nil_iff] at noSegment
            exact named (by rw [noSegment])
        | cons next rest =>
            simp [toList_canonical_cons] at noRest
      unfold stateSegments segments
      simp only [slashed, if_true, body, List.isEmpty_iff, nonempty,
        if_false, splitAt_canonical slashless, List.map_map]
      simp [Function.comp_def]

/-- The canonical text of a state path names the same place. -/
theorem stateSegments_normalize
    (path : String) :
    stateSegments (normalize path) = stateSegments path :=
  stateSegments_canonical
    (fun _ => slash_not_mem_of_mem_stateSegments)
    (stateSegments_ne_empty_key path)

/-- The canonical text is cut at its slashes into the segments of the path. -/
theorem segments_normalize
    (path : String) :
    segments (normalize path) = stateSegments path := by
  have place := stateSegments_normalize path
  cases shape : stateSegments path with
  | nil =>
      simp [normalize, shape, canonical, segments, Text.dropLeading]
  | cons segment rest =>
      have slashed : (normalize path).toList.contains '/' = true := by
        simp [normalize, shape, toList_canonical_cons]
      rw [← shape, ← place]
      simp only [stateSegments, slashed, if_true]

/-- A canonical text is its own canonical text. -/
theorem normalize_normalize
    (path : String) :
    normalize (normalize path) = normalize path :=
  congrArg canonical (stateSegments_normalize path)

/-- Two state paths have one canonical text if they name the same place. -/
theorem normalize_eq_iff
    (left right : String) :
    normalize left = normalize right ↔
      stateSegments left = stateSegments right := by
  constructor
  · intro same
    calc stateSegments left
      _ = stateSegments (normalize left) :=
        (stateSegments_normalize left).symm
      _ = stateSegments (normalize right) :=
        congrArg stateSegments same
      _ = stateSegments right :=
        stateSegments_normalize right
  · intro same
    exact congrArg canonical same

/--
The canonical text says as much as the path it was made from: read as a state
path or as a slash path it names the same place, it is canonical already, and
it is shared by the paths to that place alone.
-/
theorem normalize_loses_nothing
    (path : String) :
    stateSegments (normalize path) = stateSegments path ∧
      segments (normalize path) = stateSegments path ∧
        normalize (normalize path) = normalize path ∧
          ∀ other,
            normalize path = normalize other ↔
              stateSegments path = stateSegments other :=
  ⟨stateSegments_normalize path, segments_normalize path,
    normalize_normalize path, normalize_eq_iff path⟩

/-- Dots become slashes, and no empty segment is lost. -/
example :
    normalize "a..b." = "/a//b/" ∧ normalize "//a.b" = "//a.b" := by
  decide

end Path

end Mockup
