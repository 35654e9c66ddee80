import Mockup.Proofs.Json.Bounds
import Mockup.Proofs.Patch.RoundTrip
import Mockup.Stream

namespace Mockup

namespace Stream

open Value (Agrees Coincide NaNFree Sound)

/-!
# The history of a stream

Whoever applies the history of a stream, from whatever document, holds a
document that agrees with the one of the stream: the order of keys may differ,
and a number may have another kind as long as both coincide as doubles.  The
history does not give the same document, because a scalar that is strictly
equal in two documents is not patched, and the reader keeps the older one.
-/

/-- How many bytes a text in memory may have. -/
def memoryLimit : Nat :=
  Nat.pow 2 63 - 1

/-- The streams that chunks lead to, as long as the texts fit into memory. -/
inductive Reachable : Stream → Prop where
  | fresh :
      Reachable {}
  | pushed
      {stream : Stream} :
      Reachable stream →
      ∀ chunk : String,
        (stream.buffer ++ chunk).utf8ByteSize ≤ memoryLimit →
        Reachable (stream.push chunk).1
  | forgotten
      {stream : Stream} :
      Reachable stream →
      Reachable stream.reset

/-- Every character of a text takes a byte at least. -/
theorem length_le_utf8ByteSize
    (text : String) :
    text.toList.length ≤ text.utf8ByteSize := by
  have ofChars :
      ∀ chars : List Char,
        chars.length ≤ (String.ofList chars).utf8ByteSize := by
    intro chars
    induction chars with
    | nil =>
        simp
    | cons char chars inductionHypothesis =>
        have oneByte := char.utf8Size_pos
        rw [← List.singleton_append, String.ofList_append,
          String.utf8ByteSize_append, List.length_append,
          List.length_singleton]
        have single :
            (String.ofList [char]).utf8ByteSize = char.utf8Size := by
          simp
        omega
  simpa using ofChars text.toList

/-- A document that has been read is sound and has only numbers in it. -/
theorem sound_of_readDocument
    {text : String}
    {document : Value}
    (fitsMemory : text.utf8ByteSize ≤ memoryLimit)
    (reads : readDocument text = .ok document) :
    Sound document ∧ NaNFree document := by
  unfold readDocument at reads
  split at reads
  · cases reads
  · rename_i json isRead
    simp only at reads
    split at reads
    · cases reads
      have fits := Json.fitsWithin_of_read isRead
      have shorter := length_le_utf8ByteSize text
      have isWord : 2 * text.toList.length < Value.positionLimit := by
        have twice : Value.positionLimit = 2 * memoryLimit + 2 := by
          decide
        omega
      exact ⟨Value.sound_of_fits isWord fits, Value.nanFree_of_fits fits⟩
    · cases reads

/-- Scalars that coincide go on to coincide across patches. -/
theorem renews_coincide :
    Patch.Renews Coincide Coincide where
  kept _ _ _ isScalar related equal :=
    related.trans (Value.coincide_of_strictlyEqual isScalar equal)
  replaced _ isScalar isNumeric :=
    Value.coincide_of_strictlyEqual isScalar
      (Value.strictlyEqual_self_of_scalar isScalar isNumeric)

/-- Patches lead from any document to one that agrees with a given one. -/
def Rebuilds
    (history : List Patch)
    (document : Value) :
    Prop :=
  ∀ start, ∃ held,
    Patch.applyAll start history = .ok held ∧
      Sound held ∧ Agrees Coincide held document

/-- The first patch of a stream replaces whatever the reader holds. -/
theorem rebuilds_first
    {document : Value}
    (sound : Sound document)
    (numeric : NaNFree document) :
    Rebuilds (Patch.between none document) document := by
  intro start
  have turns := Patch.Turns.replacing "" start document
  exact ⟨document, turns.applyAll_eq, sound,
    renews_coincide.agrees_self numeric⟩

/-- The patches to the next document keep the reader in step. -/
theorem Rebuilds.next
    {history : List Patch}
    {document next : Value}
    (rebuilds : Rebuilds history document)
    (sound : Sound document)
    (nextSound : Sound next)
    (nextNumeric : NaNFree next) :
    Rebuilds (history ++ Patch.between (some document) next) next := by
  intro start
  obtain ⟨held, applied, heldSound, agrees⟩ := rebuilds start
  obtain ⟨reached, turns, reachedSound, reachedAgrees⟩ :=
    Patch.carries_diff renews_coincide Pointer.isAnchored_root
      sound nextSound nextNumeric held heldSound agrees
  refine ⟨reached, ?_, reachedSound, reachedAgrees⟩
  rw [Patch.applyAll_append applied]
  exact turns.applyAll_eq

/-- What a stream keeps to: its history rebuilds its document. -/
def IsKept
    (stream : Stream) :
    Prop :=
  match stream.document with
  | none =>
      stream.history = []
  | some document =>
      Sound document ∧ Rebuilds stream.history document

/-- A chunk leaves the history in step with the document. -/
theorem IsKept.push
    {stream : Stream}
    {chunk : String}
    (kept : IsKept stream)
    (fitsMemory :
      (stream.buffer ++ chunk).utf8ByteSize ≤ memoryLimit) :
    IsKept (stream.push chunk).1 := by
  cases reads : readDocument (stream.buffer ++ chunk) with
  | error error =>
      simpa [Stream.push, reads, IsKept] using kept
  | ok next =>
      obtain ⟨nextSound, nextNumeric⟩ :=
        sound_of_readDocument fitsMemory reads
      simp only [IsKept, Stream.push, reads]
      refine ⟨nextSound, ?_⟩
      cases current : stream.document with
      | none =>
          have noHistory : stream.history = [] := by
            simpa [IsKept, current] using kept
          rw [noHistory, List.nil_append]
          exact rebuilds_first nextSound nextNumeric
      | some document =>
          have rebuilt :
              Sound document ∧ Rebuilds stream.history document := by
            simpa [IsKept, current] using kept
          exact rebuilt.2.next rebuilt.1 nextSound nextNumeric

/-- Every stream that chunks lead to keeps its history in step. -/
theorem Reachable.isKept
    {stream : Stream}
    (reachable : Reachable stream) :
    IsKept stream := by
  induction reachable with
  | fresh =>
      rfl
  | pushed _ chunk fitsMemory inductionHypothesis =>
      exact inductionHypothesis.push fitsMemory
  | forgotten _ _ =>
      rfl

/--
Applied in order to any document, the history of a stream comes to a sound
document that agrees with the one of the stream, up to the order of keys and
up to numbers that coincide as doubles; a stream without a document has no
history.
-/
theorem applyAll_history_agrees
    {stream : Stream}
    (reachable : Reachable stream) :
    (stream.document = none → stream.history = []) ∧
      ∀ document,
        stream.document = some document →
        Sound document ∧
          ∀ start, ∃ held,
            Patch.applyAll start stream.history = .ok held ∧
              Sound held ∧ Agrees Coincide held document := by
  have kept := reachable.isKept
  unfold IsKept at kept
  refine ⟨?_, ?_⟩
  · intro isNone
    simpa [isNone] using kept
  · intro document isSome
    rw [isSome] at kept
    exact kept

/-- A stream that has read two documents, the first one in two chunks. -/
def twiceRead : Stream :=
  (((({} : Stream).push "[1").1.push "]").1.push "[2,[]]").1

/-- A reader who starts from null comes to the second document. -/
theorem applyAll_history_agrees_twiceRead :
    Reachable twiceRead ∧
      twiceRead.document = some (.list [.int 2, .list []]) ∧
      ∃ held,
        Patch.applyAll .null twiceRead.history = .ok held ∧
          Agrees Coincide held (.list [.int 2, .list []]) := by
  have reachable : Reachable twiceRead :=
    .pushed (.pushed (.pushed .fresh "[1" (by decide)) "]" (by decide))
      "[2,[]]" (by decide)
  have isDocument :
      twiceRead.document = some (.list [.int 2, .list []]) := by
    rfl
  obtain ⟨_, applies⟩ :=
    (applyAll_history_agrees reachable).2 _ isDocument
  obtain ⟨held, applied, _, agrees⟩ := applies .null
  exact ⟨reachable, isDocument, held, applied, agrees⟩

end Stream

end Mockup
