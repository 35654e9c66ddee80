import Mockup.Proofs.Json.Prefix
import Mockup.Stream

namespace Mockup

namespace Stream

/-!
# Where a text is cut does not matter

Texts of documents are cut into chunks and pushed one chunk after another.
However they are cut, the last chunk of each text completes its document, and
every other chunk leaves the stream with the document it had.
-/

/-- The streams and the answers that come of pushing chunks one by one. -/
def pushAll
    (stream : Stream) :
    List String → List (Stream × StreamUpdate)
  | [] =>
      []
  | chunk :: chunks =>
      stream.push chunk :: pushAll (stream.push chunk).1 chunks

/-- The stream after all chunks have been pushed. -/
def feed
    (stream : Stream)
    (chunks : List String) :
    Stream :=
  chunks.foldl (fun current chunk => (current.push chunk).1) stream

theorem feed_cons
    (stream : Stream)
    (chunk : String)
    (chunks : List String) :
    stream.feed (chunk :: chunks) =
      (stream.push chunk).1.feed chunks :=
  rfl

/-- What is pushed later is pushed into the stream that came before. -/
theorem pushAll_append
    (stream : Stream)
    (first second : List String) :
    stream.pushAll (first ++ second) =
      stream.pushAll first ++ (stream.feed first).pushAll second := by
  induction first generalizing stream with
  | nil =>
      rfl
  | cons chunk chunks inductionHypothesis =>
      simp [pushAll, feed_cons, inductionHypothesis]

/-! ## One push -/

/-- A push that makes a document completes it and empties the buffer. -/
theorem push_of_readDocument
    {stream : Stream}
    {chunk : String}
    {document : Value}
    (reads : readDocument (stream.buffer ++ chunk) = .ok document) :
    stream.push chunk =
      (⟨"", some document,
          stream.history ++ Patch.between stream.document document⟩,
        ⟨some document, Patch.between stream.document document, true,
          none⟩) := by
  simp [push, reads]

/-- A push that makes no document keeps the chunk and all that was there. -/
theorem push_of_error
    {stream : Stream}
    {chunk : String}
    {error : StreamError}
    (fails : readDocument (stream.buffer ++ chunk) = .error error) :
    stream.push chunk =
      (⟨stream.buffer ++ chunk, stream.document, stream.history⟩,
        ⟨stream.document, [], false, some error⟩) := by
  simp [push, fails]

theorem readDocument_of_read_error
    {text : String}
    {error : Json.ReadError}
    (fails : Json.read text = .error error) :
    readDocument text = .error (.unreadable error) := by
  simp [readDocument, fails]

theorem exists_read_of_readDocument
    {text : String}
    {document : Value}
    (reads : readDocument text = .ok document) :
    ∃ json,
      Json.read text = .ok json ∧
        Value.ofJson json = document ∧ document.isContainer = true := by
  unfold readDocument at reads
  split at reads
  · cases reads
  · rename_i json isRead
    simp only at reads
    split at reads
    · rename_i isContainer
      cases reads
      exact ⟨json, isRead, rfl, isContainer⟩
    · cases reads

/-! ## The chunks of one text -/

/-- A text of a document, cut into chunks, and the document. -/
structure CutDocument where
  chunks : List String
  document : Value
  chunksNonempty : ∀ chunk ∈ chunks, chunk ≠ ""
  bracketed : Json.IsBracketed (String.join chunks)
  reads : readDocument (String.join chunks) = .ok document

/-- Whether an answer tells of a complete document, and the document it has. -/
def verdict
    (answer : Stream × StreamUpdate) :
    Bool × Option Value :=
  (answer.2.isComplete, answer.2.document)

/-- The verdicts on so many chunks, of which the last completes a document. -/
def verdictsFor
    (previous : Option Value)
    (count : Nat)
    (document : Value) :
    List (Bool × Option Value) :=
  List.replicate (count - 1) (false, previous) ++ [(true, some document)]

/--
The chunks that are left of a text: the last one completes the document, and
the others keep what was there.
-/
theorem verdicts_of_rest
    {text : String}
    {document : Value}
    (bracketed : Json.IsBracketed text)
    (reads : readDocument text = .ok document)
    {stream : Stream}
    {chunks : List String}
    (someLeft : chunks ≠ [])
    (nonempty : ∀ chunk ∈ chunks, chunk ≠ "")
    (whole : stream.buffer ++ String.join chunks = text) :
    (stream.pushAll chunks).map verdict =
        verdictsFor stream.document chunks.length document ∧
      (stream.feed chunks).buffer = "" ∧
      (stream.feed chunks).document = some document := by
  induction chunks generalizing stream with
  | nil =>
      exact (someLeft rfl).elim
  | cons chunk later inductionHypothesis =>
      rw [String.join_cons, ← String.append_assoc] at whole
      cases later with
      | nil =>
          have readsNow :
              readDocument (stream.buffer ++ chunk) = .ok document := by
            simpa [← whole] using reads
          simp [pushAll, feed, push_of_readDocument readsNow, verdict,
            verdictsFor]
      | cons second others =>
          have moreNeeded : String.join (second :: others) ≠ "" := by
            have secondNonempty := nonempty second (by simp)
            rw [String.join_cons]
            intro empty
            exact secondNonempty (String.append_eq_empty_iff.mp empty).1
          obtain ⟨json, isRead, _⟩ := exists_read_of_readDocument reads
          rw [← whole] at bracketed isRead
          obtain ⟨error, fails⟩ :=
            Json.read_prefix_eq_error bracketed isRead moreNeeded
          have pushed :=
            push_of_error (readDocument_of_read_error fails)
          have restWhole :
              (stream.push chunk).1.buffer ++
                String.join (second :: others) = text := by
            rw [pushed]
            exact whole
          obtain ⟨verdicts, buffer, current⟩ :=
            inductionHypothesis (by simp)
              (fun other member =>
                nonempty other (List.mem_cons_of_mem _ member))
              restWhole
          rw [feed_cons]
          refine ⟨?_, buffer, current⟩
          rw [pushAll, List.map_cons, verdicts, pushed]
          simp [verdict, verdictsFor, List.replicate_succ]

/-! ## Many texts -/

theorem CutDocument.chunks_ne_nil
    (cut : CutDocument) :
    cut.chunks ≠ [] := by
  intro none
  obtain ⟨blanks, opening, inner, closing, shape, _⟩ := cut.bracketed
  simp [none] at shape

/--
The verdicts on the chunks of texts one after another, when some document
may have been completed before.
-/
def verdictsOn :
    Option Value → List CutDocument → List (Bool × Option Value)
  | _, [] =>
      []
  | previous, cut :: cuts =>
      verdictsFor previous cut.chunks.length cut.document ++
        verdictsOn (some cut.document) cuts

/-- Every text completes its own document, whatever came before. -/
theorem verdicts_of_cuts
    {stream : Stream}
    (idle : stream.buffer = "")
    (cuts : List CutDocument) :
    (stream.pushAll (cuts.flatMap CutDocument.chunks)).map verdict =
      verdictsOn stream.document cuts := by
  induction cuts generalizing stream with
  | nil =>
      rfl
  | cons cut cuts inductionHypothesis =>
      have whole :
          stream.buffer ++ String.join cut.chunks =
            String.join cut.chunks := by
        simp [idle]
      obtain ⟨verdicts, buffer, current⟩ :=
        verdicts_of_rest cut.bracketed cut.reads cut.chunks_ne_nil
          cut.chunksNonempty whole
      rw [List.flatMap_cons, pushAll_append, List.map_append, verdicts,
        inductionHypothesis buffer, current, verdictsOn]

/-- Among the verdicts on texts, one for each text tells of completion. -/
theorem countP_verdictsOn
    (previous : Option Value)
    (cuts : List CutDocument) :
    (verdictsOn previous cuts).countP Prod.fst = cuts.length := by
  induction cuts generalizing previous with
  | nil =>
      rfl
  | cons cut cuts inductionHypothesis =>
      simp [verdictsOn, verdictsFor, List.countP_replicate,
        inductionHypothesis]

/-- What every answer says besides its verdict. -/
theorem answer_of_mem_pushAll
    {stream : Stream}
    {chunks : List String}
    {answer : Stream × StreamUpdate}
    (member : answer ∈ stream.pushAll chunks) :
    if answer.2.isComplete then
      answer.2.error = none ∧ answer.1.buffer = ""
    else
      answer.2.patches = [] ∧ answer.2.error.isSome = true := by
  induction chunks generalizing stream with
  | nil =>
      simp [pushAll] at member
  | cons chunk later inductionHypothesis =>
      rcases List.mem_cons.mp member with rfl | inLater
      · cases reads : readDocument (stream.buffer ++ chunk) with
        | ok document =>
            simp [push_of_readDocument reads]
        | error error =>
            simp [push_of_error reads]
      · exact inductionHypothesis inLater

/--
However texts of documents are cut into chunks, a fresh stream completes the
document of each text with the last chunk of that text and at no other push:
then the answer has the document and no error, and nothing is left to be
read; at every other push it has the document completed before, no patches,
and an error.
-/
theorem pushAll_cutDocuments
    (cuts : List CutDocument) :
    let answers := ({} : Stream).pushAll (cuts.flatMap CutDocument.chunks)
    answers.map verdict = verdictsOn none cuts ∧
      answers.countP (fun answer => answer.2.isComplete) = cuts.length ∧
      ∀ answer ∈ answers,
        if answer.2.isComplete then
          answer.2.error = none ∧ answer.1.buffer = ""
        else
          answer.2.patches = [] ∧ answer.2.error.isSome = true := by
  intro answers
  have verdicts : answers.map verdict = verdictsOn none cuts :=
    verdicts_of_cuts rfl cuts
  refine ⟨verdicts, ?_, fun answer => answer_of_mem_pushAll⟩
  have counted := countP_verdictsOn none cuts
  rw [← verdicts, List.countP_map] at counted
  exact counted

/-- An array in an array, cut between its closing brackets. -/
def cutArray : CutDocument where
  chunks :=
    [" [[", "1]", "]"]
  document :=
    .list [.list [.int 1]]
  chunksNonempty := by
    simp
  bracketed :=
    ⟨[' '], '[', "[1]".toList, ']', rfl, by simp [Json.Reader.isSpace],
      Or.inl rfl, Or.inl rfl⟩
  reads :=
    rfl

/-- An empty object, cut between its brackets. -/
def cutObject : CutDocument where
  chunks :=
    ["\x7b", "\x7d"]
  document :=
    .map []
  chunksNonempty := by
    simp
  bracketed :=
    ⟨[], '\x7b', [], '\x7d', rfl, by simp, Or.inr rfl, Or.inr rfl⟩
  reads :=
    rfl

/-- Two documents in five chunks: the third and the fifth complete them. -/
theorem pushAll_cutArray_cutObject :
    (({} : Stream).pushAll
        ([cutArray, cutObject].flatMap CutDocument.chunks)).map verdict =
      [(false, none), (false, none),
        (true, some (.list [.list [.int 1]])),
        (false, some (.list [.list [.int 1]])),
        (true, some (.map []))] :=
  (pushAll_cutDocuments [cutArray, cutObject]).1

end Stream

end Mockup
