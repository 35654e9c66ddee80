import Mockup.Proofs.Json.Repair
import Mockup.Proofs.Stream.Chunks

namespace Mockup

namespace Stream

/-!
# Errors that are final

An error that does not ask for more text is final, with one exception: text
that ends in a number beyond the doubles, while a container is open around it,
makes a document all the same when the number gets an exponent that brings it
back.
-/

/-- A document that is completed later begins with the text that waits. -/
theorem exists_read_of_completed
    {stream : Stream}
    {chunks : List String}
    {answer : Stream × StreamUpdate}
    (member : answer ∈ stream.pushAll chunks)
    (completes : answer.2.isComplete = true) :
    ∃ rest json,
      Json.read (stream.buffer ++ rest) = .ok json ∧
        (Value.ofJson json).isContainer = true := by
  induction chunks generalizing stream with
  | nil =>
      simp [pushAll] at member
  | cons chunk later inductionHypothesis =>
      cases reads : readDocument (stream.buffer ++ chunk) with
      | ok document =>
          obtain ⟨json, isRead, rfl, isContainer⟩ :=
            exists_read_of_readDocument reads
          exact ⟨chunk, json, isRead, isContainer⟩
      | error error =>
          have pushed := push_of_error reads
          rcases List.mem_cons.mp member with rfl | inLater
          · rw [pushed] at completes
            cases completes
          · obtain ⟨rest, json, isRead, isContainer⟩ :=
              inductionHypothesis inLater
            rw [pushed, String.append_assoc] at isRead
            exact ⟨chunk ++ rest, json, isRead, isContainer⟩

/-- Text that more text makes a document of is completed by one more chunk. -/
theorem completes_of_read
    {stream : Stream}
    {chunk : String}
    {json : Json}
    (isRead : Json.read (stream.buffer ++ chunk) = .ok json)
    (isContainer : (Value.ofJson json).isContainer = true) :
    (stream.push chunk).2.isComplete = true := by
  have reads :
      readDocument (stream.buffer ++ chunk) = .ok (Value.ofJson json) := by
    simp [readDocument, isRead, isContainer]
  rw [push_of_readDocument reads]

/-- An error that does not ask for more text comes of malformed text. -/
theorem malformed_of_fatal
    {stream : Stream}
    {chunk : String}
    {error : StreamError}
    (fails : (stream.push chunk).2.error = some error)
    (fatal : error.isIncomplete = false) :
    (stream.push chunk).1.buffer = stream.buffer ++ chunk ∧
      Json.read (stream.buffer ++ chunk) = .error .malformed := by
  cases reads : readDocument (stream.buffer ++ chunk) with
  | ok document =>
      rw [push_of_readDocument reads] at fails
      cases fails
  | error found =>
      rw [push_of_error reads] at fails ⊢
      cases fails
      refine ⟨rfl, ?_⟩
      unfold readDocument at reads
      split at reads
      · rename_i readError isError
        cases reads
        cases readError with
        | incomplete =>
            cases fatal
        | malformed =>
            exact isError
      · simp only at reads
        split at reads
        · cases reads
        · cases reads
          cases fatal

/--
After an error that does not ask for more text, some chunks complete a
document without a reset exactly if the text ends, inside of a container, in a
number beyond the doubles that has no exponent or one below zero.  After every
other such error no chunks do.
-/
theorem completes_after_fatal_iff
    {stream : Stream}
    {chunk : String}
    {error : StreamError}
    (fails : (stream.push chunk).2.error = some error)
    (fatal : error.isIncomplete = false) :
    (∃ chunks,
        ∃ answer ∈ (stream.push chunk).1.pushAll chunks,
          answer.2.isComplete = true) ↔
      Json.EndsInShrinking (stream.push chunk).1.buffer := by
  obtain ⟨buffer, malformed⟩ := malformed_of_fatal fails fatal
  rw [← buffer] at malformed
  rw [← Json.exists_repair_iff malformed]
  constructor
  · rintro ⟨chunks, answer, member, completes⟩
    exact exists_read_of_completed member completes
  · rintro ⟨rest, json, isRead, isContainer⟩
    exact
      ⟨[rest], _, List.mem_singleton_self _,
        completes_of_read isRead isContainer⟩

/-- So many zeros make a number that no double comes near. -/
def zeros : List Char :=
  List.replicate 400 '0'

/-- The beginning of an array, and in it a number beyond the doubles. -/
def beyondDoubles : String :=
  String.ofList ('[' :: '1' :: zeros)

theorem run?_beyondDoubles :
    Json.Reader.start.run? .strict beyondDoubles.toList =
      some ⟨[.array []], .number ⟨.whole, zeros ++ ['1']⟩⟩ := by
  have stays :
      ∀ char ∈ zeros,
        Json.NumberPhase.whole.next? char = some .whole := by
    intro char member
    rw [List.eq_of_mem_replicate member]
    rfl
  have backwards : zeros.reverse = zeros :=
    List.reverse_replicate
  have opened :
      ∀ rest,
        Json.Reader.start.run? .strict ('[' :: '1' :: rest) =
          Json.Reader.run? .strict
            ⟨[.array []], .number ⟨.whole, ['1']⟩⟩ rest :=
    fun _ => rfl
  rw [beyondDoubles, String.toList_ofList, opened,
    Json.Reader.run?_of_stays .strict [.array []] ['1'] stays, backwards]

theorem tree?_beyondDoubles :
    Json.NumberToken.tree? ⟨.whole, zeros ++ ['1']⟩ = none := by
  have isNone :
      (Json.NumberToken.tree? ⟨.whole, zeros ++ ['1']⟩).isNone = true := by
    decide +kernel
  simpa using isNone

theorem push_beyondDoubles :
    ({} : Stream).push beyondDoubles =
      (⟨beyondDoubles, none, []⟩,
        ⟨none, [], false, some (.unreadable .malformed)⟩) := by
  have malformed : Json.read beyondDoubles = .error .malformed := by
    rw [Json.read, Json.readWith, run?_beyondDoubles]
    simp [Json.Reader.finish, Json.NumberPhase.mayEnd,
      tree?_beyondDoubles]
  have fails :
      readDocument (({} : Stream).buffer ++ beyondDoubles) =
        .error (.unreadable .malformed) := by
    rw [String.empty_append]
    exact readDocument_of_read_error malformed
  rw [push_of_error fails, String.empty_append]

/-- An exponent above zero leaves nothing to be repaired. -/
theorem not_endsInShrinking_positive :
    ¬ Json.EndsInShrinking "[1e999" := by
  rintro ⟨frame, outer, token, ran, -, -, canShrink⟩
  have ends :
      Json.Reader.start.run? .strict "[1e999".toList =
        some ⟨[.array []],
          .number ⟨.exponent, ['9', '9', '9', 'e', '1']⟩⟩ :=
    rfl
  rw [ends] at ran
  cases ran
  rcases canShrink with noExponent |
      ⟨mantissa, mark, digits, -, -, -, shape⟩
  · exact noExponent rfl
  · have minus : '-' ∈ ['1', 'e', '9', '9', '9'] := by
      rw [show ['1', 'e', '9', '9', '9'] =
        mantissa ++ mark :: '-' :: digits from shape]
      simp
    simp at minus

/--
A number of four hundred zeros may still get an exponent below zero, and a
number with an exponent above zero may not.
-/
theorem completes_after_beyondDoubles :
    (∃ chunks,
        ∃ answer ∈ (({} : Stream).push beyondDoubles).1.pushAll chunks,
          answer.2.isComplete = true) ∧
      ¬ ∃ chunks,
          ∃ answer ∈ (({} : Stream).push "[1e999").1.pushAll chunks,
            answer.2.isComplete = true := by
  have fails :
      (({} : Stream).push beyondDoubles).2.error =
        some (.unreadable .malformed) := by
    rw [push_beyondDoubles]
  have failsToo :
      (({} : Stream).push "[1e999").2.error =
        some (.unreadable .malformed) := by
    decide +kernel
  rw [completes_after_fatal_iff fails rfl,
    completes_after_fatal_iff failsToo rfl, push_beyondDoubles,
    (malformed_of_fatal failsToo rfl).1]
  refine ⟨⟨.array [], [], _, run?_beyondDoubles, rfl,
    tree?_beyondDoubles, Or.inl (by simp)⟩, ?_⟩
  exact not_endsInShrinking_positive

/--
An error that does not ask for more text, and the text that makes a document
of what was refused.
-/
theorem push_after_beyondDoubles :
    let refused := ({} : Stream).push beyondDoubles
    refused.2.error = some (.unreadable .malformed) ∧
      (StreamError.unreadable .malformed).isIncomplete = false ∧
      (refused.1.push "e-381]").2.isComplete = true ∧
      (refused.1.push "e-381]").2.document =
        some (.list [.float (.ofInt 10000000000000000000)]) := by
  have isPart :
      Json.NumberToken.tree?
          ⟨.exponent, '1' :: '8' :: '3' :: '-' :: 'e' :: (zeros ++ ['1'])⟩ =
        some (.number (.ofInt 10000000000000000000)) := by
    have scaled :
        Double.ofScaledChars?
            ('1' :: '8' :: '3' :: '-' :: 'e' :: (zeros ++ ['1'])).reverse =
          some (.ofInt 10000000000000000000) := by
      decide +kernel
    have finite : (Double.ofInt 10000000000000000000).isFinite = true := by
      decide +kernel
    rw [Json.NumberToken.tree?_of_exponent rfl,
      Json.NumberToken.literal, Json.doubleLiteral?, scaled]
    simp only [finite, if_true]
  have exponent :
      ∀ reversed,
        Json.Reader.run? .strict
            ⟨[.array []], .number ⟨.whole, reversed⟩⟩ "e-381]".toList =
          Json.Reader.run? .strict
            ⟨[.array []],
              .number ⟨.exponent,
                '1' :: '8' :: '3' :: '-' :: 'e' :: reversed⟩⟩
            [Json.Frame.closing (.array [])] :=
    fun _ => rfl
  have isRead :
      Json.read (beyondDoubles ++ "e-381]") =
        .ok (.array [.number (.ofInt 10000000000000000000)]) := by
    rw [Json.read, Json.readWith, String.toList_append,
      Json.Reader.run?_append, run?_beyondDoubles, Option.bind_some,
      exponent, Json.Reader.run?_closing_of_tree? .strict isPart]
    rfl
  have reads :
      readDocument (beyondDoubles ++ "e-381]") =
        .ok (.list [.float (.ofInt 10000000000000000000)]) := by
    rw [readDocument, isRead]
    rfl
  have completed :
      ∀ stream : Stream,
        stream.buffer = beyondDoubles →
          (stream.push "e-381]").2.isComplete = true ∧
            (stream.push "e-381]").2.document =
              some (.list [.float (.ofInt 10000000000000000000)]) := by
    intro stream isBuffer
    rw [← isBuffer] at reads
    rw [push_of_readDocument reads]
    exact ⟨rfl, rfl⟩
  intro refused
  simp only [refused, push_beyondDoubles]
  exact ⟨trivial, rfl, completed _ rfl⟩

end Stream

end Mockup
