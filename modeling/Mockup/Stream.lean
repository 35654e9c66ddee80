import Mockup.Json.Reader
import Mockup.Patch.Diff

namespace Mockup

/-!
# Documents that arrive in chunks

Chunks of text are collected until they make a document.  Each document is
compared with the one before it, and the patches from one to the next make up
the history of the stream.  Only objects and arrays are documents.
-/

/-- Why the collected text is no document. -/
inductive StreamError where
  | unreadable (error : Json.ReadError)
  | notADocument (typeName : String)
  deriving Repr, DecidableEq

namespace StreamError

/-- Whether more text may still make a document. -/
def isIncomplete : StreamError → Bool
  | .unreadable .incomplete =>
      true
  | .unreadable .malformed =>
      false
  | .notADocument _ =>
      true

/-- The wording for a scalar where a document is expected. -/
def notADocumentMessage
    (typeName : String) :
    String :=
  "Not a document: parsed a " ++ typeName ++
    ", expected an object or array"

end StreamError

/-- The state of a stream: text without a document yet, and what came of it. -/
structure Stream where
  buffer : String := ""
  document : Option Value := none
  history : List Patch := []
  deriving Repr

/-- What one chunk came to. -/
structure StreamUpdate where
  document : Option Value
  patches : List Patch
  isComplete : Bool
  error : Option StreamError
  deriving Repr

namespace Stream

/-- Read a text as a document. -/
def readDocument
    (text : String) :
    Except StreamError Value :=
  match Json.read text with
  | .error error =>
      .error (.unreadable error)
  | .ok json =>
      let value := Value.ofJson json
      if value.isContainer then
        .ok value
      else
        .error (.notADocument value.typeName)

/-- Take in one chunk. -/
def push
    (stream : Stream)
    (chunk : String) :
    Stream × StreamUpdate :=
  let buffer := stream.buffer ++ chunk
  match readDocument buffer with
  | .ok document =>
      let patches := Patch.between stream.document document
      (⟨"", some document, stream.history ++ patches⟩,
        ⟨some document, patches, true, none⟩)
  | .error error =>
      (⟨buffer, stream.document, stream.history⟩,
        ⟨stream.document, [], false, some error⟩)

/-- Forget the collected text, the document and the history. -/
def reset
    (_ : Stream) :
    Stream :=
  {}

/-- Whether a document has been completed since the last reset. -/
def isComplete
    (stream : Stream) :
    Bool :=
  stream.document.isSome

/-- How many bytes wait for the rest of a document. -/
def bufferLength
    (stream : Stream) :
    Nat :=
  stream.buffer.utf8ByteSize

end Stream

end Mockup
