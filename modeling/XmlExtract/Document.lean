import XmlExtract.Extraction
import XmlExtract.Input.Layout
import XmlExtract.Markup.Reading

/-!
# Documents

An input becomes a document when it is in an ASCII-compatible layout, so that its
markup can be found byte by byte.  Running a pattern over a document runs an
extraction over the replies of a reader.
-/

namespace XmlExtract

/-- A document ready to be read: an input in an ASCII-compatible layout. -/
structure Document where
  input : Input
  /-- The bytes are UTF-8 because they were transcoded. -/
  transcoded : Bool
  deriving Repr, DecidableEq

namespace Document

/-- Make an input ready.  The first buffer tells the layout.  UTF-16 is read to the
end and transcoded; everything else stays as it is. -/
def ofInput (input : Input) : Except Error Document := do
  let buffer ← input.firstBuffer
  match Layout.detect buffer with
  | .ascii => .ok ⟨input, false⟩
  | .utf16 order =>
      match input.fault with
      | some error => .error error
      | none =>
          let bytes ← Layout.utf16ToUtf8 order input.bytes
          .ok ⟨Input.ofBytes bytes, true⟩

/-- Make bytes in memory ready.  All of them tell the layout, and what is made of them lies in
memory again. -/
def ofBytes (bytes : List UInt8) : Except Error Document :=
  ((Layout.detect bytes).transcode bytes).map fun utf8 =>
    ⟨Input.ofBytes utf8, (Layout.detect bytes).needsTranscoding⟩

/-- Whether a request to stop is met while an input is made ready: in the first
buffer, or anywhere if all of it has to be read. -/
def stopRaised (input : Input) : Bool :=
  match input.firstBuffer with
  | .error _ => input.stopAfter.isSome
  | .ok buffer =>
      if (Layout.detect buffer).needsTranscoding then input.stopAfter.isSome
      else input.stopRaisedBy 1

/-- Run an extraction over a document. -/
def run (document : Document) (pattern : Pattern) (settings : Settings)
    (stop : StopRequest) : Run :=
  (Extraction.start pattern settings).run stop
    (document.input.replies settings document.transcoded)

/-- The outcome for one pattern, if nobody asks to stop. -/
def capture (document : Document) (pattern : Pattern) (settings : Settings) :
    Except Error Capture :=
  (document.run pattern settings .ignored).outcome

end Document

end XmlExtract
