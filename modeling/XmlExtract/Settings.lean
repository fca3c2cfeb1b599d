import XmlExtract.Text.Charset

/-!
# Settings

What a caller may choose about how a document is read and what is captured of it, and
the decoders that come with the reader.
-/

namespace XmlExtract

/-- How a document is read and when a query stops. -/
structure Settings where
  /-- Strip whitespace from both ends of every run of text. -/
  trimsText : Bool
  /-- Stop as soon as nothing that follows can be asked for. -/
  stopsEarly : Bool
  /-- How many bytes one read of a stream may bring. -/
  bufferSize : Nat
  /-- Refuse an end tag whose name is not that of the innermost open element. -/
  checksEndNames : Bool
  /-- Leave out chunks of text that consist of whitespace. -/
  skipsBlanks : Bool
  /-- How the multi-byte encodings are decoded.  No caller chooses this. -/
  decoders : Decoders
  deriving Repr

namespace Settings

/-- The settings of a caller who asks for nothing special, of a reader without tables for
the multi-byte encodings. -/
def standard : Settings where
  trimsText := false
  stopsEarly := true
  bufferSize := 8192
  checksEndNames := true
  skipsBlanks := false
  decoders := .asciiOnly

instance : Inhabited Settings := ⟨standard⟩

/-- Set how many bytes one read may bring: at least one. -/
def withBufferSize (settings : Settings) (capacity : Nat) : Settings :=
  { settings with bufferSize := max capacity 1 }

end Settings

end XmlExtract
