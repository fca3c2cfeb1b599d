import XmlExtract.Input.FileSystem
import XmlExtract.Input.Locator
import XmlExtract.Settings

/-!
# Sources of documents

Where a document comes from: memory, a stream, a file, or a locator.  A source is
opened when a query runs, and a failure to open it is the outcome of the query.
Bytes in memory lie there all at once; everything else comes through a buffer of
the configured capacity, and a reader that is given a buffer larger than any block
of memory breaks down.

What stands behind paths and locators is not up to the reader: the files of the machine
and the network make up a `World`.
-/

namespace XmlExtract

/-! ### The world -/

/-- What a network answers: the reason why nothing can be asked of it, or else, for the
text of a locator, the body that is delivered, or the reason why none is. -/
abbrev Network := Except String (String → Except String (List Delivery))

/-- What stands behind paths and locators. -/
structure World where
  files : FileSystem
  network : Network

/-- A machine without documents, from which nobody can be reached. -/
def World.bare : World where
  files := FileSystem.bare
  network := .ok fun locator => .error s!"error sending request for url ({locator})"

/-! ### Sources -/

/-- Where a document comes from. -/
inductive Source where
  | bytes (content : List UInt8)
  | stream (deliveries : List Delivery)
  | file (path : String)
  | located (place : Locator)
  deriving Repr, DecidableEq

namespace Source

/-- The number of bytes from which on no block of memory is that large. -/
def blockLimit : Nat := 1 <<< 63

/-- What has been opened, when the configured buffer is laid out for it. -/
def withBuffer (settings : Settings) (supply : Supply) : Supply :=
  if settings.bufferSize < blockLimit then supply else ⟨[.breakdown], none⟩

/-- Open a file for reading through the configured buffer.  A directory refuses even
to fill a buffer without room. -/
def fileSupply (files : FileSystem) (settings : Settings) (path : List UInt8) :
    Except Error Supply :=
  match files path with
  | .ok (.file deliveries) =>
      .ok (withBuffer settings ⟨deliveries, some settings.bufferSize⟩)
  | .ok .directory =>
      .ok (withBuffer settings ⟨[.failure FileSystem.isDirectory], none⟩)
  | .error reason =>
      .error (.unavailable (.cannotOpen (String.ofList (Utf8.decodeLossy path)) reason))

/-- Fetch what a locator names, for reading through the configured buffer. -/
def fetchedSupply (network : Network) (settings : Settings) (locator : String) :
    Except Error Supply :=
  match network with
  | .error reason => .error (.unavailable (.noClient reason))
  | .ok fetch =>
      match fetch locator with
      | .ok deliveries => .ok (withBuffer settings ⟨deliveries, some settings.bufferSize⟩)
      | .error reason => .error (.unavailable (.cannotFetch locator reason))

/-- Open a source: what will deliver its bytes. -/
def supply (world : World) (settings : Settings) (source : Source) :
    Except Error Supply :=
  match source with
  | .bytes content => .ok (Supply.ofBytes content)
  | .stream deliveries => .ok (withBuffer settings ⟨deliveries, some settings.bufferSize⟩)
  | .file path => fileSupply world.files settings path.toUTF8.toList
  | .located place =>
      if place.scheme == "file" then
        match place.localPath with
        | some path => fileSupply world.files settings path
        | none => .error (.unavailable (.notLocal place.text))
      else if place.scheme == "http" || place.scheme == "https" then
        fetchedSupply world.network settings place.text
      else
        .error (.unavailable (.unsupportedScheme place.scheme place.text))

/-- A source for the eye: its kind, and its size or place. -/
def describe : Source → String
  | .bytes content => s!"Bytes({content.length} bytes)"
  | .stream _ => "Reader(..)"
  | .file path => s!"Path({path})"
  | .located place => s!"Url({place.text})"

end Source

end XmlExtract
