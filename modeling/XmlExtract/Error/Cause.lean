/-!
# Causes of failure

Each kind of failure of a query has its own inductive type of causes, so that a
caller can tell them apart without reading text.  The wording of a cause is the
`message` function of its type.  A cause called `reported` carries a wording
that was made elsewhere, by whoever supplied the events or the bytes.
-/

namespace XmlExtract

/-- Why an expression is not a path. -/
inductive PathFlaw where
  /-- Two slashes meet, or a slash ends the expression. -/
  | emptyStep
  /-- A step has an opening bracket and does not end in a closing one. -/
  | unterminatedIndex (step : String)
  /-- The text between the brackets is not a natural number below `2 ^ 64`. -/
  | indexNotNumber (inner : String)
  /-- Indices count from one. -/
  | indexZero (step : String)
  /-- A step consists of an index only. -/
  | missingName (step : String)
  /-- A closing bracket stands inside the name. -/
  | strayBracket (step : String)
  /-- A position needs an index in every step. -/
  | missingIndex (name : String)
  | reported (text : String)
  deriving Repr, DecidableEq

namespace PathFlaw

/-- The wording of a path flaw. -/
def message : PathFlaw → String
  | emptyStep => "empty step"
  | unterminatedIndex step => s!"unterminated index in '{step}'"
  | indexNotNumber inner => s!"index '{inner}' is not a positive integer"
  | indexZero step => s!"index in '{step}' must be 1 or greater"
  | missingName step => s!"missing element name in '{step}'"
  | strayBracket step => s!"stray ']' in '{step}'"
  | missingIndex name => s!"step '{name}' has no index"
  | reported text => text

end PathFlaw

/-- Why a document cannot be opened. -/
inductive Unavailability where
  /-- The file system refused the path and gave a reason. -/
  | cannotOpen (path reason : String)
  /-- A `file:` locator that names a host, or has no path on this machine. -/
  | notLocal (locator : String)
  | unsupportedScheme (scheme locator : String)
  /-- Nothing can be asked of the network, for a reason. -/
  | noClient (reason : String)
  /-- The network was asked for the locator and gave a reason why it delivers nothing. -/
  | cannotFetch (locator reason : String)
  | reported (text : String)
  deriving Repr, DecidableEq

namespace Unavailability

/-- The wording of a refusal to open. -/
def message : Unavailability → String
  | cannotOpen path reason => s!"cannot open {path}: {reason}"
  | notLocal locator => s!"{locator} is not a local file path"
  | unsupportedScheme scheme locator =>
      s!"unsupported URL scheme '{scheme}' in {locator}"
  | noClient reason => s!"cannot build HTTP client: {reason}"
  | cannotFetch locator reason => s!"cannot fetch {locator}: {reason}"
  | reported text => text

end Unavailability

/-- Why the markup, or the nesting of elements, is not that of a document. -/
inductive Malformation where
  | unclosedReference
  | unclosedTag
  /-- What follows `<!` opens no comment, CDATA section or document type. -/
  | unknownMarkup
  | unclosedCData
  | unclosedComment
  | unclosedDoctype
  /-- The document type declaration ends before it names a type. -/
  | unnamedDoctype
  | unclosedInstruction
  /-- An end tag while no element is open, seen by the tag reader. -/
  | unmatchedEndTag (name : String)
  /-- An end tag whose name is not that of the innermost open element. -/
  | mismatchedEndTag (expected found : String)
  | secondRoot (name : String)
  /-- An end event while no element is open. -/
  | endWithoutStart (name : String)
  | elementNotClosed (name : String)
  | noRoot
  | reported (text : String)
  deriving Repr, DecidableEq

namespace Malformation

/-- The wording for a construct whose closing delimiter never came. -/
private def notClosed (construct delimiter : String) : String :=
  s!"{construct} not closed: `{delimiter}` not found before end of input"

/-- The wording of a malformation. -/
def message : Malformation → String
  | unclosedReference => notClosed "entity or character reference" ";"
  | unclosedTag => notClosed "tag" ">"
  | unknownMarkup => "unknown or missed symbol in markup"
  | unclosedCData => notClosed "CDATA" "]]>"
  | unclosedComment => notClosed "comment" "-->"
  | unclosedDoctype => notClosed "DOCTYPE" ">"
  | unnamedDoctype =>
      "`<!DOCTYPE>` declaration does not contain a name of a document type"
  | unclosedInstruction =>
      notClosed "processing instruction or xml declaration" "?>"
  | unmatchedEndTag name => s!"close tag `</{name}>` does not match any open tag"
  | mismatchedEndTag expected found =>
      s!"expected `</{expected}>`, but `</{found}>` was found"
  | secondRoot name => s!"second root element <{name}>"
  | endWithoutStart name => s!"end tag </{name}> without open element"
  | elementNotClosed name => s!"unexpected end of document, <{name}> is not closed"
  | noRoot => "document has no root element"
  | reported text => text

end Malformation

/-- Why the attribute part of a tag cannot be read.  Positions are byte offsets
in the content of the tag. -/
inductive AttributeFlaw where
  /-- Something other than an equals sign follows the key. -/
  | missingEquals (position : Nat)
  | duplicate (position previous : Nat)
  /-- The tag ends after the equals sign. -/
  | missingValue (position : Nat)
  | unquotedValue (position : Nat)
  | missingQuote (position : Nat) (quote : Char)
  deriving Repr, DecidableEq

namespace AttributeFlaw

/-- The wording of an attribute flaw. -/
def message : AttributeFlaw → String
  | missingEquals position =>
      s!"position {position}: attribute key must be directly followed by `=` or space"
  | duplicate position previous =>
      s!"position {position}: duplicated attribute, previous declaration at position {previous}"
  | missingValue position =>
      s!"position {position}: `=` must be followed by an attribute value"
  | unquotedValue position =>
      s!"position {position}: attribute value must be enclosed in `\"` or `'`"
  | missingQuote position quote =>
      s!"position {position}: missing closing quote `{quote}` in attribute value"

end AttributeFlaw

/-- Why the digits of a character reference name no character. -/
inductive CharacterFlaw where
  | sign
  | empty
  | badDigit
  /-- The number does not fit in thirty-two bits. -/
  | tooLarge
  | zero
  /-- The number is a surrogate or lies above the last code point. -/
  | notCodePoint (value : Nat)
  deriving Repr, DecidableEq

namespace CharacterFlaw

/-- The wording of a character reference flaw. -/
def message : CharacterFlaw → String
  | sign => "unexpected number sign"
  | empty => "cannot parse integer from empty string"
  | badDigit => "invalid digit found in string"
  | tooLarge => "number too large to fit in target type"
  | zero => "0x0 character is not permitted in XML"
  | notCodePoint value => s!"`{value}` is not a valid codepoint"

end CharacterFlaw

/-- Why a reference in text or in an attribute value cannot be resolved.  Places
are byte offsets in the text that holds the reference. -/
inductive ReferenceFlaw where
  /-- No semicolon ends the reference that opens at `start`. -/
  | unterminated (start stop : Nat)
  | unknownEntity (start stop : Nat) (name : String)
  | badCharacter (cause : CharacterFlaw)
  deriving Repr, DecidableEq

namespace ReferenceFlaw

/-- The wording of a reference flaw. -/
def message : ReferenceFlaw → String
  | unterminated start stop =>
      s!"Error while escaping character at range {start}..{stop}: Cannot find ';' after '&'"
  | unknownEntity start stop name => s!"at {start}..{stop}: unrecognized entity `{name}`"
  | badCharacter cause => s!"invalid character reference: {cause.message}"

end ReferenceFlaw

/-- Where bytes cease to be UTF-8: after `valid` good bytes comes either a
sequence that is wrong after `broken` bytes, or one that the end cuts short. -/
structure Utf8Fault where
  valid : Nat
  broken : Option Nat
  deriving Repr, DecidableEq

namespace Utf8Fault

/-- The wording of a UTF-8 fault. -/
def message (fault : Utf8Fault) : String :=
  match fault.broken with
  | some count => s!"invalid utf-8 sequence of {count} bytes from index {fault.valid}"
  | none => s!"incomplete utf-8 byte sequence from index {fault.valid}"

end Utf8Fault

/-- Why the content of well-delimited markup is refused. -/
inductive Invalidity where
  | badAttribute (cause : AttributeFlaw)
  | badReference (cause : ReferenceFlaw)
  /-- Bytes that the encoding in force gives no meaning. -/
  | undecodable (encoding : String)
  | notUtf8 (cause : Utf8Fault)
  | oddUtf16
  | unpairedSurrogate (codeUnit : Nat)
  | reported (text : String)
  deriving Repr, DecidableEq

namespace Invalidity

/-- Lower-case hexadecimal digits. -/
private def hexadecimal (value : Nat) : String :=
  String.ofList (Nat.toDigits 16 value)

/-- The wording of an invalidity. -/
def message : Invalidity → String
  | badAttribute cause => cause.message
  | badReference cause => cause.message
  | undecodable encoding => s!"cannot decode input using {encoding}"
  | notUtf8 cause => cause.message
  | oddUtf16 => "UTF-16 input has an odd number of bytes"
  | unpairedSurrogate codeUnit =>
      s!"unpaired surrogate 0x{hexadecimal codeUnit} in UTF-16 input"
  | reported text => text

end Invalidity

end XmlExtract
