/-!
# Blanks

The whitespace of markup: space, tab, line feed and carriage return.
-/

namespace XmlExtract

/-- Whether a character is whitespace of markup. -/
def isBlank (character : Char) : Bool :=
  character == ' ' || character == '\t' || character == '\n' || character == '\r'

/-- Whether a byte is whitespace of markup. -/
def isBlankByte (byte : UInt8) : Bool :=
  byte == 0x20 || byte == 0x09 || byte == 0x0A || byte == 0x0D

end XmlExtract
