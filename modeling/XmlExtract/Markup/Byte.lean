/-!
# Bytes of markup

The ASCII characters that markup is made of.
-/

namespace XmlExtract.Byte

abbrev less : UInt8 := 0x3C
abbrev greater : UInt8 := 0x3E
abbrev ampersand : UInt8 := 0x26
abbrev semicolon : UInt8 := 0x3B
abbrev exclamation : UInt8 := 0x21
abbrev question : UInt8 := 0x3F
abbrev slash : UInt8 := 0x2F
abbrev hyphen : UInt8 := 0x2D
abbrev openBracket : UInt8 := 0x5B
abbrev closeBracket : UInt8 := 0x5D
abbrev equals : UInt8 := 0x3D
abbrev quote : UInt8 := 0x22
abbrev apostrophe : UInt8 := 0x27

end XmlExtract.Byte
