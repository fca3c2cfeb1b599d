import XmlExtract.Text.Charset.Table
import XmlExtract.Text.Utf16
import XmlExtract.Text.Utf8

/-!
# Character encodings

The encodings that a document may declare, the labels by which it may name them,
and what bytes mean in them.  Encodings and labels are those of the Encoding Standard,
all of them: labels are compared without regard to ASCII case and to ASCII whitespace
around them.

Unicode and the single-byte encodings are decoded here.  The multi-byte encodings of
East Asia rest on tables of many thousand characters, which belong to the decoders that
a reader comes with: a `Decoders` says what bytes mean in them.
-/

namespace XmlExtract

/-! ### Single-byte encodings -/

/-- An encoding that writes each character as one byte. -/
inductive SingleByte where
  | ibm866 | iso8859x2 | iso8859x3 | iso8859x4 | iso8859x5 | iso8859x6 | iso8859x7
  | iso8859x8 | iso8859x8I | iso8859x10 | iso8859x13 | iso8859x14 | iso8859x15
  | iso8859x16 | koi8R | koi8U | macintosh | windows874 | windows1250 | windows1251
  | windows1252 | windows1253 | windows1254 | windows1255 | windows1256 | windows1257
  | windows1258 | macCyrillic
  deriving Repr, DecidableEq

namespace SingleByte

/-- The name of an encoding. -/
def name : SingleByte → String
  | ibm866 => "IBM866"
  | iso8859x2 => "ISO-8859-2"
  | iso8859x3 => "ISO-8859-3"
  | iso8859x4 => "ISO-8859-4"
  | iso8859x5 => "ISO-8859-5"
  | iso8859x6 => "ISO-8859-6"
  | iso8859x7 => "ISO-8859-7"
  | iso8859x8 => "ISO-8859-8"
  | iso8859x8I => "ISO-8859-8-I"
  | iso8859x10 => "ISO-8859-10"
  | iso8859x13 => "ISO-8859-13"
  | iso8859x14 => "ISO-8859-14"
  | iso8859x15 => "ISO-8859-15"
  | iso8859x16 => "ISO-8859-16"
  | koi8R => "KOI8-R"
  | koi8U => "KOI8-U"
  | macintosh => "macintosh"
  | windows874 => "windows-874"
  | windows1250 => "windows-1250"
  | windows1251 => "windows-1251"
  | windows1252 => "windows-1252"
  | windows1253 => "windows-1253"
  | windows1254 => "windows-1254"
  | windows1255 => "windows-1255"
  | windows1256 => "windows-1256"
  | windows1257 => "windows-1257"
  | windows1258 => "windows-1258"
  | macCyrillic => "x-mac-cyrillic"

/-- The upper half of an encoding.  The two encodings for Hebrew differ in the order in
which text is shown, and not in what bytes mean. -/
def table : SingleByte → Array Nat
  | ibm866 => ibm866Table
  | iso8859x2 => iso8859x2Table
  | iso8859x3 => iso8859x3Table
  | iso8859x4 => iso8859x4Table
  | iso8859x5 => iso8859x5Table
  | iso8859x6 => iso8859x6Table
  | iso8859x7 => iso8859x7Table
  | iso8859x8 => iso8859x8Table
  | iso8859x8I => iso8859x8Table
  | iso8859x10 => iso8859x10Table
  | iso8859x13 => iso8859x13Table
  | iso8859x14 => iso8859x14Table
  | iso8859x15 => iso8859x15Table
  | iso8859x16 => iso8859x16Table
  | koi8R => koi8RTable
  | koi8U => koi8UTable
  | macintosh => macintoshTable
  | windows874 => windows874Table
  | windows1250 => windows1250Table
  | windows1251 => windows1251Table
  | windows1252 => windows1252Table
  | windows1253 => windows1253Table
  | windows1254 => windows1254Table
  | windows1255 => windows1255Table
  | windows1256 => windows1256Table
  | windows1257 => windows1257Table
  | windows1258 => windows1258Table
  | macCyrillic => macCyrillicTable

/-- The character of a byte in an encoding with this upper half. -/
def decodeByte? (table : Array Nat) (byte : UInt8) : Option Char :=
  if byte < 0x80 then
    some (Char.ofNat byte.toNat)
  else
    match table[byte.toNat - 0x80]? with
    | none | some 0 => none
    | some code => some (Char.ofNat code)

end SingleByte

/-! ### Multi-byte encodings -/

/-- An encoding of East Asia, in which a character may take several bytes. -/
inductive MultiByte where
  | gbk | gb18030 | big5 | eucJp | iso2022Jp | shiftJis | eucKr
  deriving Repr, DecidableEq

/-- The name of an encoding. -/
def MultiByte.name : MultiByte → String
  | gbk => "GBK"
  | gb18030 => "gb18030"
  | big5 => "Big5"
  | eucJp => "EUC-JP"
  | iso2022Jp => "ISO-2022-JP"
  | shiftJis => "Shift_JIS"
  | eucKr => "EUC-KR"

/-- The decoders of the multi-byte encodings that a reader comes with. -/
structure Decoders where
  /-- The characters that bytes write, unless some have no meaning. -/
  decode? : MultiByte → List UInt8 → Option (List Char)

/-- Decoders that know ASCII only. -/
def Decoders.asciiOnly : Decoders where
  decode? _ bytes := bytes.mapM fun byte =>
    if byte < 0x80 then some (Char.ofNat byte.toNat) else none

instance : Repr Decoders := ⟨fun _ _ => "_"⟩

/-! ### All encodings -/

/-- An encoding of text. -/
inductive Charset where
  | utf8
  | utf16 (order : Utf16.ByteOrder)
  | singleByte (encoding : SingleByte)
  | multiByte (encoding : MultiByte)
  /-- The upper half of the bytes stands for private code points. -/
  | userDefined
  /-- An encoding that is recognised and refused. -/
  | replacement
  deriving Repr, DecidableEq

namespace Charset

/-- The name of an encoding. -/
def name : Charset → String
  | utf8 => "UTF-8"
  | utf16 .little => "UTF-16LE"
  | utf16 .big => "UTF-16BE"
  | singleByte encoding => encoding.name
  | multiByte encoding => encoding.name
  | userDefined => "x-user-defined"
  | replacement => "replacement"

/-- The character of a byte if the upper half is private. -/
def userDefinedChar (byte : UInt8) : Char :=
  if byte < 0x80 then Char.ofNat byte.toNat else Char.ofNat (0xF780 + (byte.toNat - 0x80))

/-- The characters that bytes write in an encoding, unless some have no meaning. -/
def decode? (decoders : Decoders) (charset : Charset) (bytes : List UInt8) :
    Option (List Char) :=
  match charset with
  | utf8 => (Utf8.decode bytes).toOption
  | utf16 order => (Utf16.units? order bytes).bind fun units => (Utf16.decode units).toOption
  | singleByte encoding => bytes.mapM (SingleByte.decodeByte? encoding.table)
  | multiByte encoding => decoders.decode? encoding bytes
  | userDefined => some (bytes.map userDefinedChar)
  | replacement => if bytes.isEmpty then some [] else none

/-! ### Labels -/

/-- The labels of each encoding. -/
def labels : List (Charset × List String) := [
  (utf8, ["unicode-1-1-utf-8", "unicode11utf8", "unicode20utf8", "utf-8", "utf8",
    "x-unicode20utf8"]),
  (utf16 .little, ["csunicode", "iso-10646-ucs-2", "ucs-2", "unicode", "unicodefeff",
    "utf-16", "utf-16le"]),
  (utf16 .big, ["unicodefffe", "utf-16be"]),
  (singleByte .ibm866, ["866", "cp866", "csibm866", "ibm866"]),
  (singleByte .iso8859x2, ["csisolatin2", "iso-8859-2", "iso-ir-101", "iso8859-2",
    "iso88592", "iso_8859-2", "iso_8859-2:1987", "l2", "latin2"]),
  (singleByte .iso8859x3, ["csisolatin3", "iso-8859-3", "iso-ir-109", "iso8859-3",
    "iso88593", "iso_8859-3", "iso_8859-3:1988", "l3", "latin3"]),
  (singleByte .iso8859x4, ["csisolatin4", "iso-8859-4", "iso-ir-110", "iso8859-4",
    "iso88594", "iso_8859-4", "iso_8859-4:1988", "l4", "latin4"]),
  (singleByte .iso8859x5, ["csisolatincyrillic", "cyrillic", "iso-8859-5", "iso-ir-144",
    "iso8859-5", "iso88595", "iso_8859-5", "iso_8859-5:1988"]),
  (singleByte .iso8859x6, ["arabic", "asmo-708", "csiso88596e", "csiso88596i",
    "csisolatinarabic", "ecma-114", "iso-8859-6", "iso-8859-6-e", "iso-8859-6-i",
    "iso-ir-127", "iso8859-6", "iso88596", "iso_8859-6", "iso_8859-6:1987"]),
  (singleByte .iso8859x7, ["csisolatingreek", "ecma-118", "elot_928", "greek", "greek8",
    "iso-8859-7", "iso-ir-126", "iso8859-7", "iso88597", "iso_8859-7", "iso_8859-7:1987",
    "sun_eu_greek"]),
  (singleByte .iso8859x8, ["csiso88598e", "csisolatinhebrew", "hebrew", "iso-8859-8",
    "iso-8859-8-e", "iso-ir-138", "iso8859-8", "iso88598", "iso_8859-8", "iso_8859-8:1988",
    "visual"]),
  (singleByte .iso8859x8I, ["csiso88598i", "iso-8859-8-i", "logical"]),
  (singleByte .iso8859x10, ["csisolatin6", "iso-8859-10", "iso-ir-157", "iso8859-10",
    "iso885910", "l6", "latin6"]),
  (singleByte .iso8859x13, ["iso-8859-13", "iso8859-13", "iso885913"]),
  (singleByte .iso8859x14, ["iso-8859-14", "iso8859-14", "iso885914"]),
  (singleByte .iso8859x15, ["csisolatin9", "iso-8859-15", "iso8859-15", "iso885915",
    "iso_8859-15", "l9"]),
  (singleByte .iso8859x16, ["iso-8859-16"]),
  (singleByte .koi8R, ["cskoi8r", "koi", "koi8", "koi8-r", "koi8_r"]),
  (singleByte .koi8U, ["koi8-ru", "koi8-u"]),
  (singleByte .macintosh, ["csmacintosh", "mac", "macintosh", "x-mac-roman"]),
  (singleByte .windows874, ["dos-874", "iso-8859-11", "iso8859-11", "iso885911", "tis-620",
    "windows-874"]),
  (singleByte .windows1250, ["cp1250", "windows-1250", "x-cp1250"]),
  (singleByte .windows1251, ["cp1251", "windows-1251", "x-cp1251"]),
  (singleByte .windows1252, ["ansi_x3.4-1968", "ascii", "cp1252", "cp819", "csisolatin1",
    "ibm819", "iso-8859-1", "iso-ir-100", "iso8859-1", "iso88591", "iso_8859-1",
    "iso_8859-1:1987", "l1", "latin1", "us-ascii", "windows-1252", "x-cp1252"]),
  (singleByte .windows1253, ["cp1253", "windows-1253", "x-cp1253"]),
  (singleByte .windows1254, ["cp1254", "csisolatin5", "iso-8859-9", "iso-ir-148",
    "iso8859-9", "iso88599", "iso_8859-9", "iso_8859-9:1989", "l5", "latin5",
    "windows-1254", "x-cp1254"]),
  (singleByte .windows1255, ["cp1255", "windows-1255", "x-cp1255"]),
  (singleByte .windows1256, ["cp1256", "windows-1256", "x-cp1256"]),
  (singleByte .windows1257, ["cp1257", "windows-1257", "x-cp1257"]),
  (singleByte .windows1258, ["cp1258", "windows-1258", "x-cp1258"]),
  (singleByte .macCyrillic, ["x-mac-cyrillic", "x-mac-ukrainian"]),
  (multiByte .gbk, ["chinese", "csgb2312", "csiso58gb231280", "gb2312", "gb_2312",
    "gb_2312-80", "gbk", "iso-ir-58", "x-gbk"]),
  (multiByte .gb18030, ["gb18030"]),
  (multiByte .big5, ["big5", "big5-hkscs", "cn-big5", "csbig5", "x-x-big5"]),
  (multiByte .eucJp, ["cseucpkdfmtjapanese", "euc-jp", "x-euc-jp"]),
  (multiByte .iso2022Jp, ["csiso2022jp", "iso-2022-jp"]),
  (multiByte .shiftJis, ["csshiftjis", "ms932", "ms_kanji", "shift-jis", "shift_jis",
    "sjis", "windows-31j", "x-sjis"]),
  (multiByte .eucKr, ["cseuckr", "csksc56011987", "euc-kr", "iso-ir-149", "korean",
    "ks_c_5601-1987", "ks_c_5601-1989", "ksc5601", "ksc_5601", "windows-949"]),
  (replacement, ["csiso2022kr", "hz-gb-2312", "iso-2022-cn", "iso-2022-cn-ext",
    "iso-2022-kr", "replacement"]),
  (userDefined, ["x-user-defined"])]

/-- The whitespace that may stand around a label. -/
def isLabelBlank (byte : UInt8) : Bool :=
  byte == 0x20 || byte == 0x09 || byte == 0x0A || byte == 0x0C || byte == 0x0D

/-- The lower-case form of an ASCII letter; other bytes stay. -/
def lowerByte (byte : UInt8) : UInt8 :=
  if 0x41 ≤ byte && byte ≤ 0x5A then byte + 0x20 else byte

/-- A label as it is compared: in lower case and without whitespace around it.  Labels are
ASCII, so each byte is taken for the character with its number. -/
def normalizeLabel (label : List UInt8) : String :=
  let trimmed := ((label.dropWhile isLabelBlank).reverse.dropWhile isLabelBlank).reverse
  String.ofList (trimmed.map fun byte => Char.ofNat (lowerByte byte).toNat)

/-- The encoding that a label names. -/
def ofLabel? (label : List UInt8) : Option Charset :=
  let wanted := normalizeLabel label
  (labels.find? fun entry => entry.2.contains wanted).map (·.1)

end Charset

end XmlExtract
