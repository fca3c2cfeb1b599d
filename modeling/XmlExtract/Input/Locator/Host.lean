import XmlExtract.Input.Locator.Address
import XmlExtract.Input.Locator.Percent
import XmlExtract.Text.Composition
import XmlExtract.Text.Folding
import XmlExtract.Text.Punycode

/-!
# Hosts

The normal form of the host of a locator.  A host in brackets is an IPv6 address.
Any other host of a scheme that the Internet uses is a name, which is folded,
composed and written in ASCII, or an IPv4 address; other schemes keep the host as it
is.  Which characters a registry admits to a name is not looked at.
-/

namespace XmlExtract.Host

/-- The characters that no host has. -/
def isForbidden (character : Char) : Bool :=
  character.toNat = 0 || "\t\n\r #/:<>?@[\\]^|".toList.contains character

/-- The characters that no name has. -/
def isForbiddenInName (character : Char) : Bool :=
  character.toNat < 0x20 || character == '%' || character.toNat == 0x7F ||
    isForbidden character

/-- Whether a text is written in ASCII. -/
def isAscii (text : List Char) : Bool := text.all fun character => character.toNat < 0x80

/-- The ASCII form of a part of a name. -/
def encodeLabel (label : List Char) : List Char :=
  if isAscii label then label else "xn--".toList ++ Punycode.encode label

/-- The ASCII form of a name. -/
def encodeName (name : List Char) : List Char :=
  if isAscii name then
    name.map Char.toLower
  else
    let labels := (Composition.compose (Folding.fold name)).splitOn '.'
    List.intercalate ['.'] (labels.map encodeLabel)

/-- The normal form of a name that may be an IPv4 address. -/
def readName? (name : List Char) : Option (List Char) :=
  match Utf8.decode (Percent.decode name) with
  | .error _ => none
  | .ok decoded =>
      let encoded := encodeName decoded
      if encoded.isEmpty || encoded.any isForbiddenInName then none
      else if Address.endsInNumber encoded then
        (Address.readFour? encoded).map Address.renderFour
      else
        some encoded

/-- The normal form of an address in brackets, of which the first is left out. -/
def readBracketed? (text : List Char) : Option (List Char) :=
  match text.reverse with
  | ']' :: backward =>
      (Address.readEight? backward.reverse).map fun pieces =>
        '[' :: Address.renderEight pieces ++ [']']
  | _ => none

/-- The normal form of the host of a scheme; `named` tells whether its hosts have
names. -/
def read? (named : Bool) (host : List Char) : Option (List Char) :=
  match host with
  | '[' :: rest => readBracketed? rest
  | _ =>
      if named then readName? host
      else if host.any isForbidden then none
      else some (Percent.encode "" host)

end XmlExtract.Host
