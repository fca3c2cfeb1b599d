import XmlExtract.Input.Locator.Host
import XmlExtract.Input.Locator.Steps

/-!
# Locators

A locator names a document by a scheme and by what the scheme gives a meaning.
Reading one brings it into a normal form, by the rules of the URL Standard for
locators that stand alone: the scheme and the host are in lower case, a number
after the host that the scheme implies is left out, the steps `.` and `..` of a
path are resolved, and characters that do not belong in a part are percent-encoded.

A `file:` locator without a host names a file of this machine.
-/

namespace XmlExtract

/-- A locator: its scheme, and its whole text in normal form. -/
structure Locator where
  scheme : String
  text : String
  /-- The bytes of the path of the file of this machine that it names. -/
  localPath : Option (List UInt8)
  deriving Repr, DecidableEq

namespace Locator

/-! ### Schemes -/

/-- The schemes whose locators have a host and a path, with the number after
the host that they imply. -/
def hierarchicalSchemes : List (String × Option Nat) :=
  [("http", some 80), ("https", some 443), ("ws", some 80), ("wss", some 443),
    ("ftp", some 21), ("file", none)]

/-- Whether a scheme is one of these. -/
def isHierarchical (scheme : String) : Bool :=
  hierarchicalSchemes.any (·.1 == scheme)

/-- Whether a character may stand in a scheme after its first letter. -/
def isSchemeChar (character : Char) : Bool :=
  character.isAlphanum || character == '+' || character == '-' || character == '.'

/-- Split a text at the colon after its scheme. -/
def splitScheme? (text : List Char) : Option (String × List Char) :=
  let scheme := Steps.plain (text.takeWhile (· != ':'))
  match text.dropWhile (· != ':') with
  | ':' :: rest =>
      if scheme.head?.any Char.isAlpha && scheme.all isSchemeChar then
        some (String.ofList (scheme.map Char.toLower), rest)
      else
        none
  | _ => none

/-! ### What stands before the path -/

/-- Split a text before the first colon outside of brackets. -/
def splitHost (inside : Bool) : List Char → List Char × List Char
  | [] => ([], [])
  | character :: rest =>
      if character == ':' && !inside then
        ([], character :: rest)
      else
        let inside := character == '[' || inside && character != ']'
        let (host, after) := splitHost inside rest
        (character :: host, after)

/-- The written form of the number after a host, with its colon; nothing if the
scheme implies it. -/
def readNumber? (scheme : String) (digits : List Char) : Option (List Char) :=
  if digits.isEmpty then some []
  else
    match Digits.read? 10 digits with
    | none => none
    | some number =>
        if 0xFFFF < number then none
        else if (hierarchicalSchemes.lookup scheme).join = some number then some []
        else some (':' :: (toString number).toList)

/-- The characters that are encoded in the part before a host. -/
def userinfoEscaped : String := " \"<>`#?\x7b\x7d/:;=@[\\]^|"

/-- The written form of the part before a host, with its at sign. -/
def readUserinfo (text : List Char) : List Char :=
  let user := Percent.encode userinfoEscaped (text.takeWhile (· != ':'))
  let password := Percent.encode userinfoEscaped ((text.dropWhile (· != ':')).drop 1)
  if user.isEmpty && password.isEmpty then []
  else if password.isEmpty then user ++ ['@']
  else user ++ ':' :: password ++ ['@']

/-- The normal form of a user, a host and a number, and a path that follows them
without a slash. -/
def readAuthority? (scheme : String) (text : List Char) :
    Option (List Char × List Char) := do
  let backward := text.reverse
  let user := readUserinfo ((backward.dropWhile (· != '@')).drop 1).reverse
  let (host, after) := splitHost false (backward.takeWhile (· != '@')).reverse
  if host.isEmpty && (isHierarchical scheme || !user.isEmpty || !after.isEmpty) then none
  let host ← Host.read? (isHierarchical scheme) host
  let number ← readNumber? scheme ((after.drop 1).takeWhile (· != '\\'))
  some (user ++ host ++ number, after.dropWhile (· != '\\'))

/-! ### What stands behind the path -/

/-- The normal form of what comes after a path: a query and a fragment. -/
def readTail (scheme : String) (text : List Char) : List Char :=
  let queryEscaped := if isHierarchical scheme then " \"#<>'" else " \"#<>"
  let query := text.takeWhile (· != '#')
  let fragment := text.dropWhile (· != '#')
  let query := match query with
    | '?' :: rest => '?' :: Percent.encode queryEscaped rest
    | other => other
  let fragment := match fragment with
    | '#' :: rest => '#' :: Percent.encode " \"<>`" rest
    | other => other
  query ++ fragment

/-- Split a text before its query or fragment. -/
def splitTail (text : List Char) : List Char × List Char :=
  (text.takeWhile fun character => character != '?' && character != '#',
    text.dropWhile fun character => character != '?' && character != '#')

/-! ### Whole locators -/

/-- A text in which backslashes are slashes, as in every hierarchical scheme. -/
def slashed (text : List Char) : List Char :=
  text.map fun character => if character == '\\' then '/' else character

/-- Whether a character does not end the part before a path. -/
def isBeforePath (character : Char) : Bool := character != '/'

/-- A `file:` locator with a host, which may be empty, and the steps of a path as they
are written.  A host before a drive is dropped. -/
def ofFile (host : List Char) (path : List (List Char)) (tail : List Char) : Locator :=
  let path := Steps.resolve true path
  let host := if path.hasDrive then [] else host
  let steps := Steps.dropNameless path.steps
  let written := "file://".toList ++ host ++ Steps.render steps ++ readTail "file" tail
  ⟨"file", String.ofList written,
    if host.isEmpty then some (Steps.localPath steps) else none⟩

/-- Read a `file:` locator from what follows its colon, tabs and line ends included.
A drive is no host. -/
def readFile? (text : List Char) : Option Locator := do
  let (body, tail) := splitTail text
  let tail := Steps.plain tail
  match ((slashed body).splitOn '/').map (·.dropWhile Steps.isLayout) with
  | [] :: [] :: first :: path =>
      let host := Steps.plain first
      if host.isEmpty || Steps.isDrive host then some (ofFile [] (first :: path) tail)
      else do
        let host ← Host.read? true host
        if host = "localhost".toList then some (ofFile [] ([] :: path) tail)
        else some (ofFile host path tail)
  | [] :: first :: path => some (ofFile [] (first :: path) tail)
  | path => some (ofFile [] path tail)

/-- The normal form of a path without its first slash in any other locator. -/
def renderPath (path : List Char) : List Char :=
  Steps.render (Steps.resolve false (path.splitOn '/')).steps

/-- The written form of what stands before the query in a hierarchical locator other
than `file:`. -/
def readHierarchical? (scheme : String) (body : List Char) : Option (List Char) := do
  let body := (slashed body).dropWhile (· == '/')
  let (authority, _) ← readAuthority? scheme (body.takeWhile isBeforePath)
  let path := Steps.dropSlash (body.dropWhile isBeforePath)
  some ("//".toList ++ authority ++ renderPath path)

/-- The written form of what stands before the query in any other locator: a host
and perhaps a path, a path alone, or a text of the scheme's own.  A path alone never
looks like a host. -/
def readOpaque? (scheme : String) (body : List Char) (tail : List Char) :
    Option (List Char) :=
  match body with
  | '/' :: '/' :: rest => do
      let path := rest.dropWhile isBeforePath
      let text := rest.takeWhile isBeforePath
      if text = ['@'] && !(path.isEmpty && tail.isEmpty) then none
      let (authority, begun) ← readAuthority? scheme text
      let path := begun ++ path
      let written :=
        if path.isEmpty then []
        else renderPath (Steps.dropSlash path)
      some ("//".toList ++ authority ++ written)
  | '/' :: path =>
      let written := renderPath path
      some (if "//".toList.isPrefixOf written then "/.".toList ++ written else written)
  | text => some (Percent.encode "" text)

/-- Read a locator of another scheme from what follows its colon. -/
def readOther? (scheme : String) (text : List Char) : Option Locator := do
  let (body, tail) := splitTail text
  let written ←
    if isHierarchical scheme then readHierarchical? scheme body
    else readOpaque? scheme body tail
  let text := scheme.toList ++ ':' :: written ++ readTail scheme tail
  some ⟨scheme, String.ofList text, none⟩

/-- The text without spaces and control characters at its ends. -/
def trim (text : List Char) : List Char :=
  let isEdge (character : Char) : Bool := character.toNat ≤ 0x20
  ((text.dropWhile isEdge).reverse.dropWhile isEdge).reverse

/-- Read a locator.  Tabs and line ends are left out, wherever they stand. -/
def parse? (text : String) : Option Locator := do
  let (scheme, rest) ← splitScheme? (trim text.toList)
  if scheme == "file" then readFile? rest else readOther? scheme (Steps.plain rest)

end Locator

end XmlExtract
