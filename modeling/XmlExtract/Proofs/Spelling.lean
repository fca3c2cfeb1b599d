import XmlExtract.Proofs.ElementTree
import XmlExtract.Text.Blank
import XmlExtract.Text.Digits

/-!
# Spellings of a tree

One tree can be written as XML in many ways.  A value stands between quotes of either
kind.  A character stands for itself, unless it would be taken for markup, or is
referred to by its number or by one of five names.  A piece of text may be a CDATA
section.  An element without content may have one tag or two.  Comments and processing
instructions may stand anywhere between the pieces of content, and blanks may stand in
tags.  `Spells` is the relation between content and its spellings.
-/

namespace XmlExtract

namespace Spelling

/-! ### Names -/

/-- The code points with which a name may begin. -/
def nameStartRanges : List (Nat × Nat) := [
  (0x3A, 0x3A), (0x41, 0x5A), (0x5F, 0x5F), (0x61, 0x7A), (0xC0, 0xD6), (0xD8, 0xF6),
  (0xF8, 0x2FF), (0x370, 0x37D), (0x37F, 0x1FFF), (0x200C, 0x200D), (0x2070, 0x218F),
  (0x2C00, 0x2FEF), (0x3001, 0xD7FF), (0xF900, 0xFDCF), (0xFDF0, 0xFFFD),
  (0x10000, 0xEFFFF)]

/-- The code points that may stand in a name in any other place as well. -/
def nameOnlyRanges : List (Nat × Nat) := [
  (0x2D, 0x2E), (0x30, 0x39), (0xB7, 0xB7), (0x300, 0x36F), (0x203F, 0x2040)]

def inRanges (ranges : List (Nat × Nat)) (character : Char) : Bool :=
  ranges.any fun range => range.1 ≤ character.toNat && character.toNat ≤ range.2

def isNameCharacter (character : Char) : Bool :=
  inRanges nameStartRanges character || inRanges nameOnlyRanges character

structure IsName (name : List Char) : Prop where
  begins : ∃ first ∈ name.head?, inRanges nameStartRanges first = true
  characters : ∀ character ∈ name, isNameCharacter character = true

theorem isName_iff {name : List Char} :
    IsName name ↔
      name.head?.any (inRanges nameStartRanges) = true ∧ name.all isNameCharacter = true := by
  rw [Option.any_eq_true, List.all_eq_true]
  constructor
  · intro isName
    exact ⟨isName.begins, isName.characters⟩
  · rintro ⟨begins, characters⟩
    exact ⟨begins, characters⟩

instance (name : List Char) : Decidable (IsName name) := decidable_of_iff _ isName_iff.symm

theorem IsName.not_mem {name : List Char} (isName : IsName name) (mark : Char)
    (foreign : isNameCharacter mark = false) : mark ∉ name := by
  intro member
  have inside := isName.characters mark member
  rw [foreign] at inside
  exact Bool.false_ne_true inside

theorem IsName.ne_nil {name : List Char} (isName : IsName name) : name ≠ [] := by
  rintro rfl
  obtain ⟨first, found, -⟩ := isName.begins
  simp at found

/-! ### Characters -/

/-- Blanks, as many as there may be. -/
def Blanks (blanks : List Char) : Prop := ∀ character ∈ blanks, isBlank character = true

instance (blanks : List Char) : Decidable (Blanks blanks) :=
  decidable_of_iff (blanks.all isBlank = true) List.all_eq_true

/-- The characters that have a name of their own. -/
def named : List (String × Char) :=
  [("lt", '<'), ("gt", '>'), ("amp", '&'), ("apos", '\''), ("quot", '\"')]

/-- What may stand between an ampersand and a semicolon to refer to a character. -/
inductive Refers (character : Char) : List Char → Prop
  | decimal {digits : List Char} (nonzero : character.toNat ≠ 0) (written : digits ≠ [])
      (value : Digits.read? 10 digits = some character.toNat) : Refers character ('#' :: digits)
  | hexadecimal {digits : List Char} (nonzero : character.toNat ≠ 0) (written : digits ≠ [])
      (value : Digits.read? 16 digits = some character.toNat) :
      Refers character ('#' :: 'x' :: digits)
  | byName {name : String} (known : (name, character) ∈ named) : Refers character name.toList

/-- Characters spelled one by one: as they are or by reference.  Those in `barred` and
the two that open markup have to be referred to. -/
inductive Characters (barred : List Char) : List Char → List Char → Prop
  | done : Characters barred [] []
  | plain {character : Char} {text spelling : List Char} (notLess : character ≠ '<')
      (notAmpersand : character ≠ '&') (allowed : character ∉ barred)
      (rest : Characters barred text spelling) :
      Characters barred (character :: text) (character :: spelling)
  | reference {character : Char} {name text spelling : List Char}
      (refers : Refers character name) (rest : Characters barred text spelling) :
      Characters barred (character :: text) ('&' :: (name ++ ';' :: spelling))

/-! ### Tags -/

/-- The attributes of a tag, with the blanks before and after them. -/
inductive AttributeList : List (String × String) → List Char → Prop
  | done {blanks : List Char} (blank : Blanks blanks) : AttributeList [] blanks
  | more {key value : String} {before beforeEquals afterEquals written spelling : List Char}
      {quote : Char} {attributes : List (String × String)}
      (separated : before ≠ []) (blank : Blanks before) (isName : IsName key.toList)
      (blankBefore : Blanks beforeEquals) (blankAfter : Blanks afterEquals)
      (quoted : quote = '\"' ∨ quote = '\'') (spelled : Characters [quote] value.toList written)
      (rest : AttributeList attributes spelling) :
      AttributeList ((key, value) :: attributes)
        (before ++ (key.toList ++ (beforeEquals ++ '=' ::
          (afterEquals ++ quote :: (written ++ quote :: spelling)))))

/-- What stands between the brackets of a start tag, but for the slash of an empty
element.  No two attributes have the same name. -/
structure StartTag (name : String) (attributes : List (String × String))
    (content : List Char) : Prop where
  isName : IsName name.toList
  distinct : (attributes.map Prod.fst).Nodup
  spelled : ∃ spelling, AttributeList attributes spelling ∧ content = name.toList ++ spelling

/-! ### What is passed over -/

/-- A comment or a processing instruction. -/
inductive PassedOver : List Char → Prop
  | comment {content : List Char} (noHyphens : ¬ ['-', '-'] <:+: content)
      (ends : content.getLast? ≠ some '-') :
      PassedOver ("<!--".toList ++ content ++ "-->".toList)
  | instruction {target content : List Char} (isName : IsName target)
      (other : target ≠ "xml".toList) (separated : ∀ first ∈ content.head?, isBlank first = true)
      (open? : ¬ ['?', '>'] <:+: content) :
      PassedOver ("<?".toList ++ target ++ content ++ "?>".toList)

theorem PassedOver.ne_nil {markup : List Char} (passed : PassedOver markup) : markup ≠ [] := by
  cases passed <;> exact List.cons_ne_nil _ _

/-! ### Content -/

/-- Content and its spellings. -/
inductive Spells : Content → List Char → Prop
  | nothing : Spells .nothing []
  | passedOver {content : Content} {markup spelling : List Char} (passed : PassedOver markup)
      (rest : Spells content spelling) : Spells content (markup ++ spelling)
  | characters {piece written spelling : List Char} {chunk : String} {content : Content}
      (spelled : Characters [] piece written) (rest : Spells (.text chunk content) spelling) :
      Spells (.text (String.ofList piece ++ chunk) content) (written ++ spelling)
  | cdata {piece spelling : List Char} {chunk : String} {content : Content}
      (unclosed : ¬ [']', ']', '>'] <:+: piece) (rest : Spells (.text chunk content) spelling) :
      Spells (.text (String.ofList piece ++ chunk) content)
        ("<![CDATA[".toList ++ piece ++ "]]>".toList ++ spelling)
  | textEnd {content : Content} {spelling : List Char} (rest : Spells content spelling) :
      Spells (.text "" content) spelling
  | element {name : String} {attributes : List (String × String)} {inner content : Content}
      {tag innerSpelling blanks spelling : List Char} (start : StartTag name attributes tag)
      (inside : Spells inner innerSpelling) (blank : Blanks blanks)
      (rest : Spells content spelling) :
      Spells (.element name attributes inner content)
        ('<' :: (tag ++ '>' :: (innerSpelling ++ ("</".toList ++ (name.toList ++ (blanks ++
          '>' :: spelling))))))
  | emptyElement {name : String} {attributes : List (String × String)} {content : Content}
      {tag spelling : List Char} (start : StartTag name attributes tag)
      (rest : Spells content spelling) :
      Spells (.element name attributes .nothing content)
        ('<' :: (tag ++ '/' :: '>' :: spelling))

end Spelling

end XmlExtract
